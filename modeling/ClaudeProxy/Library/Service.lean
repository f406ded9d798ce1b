/-
Module: ClaudeProxy.Library.Service
Layer: Library
Purpose: A service that works on many calls at once over one shared state. Each call is a program
  that sends commands to the state, one at a time, and continues with each answer; the state serves
  one command after the other, and between two commands of one program those of others may run.
Trusted boundary: none
Main exports: Program, Program.Within, Program.Given, Program.alone, Program.Keeps, Pool, Move, Pool.move, Pool.run,
  Pool.Within, Pool.Within.run, Pool.move_state, Pool.Coherent, Pool.Coherent.move,
  Pool.Exclusive, Pool.Exclusive.move, Pool.exists_run_alone
-/
import Mathlib.Data.List.Perm.Basic

namespace ClaudeProxy.Library

/-- A program that may send commands and continue with their answers, and ends with a result. -/
inductive Program (Command : Type) (Answer : Command → Type) (Result : Type) where
  | done (result : Result)
  | ask (command : Command) (next : Answer command → Program Command Answer Result)

namespace Program

variable {Command State Choice Result Other : Type} {Answer : Command → Type}

def map (convert : Result → Other) : Program Command Answer Result → Program Command Answer Other
  | .done result => .done (convert result)
  | .ask command next => .ask command fun answer => (next answer).map convert

/-- One program and then another, which depends on the result of the first. -/
def bind (program : Program Command Answer Result) (next : Result → Program Command Answer Other) :
    Program Command Answer Other :=
  match program with
  | .done result => next result
  | .ask command resume => .ask command fun answer => (resume answer).bind next

/-- Every command the program may send is allowed and every result it may end with is wanted,
whatever the answers. -/
def Within (allowed : Command → Prop) (wanted : Result → Prop) :
    Program Command Answer Result → Prop
  | .done result => wanted result
  | .ask command next => allowed command ∧ ∀ answer, (next answer).Within allowed wanted

theorem Within.weaken {allowed : Command → Prop} {wanted accepted : Result → Prop}
    (weaker : ∀ result, wanted result → accepted result) {program : Program Command Answer Result}
    (within : program.Within allowed wanted) : program.Within allowed accepted := by
  induction program with
  | done result => exact weaker result within
  | ask command next inductionHypothesis =>
      obtain ⟨permitted, rest⟩ := within
      exact ⟨permitted, fun answer => inductionHypothesis answer (rest answer)⟩

theorem Within.permit {allowed permitted : Command → Prop} {wanted : Result → Prop}
    (weaker : ∀ command, allowed command → permitted command)
    {program : Program Command Answer Result} (within : program.Within allowed wanted) :
    program.Within permitted wanted := by
  induction program with
  | done result => exact within
  | ask command next inductionHypothesis =>
      obtain ⟨here, rest⟩ := within
      exact ⟨weaker command here, fun answer => inductionHypothesis answer (rest answer)⟩

theorem Within.map {allowed : Command → Prop} {wanted : Result → Prop} {expected : Other → Prop}
    {convert : Result → Other} (carried : ∀ result, wanted result → expected (convert result))
    {program : Program Command Answer Result} (within : program.Within allowed wanted) :
    (program.map convert).Within allowed expected := by
  induction program with
  | done result => exact carried result within
  | ask command next inductionHypothesis =>
      obtain ⟨permitted, rest⟩ := within
      exact ⟨permitted, fun answer => inductionHypothesis answer (rest answer)⟩

theorem Within.bind {allowed : Command → Prop} {wanted : Result → Prop} {expected : Other → Prop}
    {next : Result → Program Command Answer Other}
    (rest : ∀ result, wanted result → (next result).Within allowed expected)
    {program : Program Command Answer Result} (within : program.Within allowed wanted) :
    (program.bind next).Within allowed expected := by
  induction program with
  | done result => exact rest result within
  | ask command resume inductionHypothesis =>
      obtain ⟨permitted, later⟩ := within
      exact ⟨permitted, fun answer => inductionHypothesis answer (later answer)⟩

/-- The same, when only some answers to a command are possible. -/
def Given (possible : (command : Command) → Answer command → Prop) (allowed : Command → Prop)
    (wanted : Result → Prop) : Program Command Answer Result → Prop
  | .done result => wanted result
  | .ask command next =>
      allowed command ∧
        ∀ answer, possible command answer → (next answer).Given possible allowed wanted

theorem Within.given {possible : (command : Command) → Answer command → Prop}
    {allowed : Command → Prop} {wanted : Result → Prop}
    {program : Program Command Answer Result} (within : program.Within allowed wanted) :
    program.Given possible allowed wanted := by
  induction program with
  | done result => exact within
  | ask command next inductionHypothesis =>
      obtain ⟨permitted, rest⟩ := within
      exact ⟨permitted, fun answer _ => inductionHypothesis answer (rest answer)⟩

theorem Given.map {possible : (command : Command) → Answer command → Prop}
    {allowed : Command → Prop} {wanted : Result → Prop} {expected : Other → Prop}
    {convert : Result → Other} (carried : ∀ result, wanted result → expected (convert result))
    {program : Program Command Answer Result} (given : program.Given possible allowed wanted) :
    (program.map convert).Given possible allowed expected := by
  induction program with
  | done result => exact carried result given
  | ask command next inductionHypothesis =>
      obtain ⟨permitted, rest⟩ := given
      exact ⟨permitted, fun answer isPossible =>
        inductionHypothesis answer (rest answer isPossible)⟩

theorem Given.bind {possible : (command : Command) → Answer command → Prop}
    {allowed : Command → Prop} {wanted : Result → Prop} {expected : Other → Prop}
    {next : Result → Program Command Answer Other}
    (rest : ∀ result, wanted result → (next result).Given possible allowed expected)
    {program : Program Command Answer Result} (given : program.Given possible allowed wanted) :
    (program.bind next).Given possible allowed expected := by
  induction program with
  | done result => exact rest result given
  | ask command resume inductionHypothesis =>
      obtain ⟨permitted, later⟩ := given
      exact ⟨permitted, fun answer isPossible =>
        inductionHypothesis answer (later answer isPossible)⟩

variable (serve : Choice → (command : Command) → State → Answer command × State)

/-- The program run with nothing else around, every command served under one choice. -/
def alone (choice : Choice) : Program Command Answer Result → State → Result × State
  | .done result, state => (result, state)
  | .ask command next, state =>
      (next (serve choice command state).1).alone choice (serve choice command state).2

theorem alone_map (choice : Choice) (convert : Result → Other)
    (program : Program Command Answer Result) (state : State) :
    (program.map convert).alone serve choice state =
      (convert (program.alone serve choice state).1, (program.alone serve choice state).2) := by
  induction program generalizing state with
  | done result => rfl
  | ask command next inductionHypothesis => exact inductionHypothesis _ _

/-- What every allowed command keeps, a program run alone keeps. -/
theorem Within.alone {allowed : Command → Prop} {wanted : Result → Prop} {related : State → Prop}
    {choice : Choice}
    (kept : ∀ command state, allowed command → related state →
      related (serve choice command state).2)
    {program : Program Command Answer Result} (within : program.Within allowed wanted)
    {state : State} (initially : related state) :
    related (program.alone serve choice state).2 := by
  induction program generalizing state with
  | done result => exact initially
  | ask command next inductionHypothesis =>
      obtain ⟨permitted, rest⟩ := within
      exact inductionHypothesis _ (rest _) (kept command state permitted initially)

/-- Whatever the choices, every state is related from here on, while the program runs with nothing
else around. -/
def Keeps (related : State → Prop) : Program Command Answer Result → State → Prop
  | .done _, state => related state
  | .ask command next, state =>
      related state ∧ ∀ choice,
        (next (serve choice command state).1).Keeps related (serve choice command state).2

theorem Keeps.here {related : State → Prop} {program : Program Command Answer Result}
    {state : State} (keeps : program.Keeps serve related state) : related state := by
  cases program with
  | done result => exact keeps
  | ask command next => exact keeps.1

theorem Keeps.bind {related : State → Prop} {next : Result → Program Command Answer Other}
    (rest : ∀ result state, related state → (next result).Keeps serve related state)
    {program : Program Command Answer Result} {state : State}
    (keeps : program.Keeps serve related state) :
    (program.bind next).Keeps serve related state := by
  induction program generalizing state with
  | done result => exact rest result state keeps
  | ask command resume inductionHypothesis =>
      obtain ⟨here, later⟩ := keeps
      exact ⟨here, fun choice => inductionHypothesis _ (later choice)⟩

end Program

/-! ### Many programs at once -/

/-- The shared state, the programs under way and the results of those that ended. -/
structure Pool (Command : Type) (Answer : Command → Type) (Result State : Type) where
  state : State
  running : List (Program Command Answer Result)
  finished : List Result

/-- A new call, the next command of a program under way (or its end), or a program given up. -/
inductive Move (Call Choice : Type) where
  | start (call : Call)
  | advance (index : Nat) (choice : Choice)
  | drop (index : Nat)

namespace Pool

variable {Call Command State Choice Result : Type} {Answer : Command → Type}

def idle (state : State) : Pool Command Answer Result State := ⟨state, [], []⟩

variable (serve : Choice → (command : Command) → State → Answer command × State)
  (body : Call → Program Command Answer Result)

def move (pool : Pool Command Answer Result State) :
    Move Call Choice → Pool Command Answer Result State
  | .start call => { pool with running := pool.running ++ [body call] }
  | .advance index choice =>
      match pool.running[index]? with
      | some (.done result) =>
          { pool with running := pool.running.eraseIdx index, finished := pool.finished ++ [result] }
      | some (.ask command next) =>
          { pool with
            state := (serve choice command pool.state).2
            running := pool.running.set index (next (serve choice command pool.state).1) }
      | none => pool
  | .drop index => { pool with running := pool.running.eraseIdx index }

def run (pool : Pool Command Answer Result State) (moves : List (Move Call Choice)) :
    Pool Command Answer Result State :=
  moves.foldl (move serve body) pool

/-- A move leaves the state as it is, unless it serves a command. -/
theorem move_state (pool : Pool Command Answer Result State) (next : Move Call Choice) :
    (pool.move serve body next).state = pool.state ∨
    ∃ index choice command resume, next = .advance index choice ∧
      pool.running[index]? = some (.ask command resume) ∧
      (pool.move serve body next).state = (serve choice command pool.state).2 := by
  cases next with
  | start call => exact .inl rfl
  | drop index => exact .inl rfl
  | advance index choice =>
      cases found : pool.running[index]? with
      | none =>
          left
          simp only [Pool.move, found]
      | some program =>
          cases program with
          | done result =>
              left
              simp only [Pool.move, found]
          | ask command resume =>
              right
              refine ⟨index, choice, command, resume, rfl, found, ?_⟩
              simp only [Pool.move, found]

variable {serve body} {pool : Pool Command Answer Result State}

/-! ### Programs in phases -/

/-- Every program under way is in one of its phases, which depend on the state, and every result is
one that the state answers for. -/
structure Coherent (phase : State → Program Command Answer Result → Prop)
    (answered : State → Result → Prop) (pool : Pool Command Answer Result State) : Prop where
  running : ∀ program ∈ pool.running, phase pool.state program
  finished : ∀ result ∈ pool.finished, answered pool.state result

/-- One move keeps it, when a new program is in its first phase, the phase of an ended one says what
its result is, and a served command leads its own program to the next phase and leaves those of the
others and the results as they were. -/
theorem Coherent.move {phase : State → Program Command Answer Result → Prop}
    {answered : State → Result → Prop} {next : Move Call Choice}
    (started : ∀ call, next = .start call → phase pool.state (body call))
    (ended : ∀ result, phase pool.state (.done result) → answered pool.state result)
    (served : ∀ index choice command resume, next = .advance index choice →
      pool.running[index]? = some (.ask command resume) →
      phase pool.state (.ask command resume) →
      let (answer, state) := serve choice command pool.state
      phase state (resume answer) ∧
        (∀ other program, other ≠ index → pool.running[other]? = some program →
          phase pool.state program → phase state program) ∧
        ∀ result, answered pool.state result → answered state result)
    (coherent : pool.Coherent phase answered) :
    (pool.move serve body next).Coherent phase answered := by
  obtain ⟨running, finished⟩ := coherent
  cases next with
  | start call =>
      constructor
      · intro program member
        rcases List.mem_append.mp member with old | new
        · exact running program old
        · rw [List.mem_singleton.mp new]
          exact started call rfl
      · exact finished
  | drop index =>
      constructor
      · intro program member
        exact running program (List.mem_of_mem_eraseIdx member)
      · exact finished
  | advance index choice =>
      cases found : pool.running[index]? with
      | none =>
          simp only [Pool.move, found]
          exact ⟨running, finished⟩
      | some program =>
          have here := running program (List.mem_of_getElem? found)
          cases program with
          | done result =>
              simp only [Pool.move, found]
              constructor
              · intro program member
                exact running program (List.mem_of_mem_eraseIdx member)
              · intro answer member
                rcases List.mem_append.mp member with old | new
                · exact finished answer old
                · rw [List.mem_singleton.mp new]
                  exact ended result here
          | ask command resume =>
              obtain ⟨advanced, others, results⟩ :=
                served index choice command resume rfl found here
              simp only [Pool.move, found]
              constructor
              · intro program member
                obtain ⟨other, otherEq⟩ := List.mem_iff_getElem?.mp member
                by_cases same : other = index
                · subst same
                  have bound := (List.getElem?_eq_some_iff.mp found).1
                  rw [List.getElem?_set_self bound] at otherEq
                  cases otherEq
                  exact advanced
                · rw [List.getElem?_set_ne (Ne.symm same)] at otherEq
                  exact others other program same otherEq
                    (running program (List.mem_of_getElem? otherEq))
              · intro result member
                exact results result (finished result member)

/-! ### Programs within bounds -/

/-- Everything under way stays within what is allowed and wanted, every result is wanted, and the
state is related to the one at the start. -/
structure Within (allowed : Command → Prop) (wanted : Result → Prop) (related : State → Prop)
    (pool : Pool Command Answer Result State) : Prop where
  running : ∀ program ∈ pool.running, program.Within allowed wanted
  finished : ∀ result ∈ pool.finished, wanted result
  state : related pool.state

section Within

variable {allowed : Command → Prop} {wanted : Result → Prop} {related : State → Prop}

theorem Within.idle {state : State} (holds : related state) :
    (Pool.idle state : Pool Command Answer Result State).Within allowed wanted related :=
  ⟨fun _ member => absurd member List.not_mem_nil, fun _ member => absurd member List.not_mem_nil,
    holds⟩

/-- One move keeps it, when every allowed command keeps the state related and the calls that start
stay within. -/
theorem Within.move
    (kept : ∀ choice command state, allowed command → related state →
      related (serve choice command state).2)
    {next : Move Call Choice}
    (started : ∀ call, next = .start call → (body call).Within allowed wanted)
    (within : pool.Within allowed wanted related) :
    (pool.move serve body next).Within allowed wanted related := by
  obtain ⟨running, finished, state⟩ := within
  have coherent : (pool.move serve body next).Coherent
      (fun _ program => program.Within allowed wanted) fun _ result => wanted result := by
    apply Coherent.move started
    · intro result here
      exact here
    · intro index choice command resume _ _ here
      exact ⟨here.2 _, fun _ _ _ _ there => there, fun _ told => told⟩
    · exact ⟨running, finished⟩
  refine ⟨coherent.running, coherent.finished, ?_⟩
  rcases pool.move_state serve body next with
    same | ⟨index, choice, command, resume, _, found, after⟩
  · rw [same]
    exact state
  · rw [after]
    have permitted := (running _ (List.mem_of_getElem? found)).1
    exact kept choice command pool.state permitted state

/-- So does a whole run. -/
theorem Within.run
    (kept : ∀ choice command state, allowed command → related state →
      related (serve choice command state).2)
    {moves : List (Move Call Choice)}
    (started : ∀ call, .start call ∈ moves → (body call).Within allowed wanted)
    (within : pool.Within allowed wanted related) :
    (pool.run serve body moves).Within allowed wanted related := by
  induction moves generalizing pool with
  | nil => exact within
  | cons next rest inductionHypothesis =>
      apply inductionHypothesis
      · intro call member
        exact started call (List.mem_cons_of_mem _ member)
      · apply within.move kept
        intro call isStart
        exact started call (isStart ▸ List.mem_cons_self)

end Within

/-! ### One program at a place -/

/-- At most one program under way is at the marked place. -/
def Exclusive (marked : Program Command Answer Result → Bool)
    (pool : Pool Command Answer Result State) : Prop :=
  pool.running.countP marked ≤ 1

/-- While one program is there, no other is. -/
theorem Exclusive.elsewhere {marked : Program Command Answer Result → Bool}
    (exclusive : pool.Exclusive marked) {index other : Nat}
    {program another : Program Command Answer Result}
    (found : pool.running[index]? = some program) (there : marked program = true)
    (different : other ≠ index) (foundOther : pool.running[other]? = some another) :
    marked another = false := by
  obtain ⟨bound, atIndex⟩ := List.getElem?_eq_some_iff.mp found
  have split := (List.getElem_cons_eraseIdx_perm bound).countP_eq marked
  have counted : (pool.running.eraseIdx index).countP marked = 0 := by
    rw [atIndex, List.countP_cons_of_pos there] at split
    have atMost : pool.running.countP marked ≤ 1 := exclusive
    omega
  have remaining : another ∈ pool.running.eraseIdx index :=
    List.mem_eraseIdx_iff_getElem?.mpr ⟨other, different, foundOther⟩
  simpa using List.countP_eq_zero.mp counted another remaining

/-- One move keeps it, when no new program is there, and a program gets there only while nobody
is. -/
theorem Exclusive.move {marked : Program Command Answer Result → Bool} {next : Move Call Choice}
    (started : ∀ call, next = .start call → marked (body call) = false)
    (reached : ∀ index choice command resume, next = .advance index choice →
      pool.running[index]? = some (.ask command resume) →
      marked (resume (serve choice command pool.state).1) = true →
      ∀ program ∈ pool.running, marked program = false)
    (exclusive : pool.Exclusive marked) : (pool.move serve body next).Exclusive marked := by
  cases next with
  | start call =>
      have unmarked := started call rfl
      simpa [Exclusive, Pool.move, unmarked] using exclusive
  | drop index =>
      exact Nat.le_trans (List.eraseIdx_sublist _ _).countP_le exclusive
  | advance index choice =>
      cases found : pool.running[index]? with
      | none =>
          simp only [Pool.move, found]
          exact exclusive
      | some program =>
          cases program with
          | done result =>
              simp only [Pool.move, found]
              exact Nat.le_trans (List.eraseIdx_sublist _ _).countP_le exclusive
          | ask command resume =>
              have bound := (List.getElem?_eq_some_iff.mp found).1
              simp only [Pool.move, found, Exclusive]
              rw [List.countP_set bound]
              by_cases there : marked (resume (serve choice command pool.state).1) = true
              · have nobody : pool.running.countP marked = 0 := by
                  apply List.countP_eq_zero.mpr
                  intro other member
                  simp [reached index choice command resume rfl found there other member]
                rw [nobody, if_pos there]
                omega
              · rw [if_neg there]
                have atMost : pool.running.countP marked ≤ 1 := exclusive
                omega

variable (serve body)

/-- A program under way, alone in the pool, can be taken to its end. -/
theorem exists_run_alone_of_running (choice : Choice) (program : Program Command Answer Result)
    (state : State) :
    ∃ moves : List (Move Call Choice), (∀ call, .start call ∉ moves) ∧
      Pool.run serve body ⟨state, [program], []⟩ moves =
        ⟨(program.alone serve choice state).2, [], [(program.alone serve choice state).1]⟩ := by
  induction program generalizing state with
  | done result => exact ⟨[.advance 0 choice], by simp, rfl⟩
  | ask command next inductionHypothesis =>
      obtain ⟨moves, noStart, reaches⟩ :=
        inductionHypothesis (serve choice command state).1 (serve choice command state).2
      refine ⟨.advance 0 choice :: moves, ?_, reaches⟩
      intro call member
      rcases List.mem_cons.mp member with isStart | later
      · cases isStart
      · exact noStart call later

/-- From an idle pool, one call alone can be started and taken to its end. -/
theorem exists_run_alone (choice : Choice) (call : Call) (state : State) :
    ∃ moves : List (Move Call Choice), (∀ other, .start other ∈ moves → other = call) ∧
      (Pool.idle state : Pool Command Answer Result State).run serve body moves =
        ⟨((body call).alone serve choice state).2, [],
          [((body call).alone serve choice state).1]⟩ := by
  obtain ⟨moves, noStart, reaches⟩ :=
    exists_run_alone_of_running serve body choice (body call) state
  refine ⟨.start call :: moves, ?_, reaches⟩
  intro other member
  rcases List.mem_cons.mp member with isStart | later
  · exact Move.start.inj isStart
  · exact absurd later (noStart other)

end Pool

end ClaudeProxy.Library
