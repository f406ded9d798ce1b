/-
Module: ClaudeProxy.Library.Serial
Layer: Library
Purpose: Calls that take effect at once. A call is brief if it sends at most one command. However the
  steps of brief calls interleave in a pool, the pool does what the calls do one after another, each
  alone, in an order in which each of them stands between its start and its end.
Trusted boundary: none
Main exports: Program.Brief, Pool.serial, Pool.Ledger, Pool.Linear, Pool.exists_order
-/
import ClaudeProxy.Library.Processes
import ClaudeProxy.Library.Service
import Mathlib.Data.List.Induction
import Mathlib.Data.List.Perm.Subperm

namespace ClaudeProxy.Library

namespace Program

variable {Command Result Other : Type} {Answer : Command → Type}

/-- It ends with the answer to its first command, if it sends one. -/
def Brief : Program Command Answer Result → Prop
  | .done _ => True
  | .ask _ next => ∀ answer, ∃ result, next answer = .done result

theorem Brief.map (convert : Result → Other) {program : Program Command Answer Result}
    (brief : program.Brief) : (program.map convert).Brief := by
  cases program with
  | done result => trivial
  | ask command next =>
      intro answer
      obtain ⟨result, isDone⟩ := brief answer
      exact ⟨convert result, congrArg (Program.map convert) isDone⟩

end Program

/-- The call that a move starts. -/
def Move.call {Call Choice : Type} : Move Call Choice → Option Call
  | .start call => some call
  | .advance .. | .drop _ => none

namespace Pool

variable {Call Command State Choice Result : Type} {Answer : Command → Type}

section Serial

variable (serve : Choice → (command : Command) → State → Answer command × State)
  (body : Call → Program Command Answer Result)

/-- One call, alone, after others. -/
def follow (done : List Result × State) (entry : Call × Choice) : List Result × State :=
  let (result, after) := (body entry.1).alone serve entry.2 done.2
  (done.1 ++ [result], after)

/-- Calls one after another: their results, and the state after them. -/
def serial (order : List (Call × Choice)) (initial : State) : List Result × State :=
  order.foldl (follow serve body) ([], initial)

theorem serial_snoc (order : List (Call × Choice)) (entry : Call × Choice) (initial : State) :
    serial serve body (order ++ [entry]) initial =
      follow serve body (serial serve body order initial) entry := List.foldl_append

theorem serial_length (order : List (Call × Choice)) (initial : State) :
    (serial serve body order initial).1.length = order.length := by
  induction order using List.reverseRecOn with
  | nil => rfl
  | append_singleton order entry inductionHypothesis =>
      rw [serial_snoc]
      simp [follow, inductionHypothesis]

/-- What a run of the pool comes to, compared with calls one after another: the state they lead to, and
results of theirs; all of them if none is at work and none was given up. -/
structure Linear (initial : State) (moves : List (Move Call Choice)) (order : List (Call × Choice)) :
    Prop where
  state : (Pool.run serve body (.idle initial) moves).state = (serial serve body order initial).2
  results : List.Subperm (Pool.run serve body (.idle initial) moves).finished
    (serial serve body order initial).1
  calls : List.Subperm (order.map (·.1)) (moves.filterMap Move.call)
  complete : (Pool.run serve body (.idle initial) moves).running = [] →
    (∀ index, .drop index ∉ moves) →
      (Pool.run serve body (.idle initial) moves).finished.Perm (serial serve body order initial).1 ∧
        (order.map (·.1)).Perm (moves.filterMap Move.call)

/-! ### The order -/

/-- The calls at work, each as it came or with its result once it took effect, and the calls that took
effect so far. -/
structure Ledger (Call Choice Result : Type) where
  atWork : List (Call ⊕ Result) := []
  order : List (Call × Choice) := []

/-- A call takes effect when its command is served, or when it ends without one. -/
def Ledger.move (initial : State) (ledger : Ledger Call Choice Result) :
    Move Call Choice → Ledger Call Choice Result
  | .start call => { ledger with atWork := ledger.atWork ++ [.inl call] }
  | .drop index => { ledger with atWork := ledger.atWork.eraseIdx index }
  | .advance index choice =>
      match ledger.atWork[index]? with
      | some (.inl call) =>
          { order := ledger.order ++ [(call, choice)]
            atWork :=
              match body call with
              | .done _ => ledger.atWork.eraseIdx index
              | .ask _ _ =>
                  ledger.atWork.set index (.inr ((body call).alone serve choice
                    (serial serve body ledger.order initial).2).1) }
      | some (.inr _) => { ledger with atWork := ledger.atWork.eraseIdx index }
      | none => ledger

/-- The ledger of a pool after calls that have started. -/
structure Ledger.Tells (initial : State) (calls : List Call)
    (pool : Pool Command Answer Result State) (ledger : Ledger Call Choice Result) : Prop where
  state : pool.state = (serial serve body ledger.order initial).2
  running : pool.running = ledger.atWork.map (Sum.elim body .done)
  results : List.Subperm (pool.finished ++ ledger.atWork.filterMap Sum.getRight?)
    (serial serve body ledger.order initial).1
  calls : List.Subperm (ledger.order.map (·.1) ++ ledger.atWork.filterMap Sum.getLeft?) calls
  brief : ∀ call, .inl call ∈ ledger.atWork → (body call).Brief

end Serial

section Steps

variable {serve : Choice → (command : Command) → State → Answer command × State}
  {body : Call → Program Command Answer Result} {initial : State} {calls : List Call}
  {pool : Pool Command Answer Result State} {ledger : Ledger Call Choice Result}

/-- What moves from one list to another stays in both together. -/
theorem subperm_move {α : Type} {first second rest all : List α} {item : α}
    (isSecond : second.Perm (item :: rest)) (within : List.Subperm (first ++ second) all) :
    List.Subperm (first ++ [item] ++ rest) all := by
  refine List.Subperm.trans (List.Perm.subperm ?_) within
  rw [List.append_assoc]
  exact isSecond.symm.append_left first

/-- What is new to both lists stays in both, wherever it stands. -/
theorem subperm_new {α : Type} {before after all : List α} {item : α}
    (isAfter : after.Perm (item :: before)) (within : List.Subperm before all) :
    List.Subperm after (all ++ [item]) :=
  (isAfter.trans (List.perm_append_singleton item before).symm).subperm.trans
    ((List.subperm_append_right [item]).mpr within)

/-- A call takes effect and is over. -/
theorem Ledger.Tells.ends (tells : ledger.Tells serve body initial calls pool) {index : Nat}
    {call : Call} (found : ledger.atWork[index]? = some (.inl call)) {result : Result}
    (isBody : body call = .done result) (choice : Choice) :
    (ledger.move serve body initial (.advance index choice)).Tells serve body initial calls
      (pool.move serve body (.advance index choice)) := by
  obtain ⟨sameState, running, results, isCalls, brief⟩ := tells
  have atIndex : pool.running[index]? = some (.done result) := by
    rw [running, List.getElem?_map, found]
    exact congrArg some isBody
  simp only [Pool.move, atIndex, Ledger.move, found, isBody]
  constructor
  · rw [serial_snoc, follow, isBody]
    exact sameState
  · rw [running, List.eraseIdx_map]
  · have held := Sees.split Sum.getRight? found
    rw [serial_snoc, follow, isBody]
    apply subperm_new _ results
    calc pool.finished ++ [result] ++ (ledger.atWork.eraseIdx index).filterMap Sum.getRight?
      _ |>.Perm (result :: (pool.finished ++ (ledger.atWork.eraseIdx index).filterMap
            Sum.getRight?)) := by
          rw [List.append_assoc]
          exact List.perm_middle
      _ |>.Perm (result :: (pool.finished ++ ledger.atWork.filterMap Sum.getRight?)) :=
          (held.symm.append_left pool.finished).cons result
  · have held := Sees.split Sum.getLeft? found
    rw [List.map_append]
    exact subperm_move held isCalls
  · exact fun other member => brief other (List.mem_of_mem_eraseIdx member)

/-- A call takes effect with the answer to its command. -/
theorem Ledger.Tells.effect (tells : ledger.Tells serve body initial calls pool) {index : Nat}
    {call : Call} (found : ledger.atWork[index]? = some (.inl call)) {command : Command}
    {next : Answer command → Program Command Answer Result}
    (isBody : body call = .ask command next) (choice : Choice) :
    (ledger.move serve body initial (.advance index choice)).Tells serve body initial calls
      (pool.move serve body (.advance index choice)) := by
  obtain ⟨sameState, running, results, isCalls, brief⟩ := tells
  have isBrief := brief call (List.mem_of_getElem? found)
  rw [isBody] at isBrief
  obtain ⟨result, isDone⟩ := isBrief (serve choice command pool.state).1
  have atIndex : pool.running[index]? = some (.ask command next) := by
    rw [running, List.getElem?_map, found]
    exact congrArg some isBody
  have isAlone : (body call).alone serve choice (serial serve body ledger.order initial).2 =
      (result, (serve choice command pool.state).2) := by
    rw [isBody, ← sameState, Program.alone, isDone]
    rfl
  simp only [Pool.move, atIndex, Ledger.move, found, isAlone]
  simp only [isBody]
  constructor
  · rw [serial_snoc, follow, isAlone]
  · rw [running, List.map_set, isDone]
    rfl
  · have held := Sees.split Sum.getRight? found
    have later := Sees.split_set Sum.getRight? found (.inr result)
    rw [serial_snoc, follow, isAlone]
    apply subperm_new _ results
    calc pool.finished ++ (ledger.atWork.set index (.inr result)).filterMap Sum.getRight?
      _ |>.Perm (pool.finished ++
            (result :: (ledger.atWork.eraseIdx index).filterMap Sum.getRight?)) :=
          later.append_left pool.finished
      _ |>.Perm (result :: (pool.finished ++ (ledger.atWork.eraseIdx index).filterMap
            Sum.getRight?)) := List.perm_middle
      _ |>.Perm (result :: (pool.finished ++ ledger.atWork.filterMap Sum.getRight?)) :=
          (held.symm.append_left pool.finished).cons result
  · have held := Sees.split Sum.getLeft? found
    have later := Sees.split_set Sum.getLeft? found (.inr result)
    rw [List.map_append]
    exact (later.append_left _).subperm.trans (subperm_move held isCalls)
  · intro other member
    rcases List.mem_or_eq_of_mem_set member with old | new
    · exact brief other old
    · cases new

/-- A call goes away, with its answer or without one. -/
theorem Ledger.Tells.leave (tells : ledger.Tells serve body initial calls pool) (index : Nat)
    {finished : List Result}
    (answered : List.Subperm (finished ++ (ledger.atWork.eraseIdx index).filterMap Sum.getRight?)
      (pool.finished ++ ledger.atWork.filterMap Sum.getRight?)) :
    Ledger.Tells serve body initial calls
      { pool with running := pool.running.eraseIdx index, finished := finished }
      { ledger with atWork := ledger.atWork.eraseIdx index } := by
  obtain ⟨sameState, running, results, isCalls, brief⟩ := tells
  constructor
  · exact sameState
  · rw [running, List.eraseIdx_map]
  · exact answered.trans results
  · refine List.Subperm.trans (List.Sublist.subperm ?_) isCalls
    exact ((List.eraseIdx_sublist _ _).filterMap _).append_left _
  · exact fun other member => brief other (List.mem_of_mem_eraseIdx member)

theorem Ledger.Tells.move (tells : ledger.Tells serve body initial calls pool)
    (next : Move Call Choice) (started : ∀ call, next = .start call → (body call).Brief) :
    (ledger.move serve body initial next).Tells serve body initial (calls ++ next.call.toList)
      (pool.move serve body next) := by
  cases next with
  | start call =>
      obtain ⟨sameState, running, results, isCalls, brief⟩ := tells
      constructor
      · exact sameState
      · simp [Pool.move, Ledger.move, running]
      · have unanswered : [Sum.inl call].filterMap Sum.getRight? = ([] : List Result) := rfl
        simpa [Pool.move, Ledger.move, unanswered] using results
      · have grown := (List.subperm_append_right [call]).mpr isCalls
        simpa [Ledger.move, Move.call] using grown
      · intro other member
        rcases List.mem_append.mp member with old | new
        · exact brief other old
        · cases List.mem_singleton.mp new
          exact started call rfl
  | drop index =>
      rw [Move.call, Option.toList_none, List.append_nil]
      apply tells.leave index
      exact (((List.eraseIdx_sublist _ _).filterMap _).append_left _).subperm
  | advance index choice =>
      rw [Move.call, Option.toList_none, List.append_nil]
      cases found : ledger.atWork[index]? with
      | none =>
          have absent : pool.running[index]? = none := by
            rw [tells.running, List.getElem?_map, found]
            rfl
          simp only [Pool.move, absent, Ledger.move, found]
          exact tells
      | some entry =>
          cases entry with
          | inl call =>
              cases isBody : body call with
              | done result => exact tells.ends found isBody choice
              | ask command next => exact tells.effect found isBody choice
          | inr result =>
              have atIndex : pool.running[index]? = some (.done result) := by
                rw [tells.running, List.getElem?_map, found]
                rfl
              simp only [Pool.move, atIndex, Ledger.move, found]
              apply tells.leave index
              have held := Sees.split Sum.getRight? found
              exact (subperm_move held (List.Subperm.refl _))

end Steps

/-! ### Runs -/

variable (serve : Choice → (command : Command) → State → Answer command × State)
  (body : Call → Program Command Answer Result)

/-- The order of a run. -/
def ledgerOf (initial : State) (moves : List (Move Call Choice)) : Ledger Call Choice Result :=
  moves.foldl (Ledger.move serve body initial) {}

theorem ledgerOf_tells (initial : State) (moves : List (Move Call Choice))
    (brief : ∀ call, .start call ∈ moves → (body call).Brief) :
    (ledgerOf serve body initial moves).Tells serve body initial (moves.filterMap Move.call)
      (Pool.run serve body (.idle initial) moves) := by
  induction moves using List.reverseRecOn with
  | nil =>
      exact ⟨rfl, rfl, List.Subperm.refl _, List.Subperm.refl _, fun _ => List.not_mem_nil.elim⟩
  | append_singleton moves next inductionHypothesis =>
      have before := inductionHypothesis fun call member =>
        brief call (List.mem_append_left _ member)
      have after := before.move next fun call isStart =>
        brief call (List.mem_append_right _ (isStart ▸ List.mem_singleton_self _))
      have last : [next].filterMap Move.call = next.call.toList := by cases next <;> rfl
      simpa [ledgerOf, Pool.run, last] using after

/-- No call is lost, unless one is given up. -/
theorem length_run (initial : State) (moves : List (Move Call Choice))
    (noDrop : ∀ index, .drop index ∉ moves) :
    (Pool.run serve body (.idle initial) moves).finished.length +
        (Pool.run serve body (.idle initial) moves).running.length =
      (moves.filterMap Move.call).length := by
  induction moves using List.reverseRecOn with
  | nil => rfl
  | append_singleton moves next inductionHypothesis =>
      have before := inductionHypothesis fun index member =>
        noDrop index (List.mem_append_left _ member)
      have isRun : Pool.run serve body (.idle initial) (moves ++ [next]) =
          (Pool.run serve body (.idle initial) moves).move serve body next := List.foldl_append
      rw [isRun, List.filterMap_append, List.length_append, ← before]
      generalize Pool.run serve body (.idle initial) moves = pool
      cases next with
      | start call =>
          simp only [Pool.move, List.length_append, List.filterMap_cons, Move.call,
            List.filterMap_nil, List.length_singleton]
          omega
      | drop index => exact absurd (List.mem_append_right _ (List.mem_singleton_self _)) (noDrop index)
      | advance index choice =>
          simp only [Pool.move, List.filterMap_cons, Move.call, List.filterMap_nil, List.length_nil]
          split
          · rename_i result found
            have bound := (List.getElem?_eq_some_iff.mp found).1
            simp only [List.length_append, List.length_singleton, List.length_eraseIdx_of_lt bound]
            omega
          · simp only [List.length_set]
            omega
          · omega

/-- What took effect stays first in the order. -/
theorem order_prefix_move (initial : State) (ledger : Ledger Call Choice Result)
    (next : Move Call Choice) :
    ledger.order <+: (ledger.move serve body initial next).order := by
  cases next with
  | start call => exact List.prefix_rfl
  | drop index => exact List.prefix_rfl
  | advance index choice =>
      simp only [Ledger.move]
      split
      · exact List.prefix_append _ _
      · exact List.prefix_rfl
      · exact List.prefix_rfl

/-- Brief calls take effect one after another. -/
theorem exists_order (initial : State) :
    ∃ order : List (Move Call Choice) → List (Call × Choice),
      (∀ first second, order first <+: order (first ++ second)) ∧
      ∀ moves, (∀ call, .start call ∈ moves → (body call).Brief) →
        Linear serve body initial moves (order moves) := by
  refine ⟨fun moves => (ledgerOf serve body initial moves).order, fun first second => ?_,
    fun moves brief => ?_⟩
  · simp only [ledgerOf, List.foldl_append]
    generalize first.foldl (Ledger.move serve body initial) {} = ledger
    induction second generalizing ledger with
    | nil => exact List.prefix_rfl
    | cons next rest inductionHypothesis =>
        exact (order_prefix_move serve body initial ledger next).trans (inductionHypothesis _)
  · have tells := ledgerOf_tells serve body initial moves brief
    have results := (List.sublist_append_left _ _).subperm.trans tells.results
    have calls := (List.sublist_append_left _ _).subperm.trans tells.calls
    refine ⟨tells.state, results, calls, fun nobody noDrop => ?_⟩
    have total := length_run serve body initial moves noDrop
    have atMost := results.length_le
    have started := calls.length_le
    rw [nobody, List.length_nil, Nat.add_zero] at total
    rw [serial_length] at atMost
    rw [List.length_map] at started
    constructor
    · exact results.perm_of_length_le (by rw [serial_length]; omega)
    · exact calls.perm_of_length_le (by rw [List.length_map]; omega)

end Pool

end ClaudeProxy.Library
