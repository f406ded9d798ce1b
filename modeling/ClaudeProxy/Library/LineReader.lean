/-
Module: ClaudeProxy.Library.LineReader
Layer: Library
Purpose: Reading delimited lines from input that arrives in chunks. `drain` is the inner loop of a
  reader: cut the first complete line off the buffer, act on it, repeat. `pump` is the outer loop:
  append the next chunk to the buffer, then drain. The central fact is that the chunks do not
  matter: a pump does what draining the concatenated input does (`pump_chunks`), and draining is one
  pass over the complete lines of the input (`drain_eq_runLines`), so the unterminated tail is never
  acted on.
Trusted boundary: none
Main exports: cut, lines, remainder, Flow, drain, pump, runLines, drain_eq_runLines, pump_chunks,
  runLines_monotone
-/
import ClaudeProxy.Library.Generator

namespace ClaudeProxy.Library

section Cutting

variable {α : Type} [DecidableEq α]

/-- The first complete line, without its delimiter, and what follows it. -/
def cut (delimiter : α) : List α → Option (List α × List α)
  | [] => none
  | symbol :: rest =>
      if symbol = delimiter then some ([], rest)
      else (cut delimiter rest).map fun parts => (symbol :: parts.1, parts.2)

/-- The complete lines of an input, without their delimiters. -/
def lines (delimiter : α) : List α → List (List α)
  | [] => []
  | symbol :: rest =>
      if symbol = delimiter then [] :: lines delimiter rest
      else
        match cut delimiter rest with
        | none => []
        | some _ => (lines delimiter rest).modifyHead (symbol :: ·)

/-- What follows the last delimiter of an input. -/
def remainder (delimiter : α) : List α → List α
  | [] => []
  | symbol :: rest =>
      if symbol = delimiter then remainder delimiter rest
      else
        match cut delimiter rest with
        | none => symbol :: rest
        | some _ => remainder delimiter rest

variable {delimiter : α} {input line rest : List α}

theorem cut_eq_none : cut delimiter input = none ↔ delimiter ∉ input := by
  induction input with
  | nil => simp [cut]
  | cons symbol tail inductionHypothesis =>
      by_cases hit : symbol = delimiter
      · simp [cut, hit]
      · have other : ¬ delimiter = symbol := fun same => hit same.symm
        simp [cut, hit, other, inductionHypothesis]

theorem cut_append_delimiter (clean : delimiter ∉ line) (rest : List α) :
    cut delimiter (line ++ delimiter :: rest) = some (line, rest) := by
  induction line with
  | nil => simp [cut]
  | cons symbol tail inductionHypothesis =>
      simp only [List.mem_cons, not_or] at clean
      have miss : ¬ symbol = delimiter := fun same => clean.1 same.symm
      simp [cut, miss, inductionHypothesis clean.2]

/-- The only way an input has a first line. -/
theorem cut_eq_some (found : cut delimiter input = some (line, rest)) :
    input = line ++ delimiter :: rest ∧ delimiter ∉ line := by
  induction input generalizing line with
  | nil => simp [cut] at found
  | cons symbol tail inductionHypothesis =>
      by_cases hit : symbol = delimiter
      · simp only [cut, if_pos hit, Option.some.injEq, Prod.mk.injEq] at found
        obtain ⟨rfl, rfl⟩ := found
        simp [hit]
      · simp only [cut, if_neg hit, Option.map_eq_some_iff] at found
        obtain ⟨⟨before, after⟩, tailFound, same⟩ := found
        simp only [Prod.mk.injEq] at same
        obtain ⟨rfl, rfl⟩ := same
        obtain ⟨tailEq, clean⟩ := inductionHypothesis tailFound
        have miss : ¬ delimiter = symbol := fun same => hit same.symm
        exact ⟨by simp [tailEq], by simp [clean, miss]⟩

theorem cut_length (found : cut delimiter input = some (line, rest)) :
    rest.length < input.length := by
  rw [(cut_eq_some found).1]
  simp only [List.length_append, List.length_cons]
  omega

theorem lines_of_not_mem (clean : delimiter ∉ input) : lines delimiter input = [] := by
  cases input with
  | nil => rfl
  | cons symbol tail =>
      simp only [List.mem_cons, not_or] at clean
      have miss : ¬ symbol = delimiter := fun same => clean.1 same.symm
      simp [lines, miss, cut_eq_none.mpr clean.2]

theorem remainder_of_not_mem (clean : delimiter ∉ input) : remainder delimiter input = input := by
  cases input with
  | nil => rfl
  | cons symbol tail =>
      simp only [List.mem_cons, not_or] at clean
      have miss : ¬ symbol = delimiter := fun same => clean.1 same.symm
      simp [remainder, miss, cut_eq_none.mpr clean.2]

theorem lines_append_delimiter (clean : delimiter ∉ line) (rest : List α) :
    lines delimiter (line ++ delimiter :: rest) = line :: lines delimiter rest := by
  induction line with
  | nil => simp [lines]
  | cons symbol tail inductionHypothesis =>
      simp only [List.mem_cons, not_or] at clean
      have miss : ¬ symbol = delimiter := fun same => clean.1 same.symm
      simp [lines, miss, cut_append_delimiter clean.2, inductionHypothesis clean.2]

theorem remainder_append_delimiter (clean : delimiter ∉ line) (rest : List α) :
    remainder delimiter (line ++ delimiter :: rest) = remainder delimiter rest := by
  induction line with
  | nil => simp [remainder]
  | cons symbol tail inductionHypothesis =>
      simp only [List.mem_cons, not_or] at clean
      have miss : ¬ symbol = delimiter := fun same => clean.1 same.symm
      simp [remainder, miss, cut_append_delimiter clean.2, inductionHypothesis clean.2]

theorem remainder_clean (input : List α) : delimiter ∉ remainder delimiter input := by
  induction input with
  | nil => simp [remainder]
  | cons symbol tail inductionHypothesis =>
      by_cases hit : symbol = delimiter
      · simpa [remainder, hit] using inductionHypothesis
      · cases found : cut delimiter tail with
        | some parts => simpa [remainder, hit, found] using inductionHypothesis
        | none =>
            have other : ¬ delimiter = symbol := fun same => hit same.symm
            simpa [remainder, hit, found, other] using cut_eq_none.mp found

/-- Induction over an input by its lines: an unterminated piece, or a line and what follows it. -/
theorem lineInduction (delimiter : α) {motive : List α → Prop}
    (tail : ∀ input, delimiter ∉ input → motive input)
    (step : ∀ line rest, delimiter ∉ line → motive rest → motive (line ++ delimiter :: rest))
    (input : List α) : motive input := by
  induction size : input.length using Nat.strongRecOn generalizing input with
  | _ size inductionHypothesis =>
      subst size
      cases found : cut delimiter input with
      | none => exact tail input (cut_eq_none.mp found)
      | some parts =>
          obtain ⟨line, rest⟩ := parts
          obtain ⟨inputEq, clean⟩ := cut_eq_some found
          rw [inputEq]
          exact step line rest clean (inductionHypothesis _ (cut_length found) rest rfl)

/-- Appending input appends lines: the first new line starts with the old remainder. -/
theorem lines_append (first second : List α) :
    lines delimiter (first ++ second) =
      lines delimiter first ++ lines delimiter (remainder delimiter first ++ second) := by
  induction first using lineInduction delimiter with
  | tail input clean => simp [lines_of_not_mem clean, remainder_of_not_mem clean]
  | step line rest clean inductionHypothesis =>
      rw [List.append_assoc, List.cons_append, lines_append_delimiter clean,
        lines_append_delimiter clean, remainder_append_delimiter clean, inductionHypothesis,
        List.cons_append]

theorem remainder_append (first second : List α) :
    remainder delimiter (first ++ second) =
      remainder delimiter (remainder delimiter first ++ second) := by
  induction first using lineInduction delimiter with
  | tail input clean => rw [remainder_of_not_mem clean]
  | step line rest clean inductionHypothesis =>
      rw [List.append_assoc, List.cons_append, remainder_append_delimiter clean,
        remainder_append_delimiter clean, inductionHypothesis]

/-- The complete lines of a prefix are a prefix of the complete lines. -/
theorem lines_prefix {short long : List α} (isPrefix : short <+: long) :
    lines delimiter short <+: lines delimiter long := by
  obtain ⟨rest, rfl⟩ := isPrefix
  exact ⟨_, (lines_append short rest).symm⟩

/-- An input that is empty or ends with the delimiter has no remainder. -/
theorem remainder_terminated (before : List α) : remainder delimiter (before ++ [delimiter]) = [] := by
  rw [remainder_append, remainder_append_delimiter (remainder_clean before)]
  rfl

end Cutting

/-- What a loop body decides: go on from a new state, or leave the whole generator. -/
inductive Flow (σ : Type) where
  | next (state : σ)
  | done
deriving Repr

/-- Go on from the state of `run`, unless it left the generator. -/
def Gen.resume {ε γ σ τ : Type} (run : Gen ε γ (Flow σ)) (continuation : σ → Gen ε γ (Flow τ)) :
    Gen ε γ (Flow τ) := do
  match ← run with
  | .done => pure .done
  | .next state => continuation state

namespace Gen

variable {ε γ σ τ υ : Type}

@[simp] theorem next_resume (state : σ) (continuation : σ → Gen ε γ (Flow τ)) :
    (pure (.next state) : Gen ε γ (Flow σ)).resume continuation = continuation state := by
  simp [resume]

@[simp] theorem done_resume (continuation : σ → Gen ε γ (Flow τ)) :
    (pure .done : Gen ε γ (Flow σ)).resume continuation = pure .done := by
  simp [resume]

theorem resume_congr {run : Gen ε γ (Flow σ)} {first second : σ → Gen ε γ (Flow τ)}
    (same : ∀ state, first state = second state) : run.resume first = run.resume second := by
  rw [funext same]

theorem resume_assoc (run : Gen ε γ (Flow σ)) (first : σ → Gen ε γ (Flow τ))
    (second : τ → Gen ε γ (Flow υ)) :
    (run.resume first).resume second = run.resume fun state => (first state).resume second := by
  unfold resume
  rw [bind_assoc]
  refine bind_congr fun flow => ?_
  cases flow with
  | done => rw [pure_bind]
  | next state => rfl

theorem resume_of_next {run : Gen ε γ (Flow σ)} {state : σ} (returned : run.result = .ok (.next state))
    (continuation : σ → Gen ε γ (Flow τ)) :
    run.resume continuation =
      ⟨run.yielded ++ (continuation state).yielded, (continuation state).result⟩ :=
  bind_of_ok returned _

theorem resume_of_done {run : Gen ε γ (Flow σ)} (returned : run.result = .ok .done)
    (continuation : σ → Gen ε γ (Flow τ)) :
    run.resume continuation = ⟨run.yielded, .ok .done⟩ := by
  unfold resume
  rw [bind_of_ok returned]
  simp

theorem resume_of_error {run : Gen ε γ (Flow σ)} {error : ε} (failed : run.result = .error error)
    (continuation : σ → Gen ε γ (Flow τ)) :
    run.resume continuation = ⟨run.yielded, .error error⟩ :=
  bind_of_error failed _

/-- What was yielded before going on stays yielded. -/
theorem resume_prefix (run : Gen ε γ (Flow σ)) (continuation : σ → Gen ε γ (Flow τ)) :
    run.yielded <+: (run.resume continuation).yielded := by
  cases runEq : run.result with
  | error error =>
      have same : (run.resume continuation).yielded = run.yielded := by rw [resume_of_error runEq]
      exact same ▸ List.prefix_rfl
  | ok flow =>
      cases flow with
      | done =>
          have same : (run.resume continuation).yielded = run.yielded := by rw [resume_of_done runEq]
          exact same ▸ List.prefix_rfl
      | next state => rw [resume_of_next runEq]; exact List.prefix_append _ _

end Gen

section Reading

variable {α ε γ σ : Type} (act : σ → List α → Gen ε γ (Flow σ))

/-- One pass over a list of lines. -/
def runLines (state : σ) : List (List α) → Gen ε γ (Flow σ)
  | [] => pure (.next state)
  | line :: rest => (act state line).resume fun state => runLines state rest

variable [DecidableEq α] (delimiter : α)

/-- The inner loop: while the buffer holds a complete line, take it off the front and act on it. -/
def drain (state : σ) (buffer : List α) : Gen ε γ (Flow (σ × List α)) :=
  match _found : cut delimiter buffer with
  | none => pure (.next (state, buffer))
  | some (line, rest) => (act state line).resume fun state => drain state rest
termination_by buffer.length
decreasing_by exact cut_length _found

/-- The outer loop: append each chunk to the buffer and drain it; an error in place of a chunk stops
the reader. -/
def pump (state : σ) (buffer : List α) : List (Except ε (List α)) → Gen ε γ (Flow (σ × List α))
  | [] => pure (.next (state, buffer))
  | .error error :: _ => Gen.fail error
  | .ok chunk :: chunks =>
      (drain act delimiter state (buffer ++ chunk)).resume fun paused =>
        pump paused.1 paused.2 chunks

end Reading

section Reading

variable {α ε γ σ : Type} {act : σ → List α → Gen ε γ (Flow σ)}

theorem runLines_append (state : σ) (first second : List (List α)) :
    runLines act state (first ++ second) =
      (runLines act state first).resume fun state => runLines act state second := by
  induction first generalizing state with
  | nil => simp [runLines]
  | cons line rest inductionHypothesis =>
      rw [List.cons_append, runLines, runLines, Gen.resume_assoc]
      exact Gen.resume_congr inductionHypothesis

/-- A pass whose body goes on exactly from the lines that are `sound`, and then to `next`, goes on
exactly when all lines are. -/
theorem runLines_result_next {sound : List α → Prop} {next : σ → List α → σ}
    (each : ∀ state line final, (act state line).result = .ok (.next final) ↔
      sound line ∧ final = next state line)
    {input : List (List α)} {start final : σ} :
    (runLines act start input).result = .ok (.next final) ↔
      (∀ line ∈ input, sound line) ∧ final = input.foldl next start := by
  induction input generalizing start with
  | nil =>
      rw [runLines, Gen.pure_result]
      simp [eq_comm]
  | cons line rest inductionHypothesis =>
      rw [runLines, List.forall_mem_cons, List.foldl_cons]
      cases lineEq : (act start line).result with
      | error error =>
          rw [Gen.resume_of_error lineEq]
          have stuck : ¬ sound line := by
            intro lineSound
            rw [(each start line _).mpr ⟨lineSound, rfl⟩] at lineEq
            cases lineEq
          simp [stuck]
      | ok flow =>
          cases flow with
          | done =>
              rw [Gen.resume_of_done lineEq]
              have stuck : ¬ sound line := by
                intro lineSound
                rw [(each start line _).mpr ⟨lineSound, rfl⟩] at lineEq
                cases lineEq
              simp [stuck]
          | next middle =>
              obtain ⟨lineSound, rfl⟩ := (each start line middle).mp lineEq
              rw [Gen.resume_of_next lineEq, and_assoc]
              exact ⟨fun returned => ⟨lineSound, inductionHypothesis.mp returned⟩,
                fun ⟨_, restSound⟩ => inductionHypothesis.mpr restSound⟩

/-- The invariant rule for passes: a relation between the lines handled so far, the state and
everything yielded so far that each line preserves holds after all lines. -/
theorem runLines_invariant (invariant : List (List α) → σ → List γ → Prop)
    (preserved : ∀ handled line state seen next, invariant handled state seen →
      (act state line).result = .ok (.next next) →
        invariant (handled ++ [line]) next (seen ++ (act state line).yielded))
    {input handled : List (List α)} {start final : σ} {seen : List γ}
    (initially : invariant handled start seen)
    (returned : (runLines act start input).result = .ok (.next final)) :
    invariant (handled ++ input) final (seen ++ (runLines act start input).yielded) := by
  induction input generalizing handled start seen with
  | nil =>
      rw [runLines, Gen.pure_result] at returned
      cases returned
      rw [runLines, Gen.pure_yielded, List.append_nil, List.append_nil]
      exact initially
  | cons line rest inductionHypothesis =>
      rw [runLines] at returned ⊢
      cases lineEq : (act start line).result with
      | error error =>
          rw [Gen.resume_of_error lineEq] at returned
          cases returned
      | ok flow =>
          cases flow with
          | done =>
              rw [Gen.resume_of_done lineEq] at returned
              cases returned
          | next middle =>
              rw [Gen.resume_of_next lineEq] at returned ⊢
              have stepped := preserved handled line start seen middle initially lineEq
              have continued := inductionHypothesis stepped returned
              rw [List.append_assoc, List.append_assoc] at continued
              exact continued

/-- A pass that leaves its generator does so on one of its lines, after going on from all lines
before it. -/
theorem runLines_result_done {input : List (List α)} {start : σ}
    (left : (runLines act start input).result = .ok .done) :
    ∃ before last after state, input = before ++ last :: after ∧
      (runLines act start before).result = .ok (.next state) ∧
      (act state last).result = .ok .done := by
  induction input generalizing start with
  | nil => cases left
  | cons line rest inductionHypothesis =>
      rw [runLines] at left
      cases lineEq : (act start line).result with
      | error error =>
          rw [Gen.resume_of_error lineEq] at left
          cases left
      | ok flow =>
          cases flow with
          | done => exact ⟨[], line, rest, start, rfl, rfl, lineEq⟩
          | next middle =>
              rw [Gen.resume_of_next lineEq] at left
              obtain ⟨before, last, after, state, restEq, beforeEq, lastEq⟩ :=
                inductionHypothesis left
              refine ⟨line :: before, last, after, state, by rw [restEq, List.cons_append], ?_, lastEq⟩
              rw [runLines, Gen.resume_of_next lineEq]
              exact beforeEq

/-- Two bodies that run alike on every line run alike on a list of lines. -/
theorem runLines_alike {confused : ε → ε → Prop} {other : σ → List α → Gen ε γ (Flow σ)}
    (each : ∀ state line, Gen.Alike confused (act state line) (other state line)) (state : σ)
    (input : List (List α)) :
    Gen.Alike confused (runLines act state input) (runLines other state input) := by
  induction input generalizing state with
  | nil => exact .refl _
  | cons line rest inductionHypothesis =>
      refine .bind (each state line) fun flow => ?_
      cases flow with
      | done => exact .refl _
      | next state => exact inductionHypothesis state

/-- More lines only extend what was yielded. -/
theorem runLines_monotone (state : σ) {short long : List (List α)} (isPrefix : short <+: long) :
    (runLines act state short).yielded <+: (runLines act state long).yielded := by
  obtain ⟨rest, rfl⟩ := isPrefix
  rw [runLines_append]
  exact Gen.resume_prefix _ _

/-- A line the body passes over can be inserted anywhere between lines. -/
theorem runLines_insert {skipped : List α} (passes : ∀ state, act state skipped = pure (.next state))
    (state : σ) (first second : List (List α)) :
    runLines act state (first ++ skipped :: second) = runLines act state (first ++ second) := by
  rw [runLines_append, runLines_append]
  refine Gen.resume_congr fun state => ?_
  rw [runLines, passes, Gen.next_resume]

/-- A line can be replaced by one the body treats alike. -/
theorem runLines_replace {line line' : List α} (alike : ∀ state, act state line = act state line')
    (state : σ) (first second : List (List α)) :
    runLines act state (first ++ line :: second) = runLines act state (first ++ line' :: second) := by
  rw [runLines_append, runLines_append]
  refine Gen.resume_congr fun state => ?_
  rw [runLines, runLines, alike]

variable [DecidableEq α] {delimiter : α}

theorem drain_of_not_mem {buffer : List α} (clean : delimiter ∉ buffer) (state : σ) :
    drain act delimiter state buffer = pure (.next (state, buffer)) := by
  rw [drain]
  split
  · rfl
  · next line rest found => rw [cut_eq_none.mpr clean] at found; cases found

theorem drain_line {line : List α} (clean : delimiter ∉ line) (state : σ) (rest : List α) :
    drain act delimiter state (line ++ delimiter :: rest) =
      (act state line).resume fun state => drain act delimiter state rest := by
  rw [drain]
  split
  · next found => rw [cut_append_delimiter clean] at found; cases found
  · next line' rest' found =>
      rw [cut_append_delimiter clean] at found
      cases found
      rfl

/-- Draining a buffer is one pass over its complete lines; the remainder stays in the buffer. -/
theorem drain_eq_runLines (state : σ) (buffer : List α) :
    drain act delimiter state buffer =
      (runLines act state (lines delimiter buffer)).resume fun state =>
        pure (.next (state, remainder delimiter buffer)) := by
  induction buffer using lineInduction delimiter generalizing state with
  | tail input clean =>
      rw [drain_of_not_mem clean, lines_of_not_mem clean, remainder_of_not_mem clean, runLines,
        Gen.next_resume]
  | step line rest clean inductionHypothesis =>
      rw [drain_line clean, lines_append_delimiter clean, remainder_append_delimiter clean, runLines,
        Gen.resume_assoc]
      exact Gen.resume_congr inductionHypothesis

/-- Chunks do not matter: a pump over error-free chunks does one pass over the complete lines of their
concatenation, and goes on with what comes after them. -/
theorem pump_chunks {buffer : List α} (clean : delimiter ∉ buffer) (state : σ)
    (chunks : List (List α)) (rest : List (Except ε (List α))) :
    pump act delimiter state buffer (chunks.map .ok ++ rest) =
      (runLines act state (lines delimiter (buffer ++ chunks.flatten))).resume fun state =>
        pump act delimiter state (remainder delimiter (buffer ++ chunks.flatten)) rest := by
  induction chunks generalizing state buffer with
  | nil =>
      rw [List.flatten_nil, List.append_nil, lines_of_not_mem clean, remainder_of_not_mem clean,
        runLines, Gen.next_resume]
      rfl
  | cons chunk chunks inductionHypothesis =>
      rw [List.flatten_cons, ← List.append_assoc, List.map_cons, List.cons_append, pump,
        drain_eq_runLines, lines_append (buffer ++ chunk), remainder_append (buffer ++ chunk),
        runLines_append, Gen.resume_assoc, Gen.resume_assoc]
      apply Gen.resume_congr
      intro state
      rw [Gen.next_resume]
      exact inductionHypothesis (remainder_clean _) state

end Reading

/-! ### What a reader yields -/

namespace Gen.Yields

variable {α ε γ σ τ : Type} {holds : γ → Prop}

theorem resume {run : Gen ε γ (Flow σ)} {continuation : σ → Gen ε γ (Flow τ)}
    (head : Gen.Yields holds run) (rest : ∀ state, Gen.Yields holds (continuation state)) :
    Gen.Yields holds (run.resume continuation) := by
  cases runEq : run.result with
  | error error =>
      rw [resume_of_error runEq]
      exact head
  | ok flow =>
      cases flow with
      | done =>
          rw [resume_of_done runEq]
          exact head
      | next state =>
          rw [resume_of_next runEq]
          intro seen member
          rcases List.mem_append.mp member with before | after
          · exact head seen before
          · exact rest state seen after

theorem runLines {act : σ → List α → Gen ε γ (Flow σ)} {input : List (List α)}
    (each : ∀ state, ∀ line ∈ input, Gen.Yields holds (act state line)) (state : σ) :
    Gen.Yields holds (Library.runLines act state input) := by
  induction input generalizing state with
  | nil => exact pure _
  | cons line rest inductionHypothesis =>
      rw [Library.runLines]
      refine resume (each state line List.mem_cons_self) ?_
      exact inductionHypothesis fun state line member =>
        each state line (List.mem_cons_of_mem _ member)

end Gen.Yields

/-- A reader that leaves its generator does so right after yielding one value that satisfies `last`;
every other value it yields satisfies `inner`. -/
def Gen.EndsWith {ε γ σ : Type} (inner last : γ → Prop) (run : Gen ε γ (Flow σ)) : Prop :=
  match run.result with
  | .ok .done =>
      ∃ front value, run.yielded = front ++ [value] ∧ (∀ seen ∈ front, inner seen) ∧ last value
  | _ => ∀ seen ∈ run.yielded, inner seen

namespace Gen.EndsWith

variable {α ε γ σ τ : Type} {inner last : γ → Prop}

/-- A run that does not leave its generator only has inner values to account for. -/
theorem of_yields {run : Gen ε γ (Flow σ)} (stays : run.result ≠ .ok .done)
    (yields : Gen.Yields inner run) : Gen.EndsWith inner last run := by
  unfold Gen.EndsWith
  split
  · next leaves => exact absurd leaves stays
  · exact yields

theorem next (state : σ) :
    Gen.EndsWith inner last (Pure.pure (.next state) : Gen ε γ (Flow σ)) :=
  of_yields (by simp) (Gen.Yields.pure _)

theorem resume {run : Gen ε γ (Flow σ)} {continuation : σ → Gen ε γ (Flow τ)}
    (head : Gen.EndsWith inner last run)
    (rest : ∀ state, Gen.EndsWith inner last (continuation state)) :
    Gen.EndsWith inner last (run.resume continuation) := by
  unfold Gen.EndsWith at head
  cases runEq : run.result with
  | error error =>
      rw [runEq] at head
      rw [resume_of_error runEq]
      exact head
  | ok flow =>
      rw [runEq] at head
      cases flow with
      | done =>
          rw [resume_of_done runEq]
          exact head
      | next state =>
          have tail := rest state
          rw [resume_of_next runEq]
          unfold Gen.EndsWith at tail ⊢
          dsimp only at head ⊢
          split
          · next leaves =>
              rw [leaves] at tail
              obtain ⟨front, value, yieldedEq, innerFront, lastValue⟩ := tail
              refine ⟨run.yielded ++ front, value, by rw [yieldedEq, List.append_assoc], ?_, lastValue⟩
              intro seen member
              rcases List.mem_append.mp member with before | after
              · exact head seen before
              · exact innerFront seen after
          · next stays =>
              split at tail
              · next leaves => exact absurd leaves stays
              · intro seen member
                rcases List.mem_append.mp member with before | after
                · exact head seen before
                · exact tail seen after

variable {act : σ → List α → Gen ε γ (Flow σ)} {delimiter : α}

theorem runLines (each : ∀ state line, Gen.EndsWith inner last (act state line)) (state : σ)
    (input : List (List α)) : Gen.EndsWith inner last (Library.runLines act state input) := by
  induction input generalizing state with
  | nil => exact next state
  | cons line rest inductionHypothesis => exact resume (each state line) inductionHypothesis

theorem drain [DecidableEq α] (each : ∀ state line, Gen.EndsWith inner last (act state line))
    (state : σ) (buffer : List α) :
    Gen.EndsWith inner last (Library.drain act delimiter state buffer) := by
  rw [drain_eq_runLines]
  exact resume (runLines each state _) fun state => next (state, _)

theorem pump [DecidableEq α] (each : ∀ state line, Gen.EndsWith inner last (act state line))
    (state : σ) (buffer : List α) (chunks : List (Except ε (List α))) :
    Gen.EndsWith inner last (Library.pump act delimiter state buffer chunks) := by
  induction chunks generalizing state buffer with
  | nil => exact next _
  | cons chunk rest inductionHypothesis =>
      cases chunk with
      | error error => exact of_yields (by simp [Library.pump]) (Gen.Yields.fail error)
      | ok chunk =>
          exact resume (drain each state (buffer ++ chunk))
            fun paused => inductionHypothesis paused.1 paused.2

end Gen.EndsWith

end ClaudeProxy.Library
