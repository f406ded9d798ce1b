/-
Module: ClaudeProxy.Library.Generator
Layer: Library
Purpose: Computations that yield values while they run and may stop with an error. A yielded value
  is delivered even when the computation fails afterwards, which is what separates a generator from
  an ordinary fallible function. The rules below read off what a bind or a loop yields, and carry a
  relation between the loop state and everything yielded so far through a whole loop.
Trusted boundary: none
Main exports: Gen, Gen.yield, Gen.fail, Gen.Yields, Gen.foldlM_invariant, Gen.Alike, Feed,
  Gen.toFeed
-/
import Mathlib.Data.List.Basic
import Mathlib.Control.Basic

namespace ClaudeProxy.Library

/-- One complete run of a generator: the values it yielded, in order, and how it came to its end. -/
structure Gen (ε α β : Type) where
  yielded : List α
  result : Except ε β
deriving Repr

namespace Gen

variable {ε α β γ σ : Type}

/-- Yield nothing and return `value`. -/
protected def pure (value : β) : Gen ε α β := ⟨[], .ok value⟩

/-- Run `first`, then what follows its value. After an error nothing follows, but the values
yielded before it remain. -/
protected def bind (first : Gen ε α β) (next : β → Gen ε α γ) : Gen ε α γ :=
  match first.result with
  | .ok value => ⟨first.yielded ++ (next value).yielded, (next value).result⟩
  | .error error => ⟨first.yielded, .error error⟩

instance : Monad (Gen ε α) where
  pure := Gen.pure
  bind := Gen.bind

/-- Deliver one value to the consumer. -/
def yield (value : α) : Gen ε α Unit := ⟨[value], .ok ()⟩

/-- Deliver one value when a condition holds. -/
def yieldIf (condition : Prop) [Decidable condition] (value : α) : Gen ε α Unit :=
  if condition then yield value else Gen.pure ()

/-- Stop with an error: the `?` operator on an `Err`. -/
def fail (error : ε) : Gen ε α β := ⟨[], .error error⟩

/-- The `?` operator. -/
def ofExcept : Except ε β → Gen ε α β
  | .ok value => pure value
  | .error error => fail error

@[ext] theorem ext {first second : Gen ε α β} (yielded : first.yielded = second.yielded)
    (result : first.result = second.result) : first = second := by
  cases first
  cases second
  simp_all

@[simp] theorem pure_yielded (value : β) : (pure value : Gen ε α β).yielded = [] := rfl

@[simp] theorem pure_result (value : β) : (pure value : Gen ε α β).result = .ok value := rfl

@[simp] theorem yield_yielded (value : α) : (yield value : Gen ε α Unit).yielded = [value] := rfl

@[simp] theorem yield_result (value : α) : (yield value : Gen ε α Unit).result = .ok () := rfl

@[simp] theorem yieldIf_yielded (condition : Prop) [Decidable condition] (value : α) :
    (yieldIf condition value : Gen ε α Unit).yielded = if condition then [value] else [] := by
  unfold yieldIf
  split <;> rfl

@[simp] theorem yieldIf_result (condition : Prop) [Decidable condition] (value : α) :
    (yieldIf condition value : Gen ε α Unit).result = .ok () := by
  unfold yieldIf
  split <;> rfl

@[simp] theorem fail_yielded (error : ε) : (fail error : Gen ε α β).yielded = [] := rfl

@[simp] theorem fail_result (error : ε) : (fail error : Gen ε α β).result = .error error := rfl

@[simp] theorem ofExcept_ok (value : β) : (ofExcept (.ok value) : Gen ε α β) = pure value := rfl

@[simp] theorem ofExcept_error (error : ε) : (ofExcept (.error error) : Gen ε α β) = fail error := rfl

@[simp] theorem ofExcept_yielded (outcome : Except ε β) :
    (ofExcept outcome : Gen ε α β).yielded = [] := by
  cases outcome <;> rfl

@[simp] theorem ofExcept_result (outcome : Except ε β) :
    (ofExcept outcome : Gen ε α β).result = outcome := by
  cases outcome <;> rfl

/-- A bind whose first part returns `value` yields both parts' values, one after the other. -/
theorem bind_of_ok {first : Gen ε α β} {value : β} (returned : first.result = .ok value)
    (next : β → Gen ε α γ) :
    (first >>= next) = ⟨first.yielded ++ (next value).yielded, (next value).result⟩ := by
  change Gen.bind first next = _
  simp [Gen.bind, returned]

/-- A bind whose first part fails is that failure. -/
theorem bind_of_error {first : Gen ε α β} {error : ε} (failed : first.result = .error error)
    (next : β → Gen ε α γ) : (first >>= next) = ⟨first.yielded, .error error⟩ := by
  change Gen.bind first next = _
  simp [Gen.bind, failed]

@[simp] theorem fail_bind (error : ε) (next : β → Gen ε α γ) :
    (fail error >>= next) = fail error := rfl

/-- Either the first part failed, or its value was handed on. -/
theorem bind_result_ok {first : Gen ε α β} {next : β → Gen ε α γ} {value : γ}
    (returned : (first >>= next).result = .ok value) :
    ∃ middle, first.result = .ok middle ∧ (next middle).result = .ok value ∧
      (first >>= next).yielded = first.yielded ++ (next middle).yielded := by
  cases firstEq : first.result with
  | error error => rw [bind_of_error firstEq] at returned; cases returned
  | ok middle =>
      rw [bind_of_ok firstEq] at returned ⊢
      exact ⟨middle, rfl, returned, rfl⟩

instance : LawfulMonad (Gen ε α) := by
  refine LawfulMonad.mk' (Gen ε α) ?_ ?_ ?_
  · intro _ run
    change Gen.bind run _ = run
    rcases run with ⟨yielded, _ | _⟩ <;> simp [Gen.bind, Gen.pure]
  · intro _ _ value next
    change Gen.bind (Gen.pure value) next = _
    simp [Gen.bind, Gen.pure]
  · intro _ _ _ first second third
    change Gen.bind (Gen.bind first second) third = Gen.bind first fun x => Gen.bind (second x) third
    rcases first with ⟨yielded, _ | value⟩
    · rfl
    · rcases secondEq : second value with ⟨more, _ | _⟩ <;> simp [Gen.bind, secondEq]

/-- Everything the run yields satisfies `holds`, whether it fails later or not. -/
def Yields (holds : α → Prop) (run : Gen ε α β) : Prop :=
  ∀ value ∈ run.yielded, holds value

namespace Yields

variable {holds : α → Prop}

theorem pure (value : β) : Yields holds (Pure.pure value : Gen ε α β) := by
  simp [Yields]

theorem fail (error : ε) : Yields holds (Gen.fail error : Gen ε α β) := by
  simp [Yields]

theorem yield {value : α} (sound : holds value) : Yields holds (Gen.yield value : Gen ε α Unit) := by
  simpa [Yields] using sound

theorem yieldIf {condition : Prop} [Decidable condition] {value : α} (sound : holds value) :
    Yields holds (Gen.yieldIf condition value : Gen ε α Unit) := by
  intro seen member
  rw [yieldIf_yielded] at member
  split at member
  · obtain rfl := List.mem_singleton.mp member
    exact sound
  · cases member

theorem bind {first : Gen ε α β} {next : β → Gen ε α γ} (head : Yields holds first)
    (tail : ∀ value, first.result = .ok value → Yields holds (next value)) :
    Yields holds (first >>= next) := by
  intro value member
  cases firstEq : first.result with
  | error error =>
      rw [bind_of_error firstEq] at member
      exact head value member
  | ok middle =>
      rw [bind_of_ok firstEq] at member
      rcases List.mem_append.mp member with before | after
      · exact head value before
      · exact tail middle firstEq value after

theorem foldlM {step : σ → β → Gen ε α σ} {items : List β}
    (each : ∀ state, ∀ item ∈ items, Yields holds (step state item)) (start : σ) :
    Yields holds (items.foldlM step start) := by
  induction items generalizing start with
  | nil => exact pure start
  | cons item items inductionHypothesis =>
      rw [List.foldlM_cons]
      refine bind (each start item (by simp)) fun state _ => ?_
      exact inductionHypothesis (fun state item member =>
        each state item (List.mem_cons_of_mem _ member)) state

end Yields

/-- The invariant rule for loops: a relation between the items handled so far, the loop state and
everything yielded so far that each successful step preserves holds after the whole loop. -/
theorem foldlM_invariant {step : σ → β → Gen ε α σ} (invariant : List β → σ → List α → Prop)
    (preserved : ∀ handled item state seen next, invariant handled state seen →
      (step state item).result = .ok next →
        invariant (handled ++ [item]) next (seen ++ (step state item).yielded))
    {items handled : List β} {start final : σ} {seen : List α}
    (initially : invariant handled start seen)
    (returned : (items.foldlM step start).result = .ok final) :
    invariant (handled ++ items) final (seen ++ (items.foldlM step start).yielded) := by
  induction items generalizing handled start seen with
  | nil =>
      obtain rfl : start = final := by simpa using returned
      simpa using initially
  | cons item items inductionHypothesis =>
      rw [List.foldlM_cons] at returned ⊢
      obtain ⟨middle, firstEq, restEq, yieldedEq⟩ := bind_result_ok returned
      have stepped := preserved handled item start seen middle initially firstEq
      have continued := inductionHypothesis stepped restEq
      rw [yieldedEq, ← List.append_assoc]
      rw [List.append_assoc handled] at continued
      exact continued

/-- A loop whose body succeeds exactly on the items that are `sound`, and then moves to `next`,
succeeds exactly when all items are. -/
theorem foldlM_result_ok {step : σ → β → Gen ε α σ} {sound : β → Prop} {next : σ → β → σ}
    (each : ∀ state item final, (step state item).result = .ok final ↔
      sound item ∧ final = next state item)
    {items : List β} {start final : σ} :
    (items.foldlM step start).result = .ok final ↔
      (∀ item ∈ items, sound item) ∧ final = items.foldl next start := by
  induction items generalizing start with
  | nil => simp [eq_comm]
  | cons item rest inductionHypothesis =>
      rw [List.foldlM_cons, List.foldl_cons, List.forall_mem_cons]
      constructor
      · intro returned
        obtain ⟨middle, firstEq, restEq, -⟩ := bind_result_ok returned
        obtain ⟨itemSound, rfl⟩ := (each start item middle).mp firstEq
        obtain ⟨restSound, finalEq⟩ := inductionHypothesis.mp restEq
        exact ⟨⟨itemSound, restSound⟩, finalEq⟩
      · rintro ⟨⟨itemSound, restSound⟩, finalEq⟩
        rw [bind_of_ok ((each start item _).mpr ⟨itemSound, rfl⟩)]
        exact inductionHypothesis.mpr ⟨restSound, finalEq⟩

/-! ### Runs that may stop with another error -/

/-- Two runs that do the same, or yield the same and then stop with two errors that `confused`
relates. -/
def Alike (confused : ε → ε → Prop) (first second : Gen ε α β) : Prop :=
  first = second ∨ ∃ yielded error error', confused error error' ∧
    first = ⟨yielded, .error error⟩ ∧ second = ⟨yielded, .error error'⟩

namespace Alike

variable {confused : ε → ε → Prop}

theorem refl (run : Gen ε α β) : Alike confused run run := .inl rfl

theorem bind {first second : Gen ε α β} {next next' : β → Gen ε α γ}
    (head : Alike confused first second) (rest : ∀ value, Alike confused (next value) (next' value)) :
    Alike confused (first >>= next) (second >>= next') := by
  rcases head with same | ⟨yielded, error, error', related, firstEq, secondEq⟩
  · subst same
    cases firstEq : first.result with
    | error error =>
        rw [bind_of_error firstEq, bind_of_error firstEq]
        exact refl _
    | ok value =>
        rw [bind_of_ok firstEq, bind_of_ok firstEq]
        rcases rest value with same | ⟨more, error, error', related, nextEq, nextEq'⟩
        · rw [same]
          exact refl _
        · rw [nextEq, nextEq']
          exact .inr ⟨first.yielded ++ more, error, error', related, rfl, rfl⟩
  · subst firstEq secondEq
    rw [bind_of_error rfl, bind_of_error rfl]
    exact .inr ⟨yielded, error, error', related, rfl, rfl⟩

end Alike

end Gen

/-- How an asynchronous stream stands after the items it has delivered: it has ended, or it delivers
nothing more for as long as anyone waits. -/
inductive Tail where
  | closed
  | pending
deriving DecidableEq, Repr, Inhabited

/-- A whole asynchronous stream as its consumer can see it. -/
structure Feed (α : Type) where
  items : List α
  tail : Tail
deriving Repr

/-- The stream a generator is: its values, then its error if it fails. A generator that fails has
ended. -/
def Gen.toFeed {ε α : Type} (run : Gen ε α Tail) : Feed (Except ε α) :=
  match run.result with
  | .ok tail => ⟨run.yielded.map .ok, tail⟩
  | .error error => ⟨run.yielded.map .ok ++ [.error error], .closed⟩

end ClaudeProxy.Library
