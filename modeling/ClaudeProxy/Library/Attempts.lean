/-
Module: ClaudeProxy.Library.Attempts
Layer: Library
Purpose: Attempts in order, up to the first whose outcome is final. What is met is the front of the
  list up to and including the first final outcome; every outcome before the last one met is not
  final.
Trusted boundary: none
Main exports: untilFinal, untilFinal_eq_take, not_final_before
-/
import Mathlib.Data.List.Basic

namespace ClaudeProxy.Library

variable {α : Type}

/-- The front of a list up to and including the first final element. -/
def untilFinal (final : α → Bool) : List α → List α
  | [] => []
  | item :: rest => if final item = true then [item] else item :: untilFinal final rest

theorem untilFinal_cons_of_final {final : α → Bool} {item : α} (isFinal : final item = true)
    (rest : List α) : untilFinal final (item :: rest) = [item] := if_pos isFinal

theorem untilFinal_cons_of_not_final {final : α → Bool} {item : α} (notFinal : final item = false)
    (rest : List α) : untilFinal final (item :: rest) = item :: untilFinal final rest :=
  if_neg (by simp [notFinal])

/-- How far an attempt in order gets. -/
theorem untilFinal_eq_take (final : α → Bool) (items : List α) :
    untilFinal final items = items.take (items.findIdx final + 1) := by
  induction items with
  | nil => rfl
  | cons item rest inductionHypothesis =>
      cases isFinal : final item with
      | true =>
          rw [untilFinal_cons_of_final isFinal, List.findIdx_cons, isFinal]
          simp
      | false =>
          rw [untilFinal_cons_of_not_final isFinal, List.findIdx_cons, isFinal, inductionHypothesis]
          simp

/-- What comes before the first final element is not final. -/
theorem not_final_before {final : α → Bool} {items : List α} {index : Nat}
    (early : index < items.findIdx final) {item : α} (held : items[index]? = some item) :
    final item = false := by
  obtain ⟨bound, rfl⟩ := List.getElem?_eq_some_iff.mp held
  exact List.not_of_lt_findIdx early

end ClaudeProxy.Library
