/-
Module: ClaudeProxy.Library.Processes
Layer: Library
Purpose: Two machines that run the same processes. One keeps all of them in a list; the other sees only
  those that concern it, each as it is seen, in an order of its own. For what becomes of one process
  (it goes on, comes into view, is over) the lemmas give the place in the other list where the same has
  to happen.
Trusted boundary: none
Main exports: Sees, Sees.wait, Sees.stay, Sees.enter, Sees.place, Sees.append
-/
import Mathlib.Data.List.Perm.Basic

namespace ClaudeProxy.Library

variable {α β : Type} {view : α → Option β} {items : List α} {seen : List β} {index : Nat}
  {item other : α}

/-- The processes that are in view, in some order. -/
def Sees (view : α → Option β) (items : List α) (seen : List β) : Prop :=
  seen.Perm (items.filterMap view)

namespace Sees

/-- A process and the rest. -/
theorem split (view : α → Option β) (found : items[index]? = some item) :
    (items.filterMap view).Perm ((view item).toList ++ (items.eraseIdx index).filterMap view) := by
  obtain ⟨bound, rfl⟩ := List.getElem?_eq_some_iff.mp found
  refine ((List.getElem_cons_eraseIdx_perm bound).filterMap view).symm.trans (.of_eq ?_)
  cases seenAs : view items[index] <;> simp [seenAs]

theorem split_set (view : α → Option β) (found : items[index]? = some item) (other : α) :
    ((items.set index other).filterMap view).Perm
      ((view other).toList ++ (items.eraseIdx index).filterMap view) := by
  have bound := (List.getElem?_eq_some_iff.mp found).1
  refine ((List.set_perm_cons_eraseIdx bound other).filterMap view).trans (.of_eq ?_)
  cases seenAs : view other <;> simp [seenAs]

/-- A process out of view is over. -/
theorem wait (sees : Sees view items seen) (found : items[index]? = some item)
    (unseen : view item = none) : Sees view (items.eraseIdx index) seen := by
  have parts := split view found
  rw [unseen, Option.toList_none, List.nil_append] at parts
  exact sees.trans parts

/-- A process comes into view. -/
theorem enter (sees : Sees view items seen) (found : items[index]? = some item)
    (unseen : view item = none) {entry : β} (now : view other = some entry) :
    Sees view (items.set index other) (seen ++ [entry]) := by
  have parts := split_set view found other
  rw [now, Option.toList_some, List.singleton_append] at parts
  calc seen ++ [entry]
    _ |>.Perm (entry :: seen) := List.perm_append_singleton ..
    _ |>.Perm (entry :: (items.eraseIdx index).filterMap view) :=
        (sees.wait found unseen).cons entry
    _ |>.Perm ((items.set index other).filterMap view) := parts.symm

/-- The place of a process in view. -/
theorem place (sees : Sees view items seen) (found : items[index]? = some item) {entry : β}
    (isEntry : view item = some entry) :
    ∃ position, seen[position]? = some entry ∧
      Sees view (items.eraseIdx index) (seen.eraseIdx position) ∧
      ∀ other next, view other = some next →
        Sees view (items.set index other) (seen.set position next) := by
  have parts := split view found
  rw [isEntry, Option.toList_some, List.singleton_append] at parts
  have rearranged := sees.trans parts
  obtain ⟨position, bound, rfl⟩ :=
    List.getElem_of_mem (rearranged.mem_iff.mpr List.mem_cons_self)
  have erased := ((List.getElem_cons_eraseIdx_perm bound).trans rearranged).cons_inv
  refine ⟨position, List.getElem?_eq_getElem bound, erased, fun other next isNext => ?_⟩
  have changed := split_set view found other
  rw [isNext, Option.toList_some, List.singleton_append] at changed
  exact ((List.set_perm_cons_eraseIdx bound next).trans (erased.cons next)).trans changed.symm

/-- A process is seen as before. -/
theorem stay (sees : Sees view items seen) (found : items[index]? = some item)
    (same : view other = view item) : Sees view (items.set index other) seen := by
  have changed := split_set view found other
  rw [same] at changed
  exact (sees.trans (split view found)).trans changed.symm

/-- A process that is out of view comes in. -/
theorem append (sees : Sees view items seen) (unseen : view item = none) :
    Sees view (items ++ [item]) seen := by
  unfold Sees at sees ⊢
  rw [List.filterMap_append]
  simpa [unseen] using sees

end Sees

end ClaudeProxy.Library
