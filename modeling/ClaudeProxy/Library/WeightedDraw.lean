/-
Module: ClaudeProxy.Library.WeightedDraw
Layer: Library
Purpose: Drawing without replacement, by weights and within priorities. The items of the first
  priority divide the draws below their total weight into shares, one after the other; the item whose
  share a draw falls into is taken out, and the next draw is made from the rest. Each order that the
  priorities allow is drawn in as many ways as the product of its weights.
Trusted boundary: none
Main exports: share, share_eq_some_iff, exists_share, ncard_share, tier, takeOut, takeOutAll, takeOutAll_perm,
  takeOutAll_byPriority, exists_takeOut, takeOut_map, ncard_takeOutAll
-/
import Mathlib.Algebra.BigOperators.Group.List.Basic
import Mathlib.Data.List.Nodup
import Mathlib.Data.List.Perm.Basic
import Mathlib.Data.List.TakeWhile
import Mathlib.Data.Set.Card
import Mathlib.Order.Interval.Finset.Nat

namespace ClaudeProxy.Library

/-! ### Shares -/

section Share

variable {α : Type} (weight : α → Nat)

/-- The position of the item into whose share a draw falls, if it falls into one. -/
def share : List α → Nat → Option Nat
  | [], _ => none
  | item :: rest, choice =>
      if choice < weight item then some 0 else (share rest (choice - weight item)).map (· + 1)

/-- The total weight of the items before a position: where its share begins. -/
def before (items : List α) (index : Nat) : Nat := ((items.take index).map weight).sum

@[simp] theorem before_zero (items : List α) : before weight items 0 = 0 := rfl

@[simp] theorem before_succ (item : α) (rest : List α) (index : Nat) :
    before weight (item :: rest) (index + 1) = weight item + before weight rest index := by
  simp [before]

/-- The shares are intervals that follow each other. The induction is on the items: passing over the
first moves the draw back by its weight. -/
theorem share_eq_some_iff (items : List α) (choice index : Nat) :
    share weight items choice = some index ↔
      ∃ item, items[index]? = some item ∧ before weight items index ≤ choice ∧
        choice < before weight items index + weight item := by
  induction items generalizing choice index with
  | nil => simp [share]
  | cons item rest inductionHypothesis =>
      unfold share
      cases index with
      | zero =>
          split
          · simpa using ‹choice < weight item›
          · simpa using ‹¬ choice < weight item›
      | succ index =>
          split
          · rename_i inFirst
            simp only [before_succ, List.getElem?_cons_succ, Option.some.injEq]
            constructor
            · intro isZero
              cases isZero
            · rintro ⟨_, _, begins, _⟩
              omega
          · rename_i later
            rw [Option.map_eq_some_iff]
            simp only [Nat.add_right_cancel_iff, exists_eq_right, inductionHypothesis, before_succ,
              List.getElem?_cons_succ]
            constructor
            · rintro ⟨found, foundEq, begins, ends⟩
              exact ⟨found, foundEq, by omega, by omega⟩
            · rintro ⟨found, foundEq, begins, ends⟩
              exact ⟨found, foundEq, by omega, by omega⟩

theorem share_lt_length {items : List α} {choice index : Nat}
    (selected : share weight items choice = some index) : index < items.length := by
  obtain ⟨item, itemEq, -⟩ := (share_eq_some_iff weight items choice index).mp selected
  exact (List.getElem?_eq_some_iff.mp itemEq).1

/-- The shares cover every draw below the total. -/
theorem exists_share {items : List α} {choice : Nat} (below : choice < (items.map weight).sum) :
    ∃ index, share weight items choice = some index := by
  induction items generalizing choice with
  | nil => cases below
  | cons item rest inductionHypothesis =>
      unfold share
      split
      · exact ⟨0, rfl⟩
      · rw [List.map_cons, List.sum_cons] at below
        obtain ⟨index, selected⟩ := @inductionHypothesis (choice - weight item) (by omega)
        exact ⟨index + 1, by rw [selected]; rfl⟩

/-- They cover no other. -/
theorem lt_sum_of_share {items : List α} {choice index : Nat}
    (selected : share weight items choice = some index) : choice < (items.map weight).sum := by
  induction items generalizing choice index with
  | nil => cases selected
  | cons item rest inductionHypothesis =>
      rw [List.map_cons, List.sum_cons]
      unfold share at selected
      split at selected
      · omega
      · obtain ⟨index, selected, -⟩ := Option.map_eq_some_iff.mp selected
        have below := inductionHypothesis selected
        omega

/-- An item has as many draws as its weight. -/
theorem ncard_share {items : List α} {index : Nat} {item : α} (held : items[index]? = some item) :
    {choice | share weight items choice = some index}.ncard = weight item := by
  have interval : {choice | share weight items choice = some index} =
      ((Finset.Ico (before weight items index) (before weight items index + weight item) :
        Finset Nat) : Set Nat) := by
    ext choice
    simp only [Set.mem_ofPred_eq, share_eq_some_iff, held, Option.some.injEq, exists_eq_left',
      Finset.coe_Ico, Set.mem_Ico]
  rw [interval, Set.ncard_coe_finset, Nat.card_Ico, Nat.add_sub_cancel_left]

example : (List.range 4).map (share id [1, 2]) = [some 0, some 1, some 1, none] := by decide

/-- Shares see nothing of an item but its weight. -/
theorem share_map {β : Type} (view : β → α) (items : List β) (choice : Nat) :
    share weight (items.map view) choice = share (weight ∘ view) items choice := by
  induction items generalizing choice with
  | nil => rfl
  | cons item rest inductionHypothesis =>
      rw [List.map_cons]
      unfold share
      rw [inductionHypothesis]
      rfl

end Share

/-! ### Taking items out -/

section Take

variable {α π : Type} [LinearOrder π] (weight : α → Nat) (priority : α → π)

/-- The items at the front that share the first one's priority. -/
def tier (items : List α) : List α :=
  items.takeWhile fun item => items.head?.map priority = some (priority item)

/-- The item that a draw takes out, with the rest. -/
def takeOut (choice : Nat) (items : List α) : Option (α × List α) := do
  let index ← share weight (tier priority items) choice
  let item ← items[index]?
  pure (item, items.eraseIdx index)

/-- The items in the order in which some draws take them out, if they take out all and each has an
item to take. -/
def takeOutAll : List Nat → List α → Option (List α)
  | [], items => if items.isEmpty = true then some [] else none
  | choice :: choices, items =>
      (takeOut weight priority choice items).bind fun taken =>
        (takeOutAll choices taken.2).map (taken.1 :: ·)

/-- In the order of the priorities, the least first. -/
def ByPriority (items : List α) : Prop :=
  items.Pairwise fun first second => priority first ≤ priority second

theorem tier_isPrefix (items : List α) : tier priority items <+: items := List.takeWhile_prefix _

theorem takeOut_eq_some_iff {choice : Nat} {items rest : List α} {item : α} :
    takeOut weight priority choice items = some (item, rest) ↔
      ∃ index, share weight (tier priority items) choice = some index ∧
        items[index]? = some item ∧ items.eraseIdx index = rest := by
  unfold takeOut
  simp only [Option.bind_eq_bind, Option.bind_eq_some_iff, Option.pure_def, Option.some.injEq,
    Prod.mk.injEq]
  constructor
  · rintro ⟨index, selected, found, foundEq, rfl, rfl⟩
    exact ⟨index, selected, foundEq, rfl⟩
  · rintro ⟨index, selected, foundEq, rfl⟩
    exact ⟨index, selected, item, foundEq, rfl, rfl⟩

/-- Every draw below the total of the tier takes an item out. -/
theorem exists_takeOut {choice : Nat} {items : List α}
    (below : choice < ((tier priority items).map weight).sum) :
    ∃ item rest, takeOut weight priority choice items = some (item, rest) := by
  obtain ⟨index, selected⟩ := exists_share weight below
  have inTier := share_lt_length weight selected
  have inItems : index < items.length :=
    Nat.lt_of_lt_of_le inTier (tier_isPrefix priority items).length_le
  exact ⟨items[index], items.eraseIdx index, (takeOut_eq_some_iff weight priority).mpr
    ⟨index, selected, List.getElem?_eq_getElem inItems, rfl⟩⟩

theorem perm_cons_eraseIdx {items : List α} {index : Nat} {item : α}
    (held : items[index]? = some item) : (item :: items.eraseIdx index).Perm items := by
  obtain ⟨inside, rfl⟩ := List.getElem?_eq_some_iff.mp held
  exact List.getElem_cons_eraseIdx_perm inside

section Taken

variable {choice : Nat} {items rest : List α} {item : α}

theorem takeOut_perm (taken : takeOut weight priority choice items = some (item, rest)) :
    (item :: rest).Perm items := by
  obtain ⟨index, -, held, rfl⟩ := (takeOut_eq_some_iff weight priority).mp taken
  exact perm_cons_eraseIdx held

theorem takeOut_byPriority (taken : takeOut weight priority choice items = some (item, rest))
    (sorted : ByPriority priority items) : ByPriority priority rest := by
  obtain ⟨index, -, -, rfl⟩ := (takeOut_eq_some_iff weight priority).mp taken
  exact sorted.sublist (List.eraseIdx_sublist items index)

/-- What is taken out has the first one's priority, and so the least. -/
theorem takeOut_least (taken : takeOut weight priority choice items = some (item, rest))
    (sorted : ByPriority priority items) : ∀ other ∈ items, priority item ≤ priority other := by
  obtain ⟨index, selected, held, -⟩ := (takeOut_eq_some_iff weight priority).mp taken
  cases items with
  | nil => intro other isOther; cases isOther
  | cons first later =>
      have inTier := share_lt_length weight selected
      have sameItem : (tier priority (first :: later))[index] = item := by
        obtain ⟨inside, itemEq⟩ := List.getElem?_eq_some_iff.mp held
        rw [← itemEq]
        exact (tier_isPrefix priority (first :: later)).getElem inTier
      have isTier : item ∈ tier priority (first :: later) := sameItem ▸ List.getElem_mem inTier
      have samePriority : priority first = priority item := by
        simpa using List.mem_takeWhile_imp isTier
      rw [← samePriority]
      intro other isOther
      cases List.mem_cons.mp isOther with
      | inl same => rw [same]
      | inr isLater => exact (List.pairwise_cons.mp sorted).1 other isLater

end Taken

/-! ### Taking all out -/

theorem takeOutAll_cons_eq_some {choice : Nat} {choices : List Nat} {items order : List α} :
    takeOutAll weight priority (choice :: choices) items = some order ↔
      ∃ item rest later, takeOut weight priority choice items = some (item, rest) ∧
        takeOutAll weight priority choices rest = some later ∧ order = item :: later := by
  simp only [takeOutAll, Option.bind_eq_some_iff, Option.map_eq_some_iff, Prod.exists]
  constructor
  · rintro ⟨item, rest, taken, later, laterEq, rfl⟩
    exact ⟨item, rest, later, taken, laterEq, rfl⟩
  · rintro ⟨item, rest, later, taken, laterEq, rfl⟩
    exact ⟨item, rest, taken, later, laterEq, rfl⟩

theorem takeOutAll_nil_eq_some {items order : List α} :
    takeOutAll weight priority [] items = some order ↔ items = [] ∧ order = [] := by
  cases items with
  | nil => simp [takeOutAll, eq_comm]
  | cons item rest => simp [takeOutAll]

/-- No item is lost and none is taken out twice. The induction is on the draws. -/
theorem takeOutAll_perm {choices : List Nat} {items order : List α}
    (drawn : takeOutAll weight priority choices items = some order) : order.Perm items := by
  induction choices generalizing items order with
  | nil =>
      obtain ⟨rfl, rfl⟩ := (takeOutAll_nil_eq_some weight priority).mp drawn
      exact .nil
  | cons choice choices inductionHypothesis =>
      obtain ⟨item, rest, later, taken, laterEq, rfl⟩ :=
        (takeOutAll_cons_eq_some weight priority).mp drawn
      exact ((inductionHypothesis laterEq).cons item).trans (takeOut_perm weight priority taken)

/-- There is a draw for each item. -/
theorem takeOutAll_length {choices : List Nat} {items order : List α}
    (drawn : takeOutAll weight priority choices items = some order) :
    choices.length = items.length := by
  induction choices generalizing items order with
  | nil =>
      obtain ⟨rfl, -⟩ := (takeOutAll_nil_eq_some weight priority).mp drawn
      rfl
  | cons choice choices inductionHypothesis =>
      obtain ⟨item, rest, later, taken, laterEq, -⟩ :=
        (takeOutAll_cons_eq_some weight priority).mp drawn
      have same := (takeOut_perm weight priority taken).length_eq
      rw [List.length_cons] at same ⊢
      rw [inductionHypothesis laterEq, same]

/-- The priorities of what is taken out never fall. -/
theorem takeOutAll_byPriority {choices : List Nat} {items order : List α}
    (drawn : takeOutAll weight priority choices items = some order)
    (sorted : ByPriority priority items) : ByPriority priority order := by
  induction choices generalizing items order with
  | nil =>
      obtain ⟨rfl, rfl⟩ := (takeOutAll_nil_eq_some weight priority).mp drawn
      exact .nil
  | cons choice choices inductionHypothesis =>
      obtain ⟨item, rest, later, taken, laterEq, rfl⟩ :=
        (takeOutAll_cons_eq_some weight priority).mp drawn
      apply List.pairwise_cons.mpr
      constructor
      · intro other isLater
        have isRest := (takeOutAll_perm weight priority laterEq).mem_iff.mp isLater
        have isItem := (takeOut_perm weight priority taken).mem_iff.mp (List.mem_cons_of_mem item isRest)
        exact takeOut_least weight priority taken sorted other isItem
      · exact inductionHypothesis laterEq (takeOut_byPriority weight priority taken sorted)

/-- Drawing sees nothing of an item but its weight and its priority. -/
theorem tier_map {β : Type} (view : β → α) (items : List β) :
    tier priority (items.map view) = (tier (priority ∘ view) items).map view := by
  unfold tier
  rw [List.takeWhile_map, List.head?_map, Option.map_map]
  rfl

theorem takeOut_map {β : Type} (view : β → α) (choice : Nat) (items : List β) :
    takeOut weight priority choice (items.map view) =
      (takeOut (weight ∘ view) (priority ∘ view) choice items).map (Prod.map view (List.map view)) := by
  unfold takeOut
  rw [tier_map, share_map]
  cases share (weight ∘ view) (tier (priority ∘ view) items) choice with
  | none => rfl
  | some index =>
      simp only [Option.bind_eq_bind, Option.bind_some, Option.pure_def, List.getElem?_map,
        List.eraseIdx_map]
      cases items[index]? with
      | none => rfl
      | some item => rfl

/-! ### Counting the draws -/

/-- The items at the front of a sorted list that have the least priority: an item of that priority is
among them, at its place. -/
theorem takeWhile_getElem? {items : List α} {index : Nat} {item : α}
    (sorted : ByPriority priority items) (held : items[index]? = some item)
    (least : ∀ other ∈ items, priority item ≤ priority other) :
    (items.takeWhile fun other => some (priority item) = some (priority other))[index]? =
      some item := by
  induction items generalizing index with
  | nil => cases held
  | cons first later inductionHypothesis =>
      obtain ⟨firstLe, sortedLater⟩ := List.pairwise_cons.mp sorted
      have firstLeItem : priority first ≤ priority item := by
        cases List.mem_cons.mp (List.mem_of_getElem? held) with
        | inl same => rw [same]
        | inr isLater => exact firstLe item isLater
      have same := le_antisymm (least first List.mem_cons_self) firstLeItem
      rw [List.takeWhile_cons_of_pos (by simp [same])]
      cases index with
      | zero => exact held
      | succ index =>
          apply inductionHypothesis sortedLater held
          intro other isOther
          exact least other (List.mem_cons_of_mem first isOther)

theorem tier_getElem? {items : List α} {index : Nat} {item : α}
    (sorted : ByPriority priority items) (held : items[index]? = some item)
    (least : ∀ other ∈ items, priority item ≤ priority other) :
    (tier priority items)[index]? = some item := by
  cases items with
  | nil => cases held
  | cons first later =>
      have firstLe : priority first ≤ priority item := by
        cases List.mem_cons.mp (List.mem_of_getElem? held) with
        | inl same => rw [same]
        | inr isLater => exact (List.pairwise_cons.mp sorted).1 item isLater
      have same := le_antisymm (least first List.mem_cons_self) firstLe
      unfold tier
      rw [List.head?_cons, Option.map_some, ← same]
      exact takeWhile_getElem? priority sorted held least

/-- Where the items are distinct, the first one of an order is drawn by its own share only. -/
theorem takeOutAll_cons_iff {items later : List α} {index : Nat} {item : α} {choices : List Nat}
    (distinct : items.Nodup) (held : items[index]? = some item) :
    takeOutAll weight priority choices items = some (item :: later) ↔
      ∃ draws ∈ {choice | share weight (tier priority items) choice = some index} ×ˢ
          {choices | takeOutAll weight priority choices (items.eraseIdx index) = some later},
        draws.1 :: draws.2 = choices := by
  constructor
  · intro drawn
    cases choices with
    | nil => cases ((takeOutAll_nil_eq_some weight priority).mp drawn).2
    | cons choice choices =>
        obtain ⟨first, rest, others, taken, othersEq, orderEq⟩ :=
          (takeOutAll_cons_eq_some weight priority).mp drawn
        cases orderEq
        obtain ⟨position, selected, heldThere, rfl⟩ := (takeOut_eq_some_iff weight priority).mp taken
        have inside := (List.getElem?_eq_some_iff.mp held).1
        have samePosition : index = position :=
          (List.getElem?_inj inside distinct).mp (held.trans heldThere.symm)
        subst samePosition
        exact ⟨(choice, choices), ⟨selected, othersEq⟩, rfl⟩
  · rintro ⟨⟨choice, choices⟩, ⟨selected, laterEq⟩, rfl⟩
    have taken := (takeOut_eq_some_iff weight priority).mpr ⟨index, selected, held, rfl⟩
    exact (takeOutAll_cons_eq_some weight priority).mpr ⟨item, _, later, taken, laterEq, rfl⟩

/-- Each order that the priorities allow is drawn in as many ways as the product of its weights: the
first draw has the share of the first item, and the others draw the rest. The induction is on the
order. -/
theorem ncard_takeOutAll {items order : List α} (distinct : items.Nodup)
    (sorted : ByPriority priority items) (same : order.Perm items)
    (allowed : ByPriority priority order) :
    {choices | takeOutAll weight priority choices items = some order}.ncard =
      (order.map weight).prod := by
  induction order generalizing items with
  | nil =>
      have empty := same.symm.eq_nil
      subst empty
      have only : {choices | takeOutAll weight priority choices ([] : List α) = some []} = {[]} := by
        ext choices
        cases choices with
        | nil => simp [takeOutAll]
        | cons choice choices => simp [takeOutAll, takeOut, tier, share]
      rw [only, Set.ncard_singleton]
      rfl
  | cons item later inductionHypothesis =>
      obtain ⟨itemLe, allowedLater⟩ := List.pairwise_cons.mp allowed
      have least : ∀ other ∈ items, priority item ≤ priority other := by
        intro other isOther
        cases List.mem_cons.mp (same.mem_iff.mpr isOther) with
        | inl sameItem => rw [sameItem]
        | inr isLater => exact itemLe other isLater
      obtain ⟨index, held⟩ := List.mem_iff_getElem?.mp (same.mem_iff.mp List.mem_cons_self)
      have sameLater : later.Perm (items.eraseIdx index) :=
        (same.trans (perm_cons_eraseIdx held).symm).cons_inv
      have drawn : {choices | takeOutAll weight priority choices items = some (item :: later)} =
          (fun draws : Nat × List Nat => draws.1 :: draws.2) ''
            ({choice | share weight (tier priority items) choice = some index} ×ˢ
              {choices | takeOutAll weight priority choices (items.eraseIdx index) = some later}) := by
        ext choices
        exact takeOutAll_cons_iff weight priority distinct held
      have pairsDiffer : Function.Injective fun draws : Nat × List Nat => draws.1 :: draws.2 := by
        intro first second sameDraws
        exact Prod.ext (List.cons.inj sameDraws).1 (List.cons.inj sameDraws).2
      rw [drawn, Set.ncard_image_of_injective _ pairsDiffer, Set.ncard_prod,
        ncard_share weight (tier_getElem? priority sorted held least),
        inductionHypothesis (distinct.eraseIdx index)
          (sorted.sublist (List.eraseIdx_sublist items index)) sameLater allowedLater]
      rfl

end Take

end ClaudeProxy.Library
