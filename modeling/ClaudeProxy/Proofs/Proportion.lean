/-
Module: ClaudeProxy.Proofs.Proportion
Layer: Proofs
Purpose: The weights are exact. In every turn a candidate of the leading tier is selected by as many
  draws as its weight, always in the branch that compares; and an order of the candidates is drawn in
  as many ways as the product of its weights. A candidate is known by its position in the list, as two
  targets of a route may be equal.
Trusted boundary: none
Main exports: ExactTurn, exactTurn, foldlM_turn_iff, foldlM_turn_sumU64, drawnOrder_map,
  weighted_selection_exact
-/
import ClaudeProxy.Proofs.CandidateOrder
import Mathlib.Data.List.Sigma

namespace ClaudeProxy

open Library

section Proportion

variable {α : Type} (target : α → TargetConfig)

/-! ### One turn -/

/-- A turn selects in exact proportion: each candidate of the leading tier has as many draws as its
weight, no draw falls through, and the candidate selected is the one taken out. -/
structure ExactTurn (candidates : List α) : Prop where
  exact : ∀ index candidate, (tier (priorityOf target) candidates)[index]? = some candidate →
    {choice | choice < tierTotal target candidates ∧
      findSelected target (tier (priorityOf target) candidates) 0 choice = some (some index)}.ncard =
        (target candidate).weight
  selects : ∀ choice, choice < tierTotal target candidates → ∃ index,
    findSelected target (tier (priorityOf target) candidates) 0 choice = some (some index)
  takes : ∀ sum : List Nat → Option Nat,
    sum ((tier (priorityOf target) candidates).map (weightOf target)) =
      some (tierTotal target candidates) →
    ∀ choice index, choice < tierTotal target candidates →
      findSelected target (tier (priorityOf target) candidates) 0 choice = some (some index) →
      ∃ candidate, (tier (priorityOf target) candidates)[index]? = some candidate ∧
        ∀ output, OrderState.turn target sum (fun _ => choice) ⟨candidates, output⟩ =
          some ⟨candidates.eraseIdx index, output ++ [candidate]⟩

/-- The inner loop breaks at an index exactly where the draw falls into its share. -/
theorem findSelected_eq_iff (items : List α) (choice index : Nat) :
    findSelected target items 0 choice = some (some index) ↔
      share (weightOf target) items choice = some index := by
  rw [findSelected_eq]
  simp

theorem exactTurn (candidates : List α) : ExactTurn target candidates := by
  constructor
  · intro index candidate held
    have sameSet : {choice | choice < tierTotal target candidates ∧
        findSelected target (tier (priorityOf target) candidates) 0 choice = some (some index)} =
          {choice | share (weightOf target) (tier (priorityOf target) candidates) choice =
            some index} := by
      ext choice
      simp only [Set.mem_ofPred_eq, findSelected_eq_iff]
      constructor
      · rintro ⟨_, selected⟩
        exact selected
      · intro selected
        exact ⟨lt_sum_of_share (weightOf target) selected, selected⟩
    rw [sameSet]
    exact ncard_share (weightOf target) held
  · intro choice below
    obtain ⟨index, selected⟩ := exists_share (weightOf target) below
    exact ⟨index, (findSelected_eq_iff target _ choice index).mpr selected⟩
  · intro sum added choice index below selected
    have shared := (findSelected_eq_iff target _ choice index).mp selected
    have inTier := share_lt_length (weightOf target) shared
    have held := List.getElem?_eq_getElem inTier
    have heldThere : candidates[index]? = some (tier (priorityOf target) candidates)[index] := by
      have samePlace := (tier_isPrefix (priorityOf target) candidates).getElem inTier
      rw [samePlace]
      exact List.getElem?_eq_getElem _
    refine ⟨_, held, ?_⟩
    intro output
    have taken := (takeOut_eq_some_iff (weightOf target) (priorityOf target)).mpr
      ⟨index, shared, heldThere, rfl⟩
    rw [turn_eq_takeOut target output added, taken]
    rfl

/-! ### All turns -/

/-- The exact turns empty the list exactly where the draws take all items out. The induction is on the
draws. -/
theorem foldlM_turn_iff {choices : List Nat} {candidates output final : List α} :
    choices.foldlM (fun state choice => OrderState.turn target sumExact (fun _ => choice) state)
        (⟨candidates, output⟩ : OrderState α) = some ⟨[], final⟩ ↔
      ∃ order, takeOutAll (weightOf target) (priorityOf target) choices candidates = some order ∧
        final = output ++ order := by
  induction choices generalizing candidates output with
  | nil =>
      simp only [List.foldlM_nil, Option.pure_def, Option.some.injEq, OrderState.mk.injEq,
        takeOutAll_nil_eq_some]
      constructor
      · rintro ⟨rfl, rfl⟩
        exact ⟨[], ⟨rfl, rfl⟩, (List.append_nil output).symm⟩
      · rintro ⟨_, ⟨rfl, rfl⟩, rfl⟩
        exact ⟨rfl, (List.append_nil output).symm⟩
  | cons choice choices inductionHypothesis =>
      rw [List.foldlM_cons, turn_eq_takeOut target output rfl, Option.bind_eq_bind,
        Option.bind_eq_some_iff]
      simp only [Option.map_eq_some_iff, takeOutAll_cons_eq_some]
      constructor
      · rintro ⟨_, ⟨⟨item, rest⟩, taken, rfl⟩, returned⟩
        obtain ⟨later, laterEq, rfl⟩ := inductionHypothesis.mp returned
        exact ⟨item :: later, ⟨item, rest, later, taken, laterEq, rfl⟩, by simp⟩
      · rintro ⟨_, ⟨item, rest, later, taken, laterEq, rfl⟩, rfl⟩
        refine ⟨_, ⟨(item, rest), taken, rfl⟩, inductionHypothesis.mpr ⟨later, laterEq, ?_⟩⟩
        simp

/-- Where all the weights add up within 64 bits, the machine sums are exact in every turn. -/
theorem foldlM_turn_sumU64 (choices : List Nat) {candidates : List α} (output : List α)
    (fits : (candidates.map (weightOf target)).sum < 2 ^ 64) :
    choices.foldlM (fun state choice => OrderState.turn target sumU64 (fun _ => choice) state)
        (⟨candidates, output⟩ : OrderState α) =
      choices.foldlM (fun state choice => OrderState.turn target sumExact (fun _ => choice) state)
        ⟨candidates, output⟩ := by
  induction choices generalizing candidates output with
  | nil => rfl
  | cons choice choices inductionHypothesis =>
      have added := sumU64_eq (Nat.lt_of_le_of_lt (tierTotal_le target candidates) fits)
      rw [List.foldlM_cons, List.foldlM_cons, turn_eq_takeOut target output added,
        turn_eq_takeOut target output rfl]
      cases taken : takeOut (weightOf target) (priorityOf target) choice candidates with
      | none => rfl
      | some removed =>
          obtain ⟨item, rest⟩ := removed
          have sums := ((takeOut_perm _ _ taken).map (weightOf target)).sum_eq
          rw [List.map_cons, List.sum_cons] at sums
          have fitsRest : (rest.map (weightOf target)).sum < 2 ^ 64 := by omega
          exact inductionHypothesis (output ++ [item]) fitsRest

/-! ### Positions -/

def OrderState.map {β : Type} (view : β → α) (state : OrderState β) : OrderState α where
  candidates := state.candidates.map view
  output := state.output.map view

/-- A turn sees nothing of a candidate but its target. -/
theorem turn_map {β : Type} (view : β → α) (draw : Nat → Nat) (state : OrderState β) :
    OrderState.turn target sumExact draw (state.map view) =
      (OrderState.turn (target ∘ view) sumExact draw state).map (OrderState.map view) := by
  obtain ⟨candidates, output⟩ := state
  have sameTotal : tierTotal target (candidates.map view) = tierTotal (target ∘ view) candidates := by
    unfold tierTotal
    rw [tier_map, List.map_map]
    rfl
  rw [turn_eq_takeOut (target ∘ view) output rfl]
  refine (turn_eq_takeOut target (output.map view) rfl).trans ?_
  rw [sameTotal, takeOut_map, Option.map_map, Option.map_map]
  congr 1
  funext taken
  simp [OrderState.taken, OrderState.map]

theorem start_map {β : Type} (view : β → α) (candidates : List β) :
    OrderState.start target (candidates.map view) =
      (OrderState.start (target ∘ view) candidates).map view := by
  unfold OrderState.start OrderState.map
  rw [List.map_mergeSort]
  · rfl
  · intro first _ second _
    rfl

theorem drawnOrder_map {β : Type} (view : β → α) (choices : List Nat) (candidates : List β) :
    drawnOrder target sumExact choices (candidates.map view) =
      (drawnOrder (target ∘ view) sumExact choices candidates).map (OrderState.map view) := by
  unfold drawnOrder
  rw [start_map]
  generalize OrderState.start (target ∘ view) candidates = state
  induction choices generalizing state with
  | nil => rfl
  | cons choice choices inductionHypothesis =>
      rw [List.foldlM_cons, List.foldlM_cons, turn_map]
      cases OrderState.turn (target ∘ view) sumExact (fun _ => choice) state with
      | none => rfl
      | some turned => exact inductionHypothesis turned

/-! ### Counting -/

/-- The draws that put distinct candidates in a given order. -/
theorem ncard_drawnOrder {candidates order : List α} (distinct : candidates.Nodup)
    (same : order.Perm candidates) (allowed : ByPriority (priorityOf target) order) :
    {choices | drawnOrder target sumExact choices candidates = some ⟨[], order⟩}.ncard =
      (order.map (weightOf target)).prod := by
  have sorted := start_byPriority target candidates
  have rearranged := start_perm target candidates
  have sameSet : {choices | drawnOrder target sumExact choices candidates = some ⟨[], order⟩} =
      {choices | takeOutAll (weightOf target) (priorityOf target) choices
        (OrderState.start target candidates).candidates = some order} := by
    ext choices
    have returned := @foldlM_turn_iff α target choices (OrderState.start target candidates).candidates
      [] order
    exact returned.trans (by simp only [List.nil_append, exists_eq_right', Set.mem_ofPred_eq])
  rw [sameSet]
  exact ncard_takeOutAll _ _ (rearranged.nodup_iff.mpr distinct) sorted
    (same.trans rearranged.symm) allowed

theorem drawnOrder_sumU64 (choices : List Nat) {candidates : List α}
    (fits : (candidates.map (weightOf target)).sum < 2 ^ 64) :
    drawnOrder target sumU64 choices candidates = drawnOrder target sumExact choices candidates := by
  have sums := ((start_perm target candidates).map (weightOf target)).sum_eq
  exact foldlM_turn_sumU64 target choices [] (sums.trans_lt fits)

end Proportion

/-- The selection is exactly proportional. Every turn is exact. For every list of candidates and every
order of its positions in which the priorities do not fall, the draws that give this order are as many
as the product of the weights in it: with exact sums, and with those of the machine where the weights
add up within 64 bits. What is drawn from the positions is what is drawn from the candidates. -/
theorem weighted_selection_exact {α : Type} (target : α → TargetConfig) :
    (∀ candidates : List α, ExactTurn target candidates) ∧
    ∀ (candidates : List α) (order : List (α × Nat)), order.Perm candidates.zipIdx →
      (order.Pairwise fun first second => (target first.1).priority ≤ (target second.1).priority) →
      {choices | drawnOrder (target ∘ Prod.fst) sumExact choices candidates.zipIdx =
          some ⟨[], order⟩}.ncard = (order.map fun entry => (target entry.1).weight).prod ∧
      ((candidates.map fun candidate => (target candidate).weight).sum < 2 ^ 64 →
        {choices | drawnOrder (target ∘ Prod.fst) sumU64 choices candidates.zipIdx =
          some ⟨[], order⟩}.ncard = (order.map fun entry => (target entry.1).weight).prod) ∧
      ∀ choices, drawnOrder target sumExact choices candidates =
        (drawnOrder (target ∘ Prod.fst) sumExact choices candidates.zipIdx).map
          (OrderState.map Prod.fst) := by
  refine ⟨exactTurn target, ?_⟩
  intro candidates order same allowed
  have distinct : candidates.zipIdx.Nodup :=
    List.Nodup.of_map Prod.snd (List.nodup_zipIdx_map_snd candidates)
  have counted := ncard_drawnOrder (target ∘ Prod.fst) distinct same allowed
  refine ⟨counted, ?_, ?_⟩
  · intro fits
    have fitsTagged : (candidates.zipIdx.map (weightOf (target ∘ Prod.fst))).sum < 2 ^ 64 := by
      have sameWeights : candidates.zipIdx.map (weightOf (target ∘ Prod.fst)) =
          (candidates.zipIdx.map Prod.fst).map (weightOf target) := by
        rw [List.map_map]
        rfl
      rw [sameWeights, List.zipIdx_map_fst]
      exact fits
    simp only [drawnOrder_sumU64 (target ∘ Prod.fst) _ fitsTagged]
    exact counted
  · intro choices
    have mapped := drawnOrder_map target Prod.fst choices candidates.zipIdx
    rwa [List.zipIdx_map_fst] at mapped

/-! ### Sample -/

/-- A preferred target, and two of unequal weight after it. -/
def unequalTargets : List TargetConfig :=
  [{ provider := "p", model := "m", priority := 2, weight := 30 }, { provider := "q", model := "m" },
    { provider := "r", model := "m", priority := 2, weight := 70 }]

/-- The positions of the sample, the preferred one first and the heavier one before the lighter. -/
def heavierFirst : List (TargetConfig × Nat) :=
  [({ provider := "q", model := "m" }, 1),
    ({ provider := "r", model := "m", priority := 2, weight := 70 }, 2),
    ({ provider := "p", model := "m", priority := 2, weight := 30 }, 0)]

/-- The draws that choose this order: any of 100, then 70 of 100, and at last any of 30. -/
theorem weighted_selection_exact_unequal :
    {choices | drawnOrder (id ∘ Prod.fst) sumU64 choices unequalTargets.zipIdx =
      some ⟨[], heavierFirst⟩}.ncard = 210000 :=
  ((weighted_selection_exact id).2 unequalTargets heavierFirst (by decide) (by decide)).2.1 (by decide)

end ClaudeProxy
