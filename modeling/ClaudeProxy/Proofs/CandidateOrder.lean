/-
Module: ClaudeProxy.Proofs.CandidateOrder
Layer: Proofs
Purpose: Ordering the candidates is safe. A turn of the loop takes an item out by its weight, as long as
  the weights add up within 64 bits; where they are positive it always finds one, so that the loop ends
  without a panic, with all candidates in the order of their priorities.
Trusted boundary: none
Main exports: sumU64_eq, findSelected_eq, turn_eq_takeOut, loop_returns, weightedPriorityOrder_safe
-/
import ClaudeProxy.Library.WeightedDraw
import ClaudeProxy.Proofs.Fallback
import ClaudeProxy.WeightedOrder
import Mathlib.Algebra.Order.BigOperators.Group.List

namespace ClaudeProxy

open Library

/-! ### One turn -/

theorem foldlM_addU64 (start : Nat) {values : List Nat} (fits : start + values.sum < 2 ^ 64) :
    values.foldlM addU64 start = some (start + values.sum) := by
  induction values generalizing start with
  | nil => rfl
  | cons value rest inductionHypothesis =>
      rw [List.sum_cons, ← Nat.add_assoc] at fits
      have small : start + value < 2 ^ 64 := Nat.lt_of_le_of_lt (Nat.le_add_right _ _) fits
      rw [List.foldlM_cons, addU64, if_pos small, List.sum_cons, ← Nat.add_assoc]
      exact inductionHypothesis (start + value) fits

theorem sumU64_eq {values : List Nat} (fits : values.sum < 2 ^ 64) :
    sumU64 values = some values.sum := by
  have added := foldlM_addU64 0 (by rwa [Nat.zero_add])
  rwa [Nat.zero_add] at added

section Turn

variable {α : Type} (target : α → TargetConfig)

def weightOf (candidate : α) : Nat := (target candidate).weight

def priorityOf (candidate : α) : Nat := (target candidate).priority

/-- The inner loop finds the share of the draw, and its subtractions never underflow. -/
theorem findSelected_eq (tier : List α) (index choice : Nat) :
    findSelected target tier index choice =
      some ((share (weightOf target) tier choice).map (index + ·)) := by
  induction tier generalizing index choice with
  | nil => rfl
  | cons candidate rest inductionHypothesis =>
      unfold findSelected share
      by_cases inFirst : choice < (target candidate).weight
      · rw [if_pos inFirst, if_pos (show choice < weightOf target candidate from inFirst)]
        rfl
      · rw [if_neg inFirst, if_neg (show ¬ choice < weightOf target candidate from inFirst),
          subU64, if_pos (Nat.le_of_not_lt inFirst), Option.bind_some, inductionHypothesis,
          Option.map_map]
        congr 2
        funext position
        simp only [Function.comp_apply]
        omega

/-- The candidates of the tier, as the loop cuts them off. -/
theorem take_tierLen (first : α) (rest : List α) :
    (first :: rest).take ((first :: rest).takeWhile fun candidate =>
        (target candidate).priority = (target first).priority).length =
      tier (priorityOf target) (first :: rest) := by
  have sameTest : (fun candidate => decide ((target candidate).priority = (target first).priority)) =
      fun candidate => decide (((first :: rest).head?.map (priorityOf target)) =
        some (priorityOf target candidate)) := by
    funext candidate
    simp [priorityOf, eq_comm]
  rw [sameTest]
  exact (List.prefix_iff_eq_take.mp (tier_isPrefix (priorityOf target) (first :: rest))).symm

/-- The total weight of the leading tier. -/
def tierTotal (candidates : List α) : Nat :=
  ((tier (priorityOf target) candidates).map (weightOf target)).sum

/-- What a turn makes of what is taken out. -/
def OrderState.taken (output : List α) (taken : α × List α) : OrderState α where
  candidates := taken.2
  output := output ++ [taken.1]

/-- A turn whose weights add up takes out the candidate into whose share the draw falls. It panics
where there is none: the range is empty or the draw is outside of it. -/
theorem turn_eq_takeOut {sum : List Nat → Option Nat} {draw : Nat → Nat} {candidates : List α}
    (output : List α)
    (added : sum ((tier (priorityOf target) candidates).map (weightOf target)) =
      some (tierTotal target candidates)) :
    OrderState.turn target sum draw ⟨candidates, output⟩ =
      (takeOut (weightOf target) (priorityOf target) (draw (tierTotal target candidates))
        candidates).map (OrderState.taken output) := by
  cases candidates with
  | nil => rfl
  | cons first rest =>
      unfold OrderState.turn
      simp only [List.getElem?_cons_zero, Option.bind_eq_bind, Option.bind_some, take_tierLen]
      rw [show ((tier (priorityOf target) (first :: rest)).map fun candidate =>
        (target candidate).weight) =
          (tier (priorityOf target) (first :: rest)).map (weightOf target) from rfl, added,
        Option.bind_some]
      unfold randomRange takeOut
      by_cases inside : draw (tierTotal target (first :: rest)) < tierTotal target (first :: rest)
      · obtain ⟨index, selected⟩ := exists_share (weightOf target) inside
        rw [if_pos inside, Option.bind_some, findSelected_eq, Option.bind_some, selected]
        simp only [Option.map_some, Nat.zero_add, Option.getD_some, removeAt, Option.bind_eq_bind,
          Option.bind_some, Option.pure_def]
        cases (first :: rest)[index]? with
        | none => rfl
        | some item => rfl
      · have outside : share (weightOf target) (tier (priorityOf target) (first :: rest))
            (draw (tierTotal target (first :: rest))) = none := by
          apply Option.eq_none_iff_forall_ne_some.mpr
          intro index selected
          exact inside (lt_sum_of_share (weightOf target) selected)
        rw [if_neg inside, outside]
        rfl

end Turn

/-! ### The loop -/

section Loop

variable {α : Type} (target : α → TargetConfig)

/-- What the loop keeps: sorted candidates whose weights are positive and add up within 64 bits. -/
structure OrderReady (candidates : List α) : Prop where
  sorted : ByPriority (priorityOf target) candidates
  positive : ∀ candidate ∈ candidates, 0 < weightOf target candidate
  fits : (candidates.map (weightOf target)).sum < 2 ^ 64

theorem tierTotal_le (candidates : List α) :
    tierTotal target candidates ≤ (candidates.map (weightOf target)).sum := by
  have shorter : ((tier (priorityOf target) candidates).map (weightOf target)).Sublist
      (candidates.map (weightOf target)) :=
    (tier_isPrefix (priorityOf target) candidates).sublist.map _
  exact shorter.sum_le_sum fun _ _ => Nat.zero_le _

theorem tierTotal_pos {candidates : List α} (ready : OrderReady target candidates)
    (present : candidates ≠ []) : 0 < tierTotal target candidates := by
  cases candidates with
  | nil => exact absurd rfl present
  | cons first rest =>
      have positive := ready.positive first List.mem_cons_self
      unfold tierTotal tier
      rw [List.takeWhile_cons_of_pos (by simp), List.map_cons, List.sum_cons]
      omega

/-- A turn of a ready loop does not panic, and leaves a ready loop. -/
theorem turn_of_ready (source : RandomSource) (turn : Nat) {candidates : List α} (output : List α)
    (ready : OrderReady target candidates) (present : candidates ≠ []) :
    ∃ item rest,
      OrderState.turn target sumU64 (source.draw turn) ⟨candidates, output⟩ =
        some ⟨rest, output ++ [item]⟩ ∧
      takeOut (weightOf target) (priorityOf target)
        (source.draw turn (tierTotal target candidates)) candidates = some (item, rest) ∧
      OrderReady target rest := by
  have positive := tierTotal_pos target ready present
  obtain ⟨item, rest, taken⟩ := exists_takeOut (weightOf target) (priorityOf target)
    (source.inRange turn (tierTotal target candidates) positive)
  have added := sumU64_eq (Nat.lt_of_le_of_lt (tierTotal_le target candidates) ready.fits)
  have same := takeOut_perm (weightOf target) (priorityOf target) taken
  refine ⟨item, rest, ?_, taken, ?_, ?_, ?_⟩
  · rw [turn_eq_takeOut target output added, taken]
    rfl
  · exact takeOut_byPriority (weightOf target) (priorityOf target) taken ready.sorted
  · intro candidate isRest
    exact ready.positive candidate (same.mem_iff.mp (List.mem_cons_of_mem item isRest))
  · have sums := (same.map (weightOf target)).sum_eq
    have fits := ready.fits
    rw [List.map_cons, List.sum_cons] at sums
    omega

/-- A ready loop ends: with a turn for each candidate, all of them are taken out by some draws. The
induction is on the turns that are left. -/
theorem loop_returns (source : RandomSource) (fuel turn : Nat) {candidates : List α}
    (output : List α) (ready : OrderReady target candidates) (enough : candidates.length ≤ fuel) :
    ∃ choices order,
      takeOutAll (weightOf target) (priorityOf target) choices candidates = some order ∧
      ∀ more, OrderState.loop target source (fuel + more) turn ⟨candidates, output⟩ =
        some ⟨[], output ++ order⟩ := by
  induction fuel generalizing turn candidates output with
  | zero =>
      have empty := List.length_eq_zero_iff.mp (Nat.le_zero.mp enough)
      subst empty
      refine ⟨[], [], rfl, ?_⟩
      intro more
      rw [List.append_nil]
      cases more <;> rfl
  | succ fuel inductionHypothesis =>
      by_cases present : candidates = []
      · subst present
        refine ⟨[], [], rfl, ?_⟩
        intro more
        rw [List.append_nil, Nat.add_right_comm]
        rfl
      · obtain ⟨item, rest, turned, taken, readyRest⟩ :=
          turn_of_ready target source turn output ready present
        have shorter : rest.length ≤ fuel := by
          have same := (takeOut_perm (weightOf target) (priorityOf target) taken).length_eq
          rw [List.length_cons] at same
          omega
        obtain ⟨choices, order, drawn, returned⟩ :=
          inductionHypothesis (turn + 1) (output ++ [item]) readyRest shorter
        refine ⟨source.draw turn (tierTotal target candidates) :: choices, item :: order, ?_, ?_⟩
        · exact (takeOutAll_cons_eq_some (weightOf target) (priorityOf target)).mpr
            ⟨item, rest, order, taken, drawn, rfl⟩
        · intro more
          rw [Nat.add_right_comm, OrderState.loop, if_neg (by simpa using present), turned,
            Option.bind_some, returned more, List.append_assoc]
          rfl

end Loop

/-! ### The order without its checks -/

section Unchecked

theorem leadingTier_eq (candidates : List Candidate) :
    leadingTier candidates = tier (priorityOf Candidate.target) candidates := by
  cases candidates with
  | nil => rfl
  | cons first rest =>
      unfold leadingTier tier
      congr 1
      funext candidate
      simp [priorityOf, eq_comm]

theorem selectTarget_go_eq {candidates : List Candidate} {choice position : Nat} (index : Nat)
    (selected : share (weightOf Candidate.target) candidates choice = some position) :
    selectTarget.go candidates choice index = index + position := by
  induction candidates generalizing choice position index with
  | nil => cases selected
  | cons candidate rest inductionHypothesis =>
      unfold share at selected
      unfold selectTarget.go
      by_cases inFirst : choice < candidate.target.weight
      · rw [if_pos (show choice < weightOf Candidate.target candidate from inFirst)] at selected
        cases selected
        rw [if_pos inFirst]
        rfl
      · rw [if_neg (show ¬ choice < weightOf Candidate.target candidate from inFirst)] at selected
        obtain ⟨later, laterEq, rfl⟩ := Option.map_eq_some_iff.mp selected
        rw [if_neg inFirst]
        refine (inductionHypothesis (index + 1) laterEq).trans ?_
        omega

/-- The order of the router is the one in which its draws take the candidates out. The router counts
its draws down. -/
theorem drawOrder_eq {choices : List Nat} {candidates order : List Candidate} {draws : Nat → Nat}
    (drawn : takeOutAll (weightOf Candidate.target) (priorityOf Candidate.target) choices candidates =
      some order)
    (agrees : ∀ choice rest, choice :: rest <:+ choices → draws rest.length = choice) :
    drawOrder draws choices.length candidates = order := by
  induction choices generalizing candidates order with
  | nil =>
      obtain ⟨rfl, rfl⟩ := (takeOutAll_nil_eq_some _ _).mp drawn
      rfl
  | cons choice choices inductionHypothesis =>
      obtain ⟨item, rest, later, taken, laterEq, rfl⟩ := (takeOutAll_cons_eq_some _ _).mp drawn
      obtain ⟨index, selected, held, rfl⟩ := (takeOut_eq_some_iff _ _).mp taken
      have sameIndex : selectTarget (leadingTier candidates) choice = index := by
        rw [leadingTier_eq, selectTarget, selectTarget_go_eq 0 selected, Nat.zero_add]
      rw [List.length_cons, drawOrder, agrees choice choices List.suffix_rfl, sameIndex, held]
      refine congrArg (List.cons item) (inductionHypothesis laterEq ?_)
      intro choice' rest isSuffix
      exact agrees choice' rest (isSuffix.trans (List.suffix_cons choice choices))

/-- Some draws of the router take the candidates out in the given order. -/
theorem exists_drawOrder {choices : List Nat} {candidates order : List Candidate}
    (drawn : takeOutAll (weightOf Candidate.target) (priorityOf Candidate.target) choices candidates =
      some order) :
    ∃ draws, drawOrder draws candidates.length candidates = order := by
  have enough : choices.length = candidates.length := takeOutAll_length _ _ drawn
  refine ⟨fun left => choices.reverse[left]?.getD 0, ?_⟩
  rw [← enough]
  apply drawOrder_eq drawn
  rintro choice rest ⟨front, rfl⟩
  simp

end Unchecked

/-! ### Candidates of a valid configuration -/

section Validated

variable {crates : Crates} {environment : Environment}

/-- The sorting puts the candidates in the order of their priorities. -/
theorem start_byPriority {α : Type} (target : α → TargetConfig) (candidates : List α) :
    ByPriority (priorityOf target) (OrderState.start target candidates).candidates := by
  have sorted := @List.pairwise_mergeSort α
    (fun first second => (target first).priority ≤ (target second).priority)
    (fun first second third => by simpa using Nat.le_trans)
    (fun first second => by simpa using Nat.le_total _ _) candidates
  exact sorted.imp fun ordered => of_decide_eq_true ordered

theorem start_perm {α : Type} (target : α → TargetConfig) (candidates : List α) :
    (OrderState.start target candidates).candidates.Perm candidates :=
  List.mergeSort_perm candidates _

theorem sum_le_length_mul {α : Type} (weight : α → Nat) (bound : Nat) (items : List α)
    (bounded : ∀ item ∈ items, weight item ≤ bound) :
    (items.map weight).sum ≤ items.length * bound := by
  have sums := List.sum_le_card_nsmul (items.map weight) bound (by simpa using bounded)
  rwa [List.length_map, Nat.nsmul_eq_mul] at sums

/-- Fewer than 2^32 candidates of a route of a valid configuration are ready for the loop. -/
theorem start_ready (valid : ValidConfig crates environment) {route : RouteConfig}
    (isRoute : route ∈ valid.config.routes)
    (machine : ∀ target ∈ route.targets, target.weight < 2 ^ 32) {candidates : List Candidate}
    (fromRoute : ∀ candidate ∈ candidates, candidate.target ∈ route.targets)
    (few : candidates.length < 2 ^ 32) :
    OrderReady Candidate.target (OrderState.start Candidate.target candidates).candidates := by
  have same := start_perm Candidate.target candidates
  constructor
  · exact start_byPriority Candidate.target candidates
  · intro candidate isCandidate
    have isTarget := fromRoute candidate (same.mem_iff.mp isCandidate)
    exact Nat.pos_of_ne_zero (valid.target_checked isRoute isTarget).2
  · rw [(same.map (weightOf Candidate.target)).sum_eq]
    have bounded := sum_le_length_mul (weightOf Candidate.target) (2 ^ 32 - 1) candidates
      (fun candidate isCandidate =>
        Nat.le_sub_one_of_lt (machine candidate.target (fromRoute candidate isCandidate)))
    have product : candidates.length * (2 ^ 32 - 1) ≤ (2 ^ 32 - 1) * (2 ^ 32 - 1) :=
      Nat.mul_le_mul_right _ (Nat.le_sub_one_of_lt few)
    omega

/-- The candidates of a route of a valid configuration are ordered safely: whatever is drawn, the loop
on machine integers ends without a panic once it had a turn for each candidate, and what it returns is
a permutation of the candidates in the order of their priorities, the one that the router uses for
some draws. -/
theorem weightedPriorityOrder_safe (valid : ValidConfig crates environment) {route : RouteConfig}
    (isRoute : route ∈ valid.config.routes)
    (machine : ∀ target ∈ route.targets, target.weight < 2 ^ 32) {candidates : List Candidate}
    (fromRoute : ∀ candidate ∈ candidates, candidate.target ∈ route.targets)
    (few : candidates.length < 2 ^ 32) (source : RandomSource) :
    ∃ order,
      (∀ fuel, candidates.length ≤ fuel →
        checkedOrder Candidate.target source fuel candidates =
          some { candidates := [], output := order }) ∧
      order.Perm candidates ∧
      order.Pairwise (fun first second => first.target.priority ≤ second.target.priority) ∧
      ∃ draws, order = weightedPriorityOrder draws candidates := by
  have ready := start_ready valid isRoute machine fromRoute few
  have same := start_perm Candidate.target candidates
  obtain ⟨choices, order, drawn, returned⟩ :=
    loop_returns Candidate.target source candidates.length 0 [] ready same.length_eq.le
  refine ⟨order, ?_, ?_, ?_, ?_⟩
  · intro fuel enough
    obtain ⟨more, rfl⟩ := Nat.exists_eq_add_of_le enough
    exact returned more
  · exact (takeOutAll_perm _ _ drawn).trans same
  · exact takeOutAll_byPriority _ _ drawn ready.sorted
  · obtain ⟨draws, drawsEq⟩ := exists_drawOrder drawn
    exact ⟨draws, drawsEq.symm⟩

end Validated

/-! ### Sample -/

/-- A source that draws the last number of each range. -/
def lastSource : RandomSource where
  draw _ total := total - 1
  inRange _ _ positive := Nat.sub_one_lt_of_lt positive

/-- A route with a preferred target, and with two of unequal weight to fall back on. -/
def tieredRoute : RouteConfig where
  id := "r"
  models := ["*"]
  targets := [{ provider := "p", model := "m", priority := 2, weight := 30 },
    { provider := "p", model := "m" }, { provider := "p", model := "n", priority := 2, weight := 70 }]

def tieredConfig : AppConfig := { officeConfig with routes := [tieredRoute] }

def tieredCandidates : List Candidate :=
  tieredRoute.targets.map fun target => { officeCandidate with target := target }

/-- Three targets in two tiers, with different weights. -/
theorem weightedPriorityOrder_safe_office :
    ∃ order,
      (∀ fuel, 3 ≤ fuel →
        checkedOrder Candidate.target lastSource fuel tieredCandidates =
          some { candidates := [], output := order }) ∧
      order.Perm tieredCandidates ∧
      order.Pairwise (fun first second => first.target.priority ≤ second.target.priority) ∧
      ∃ draws, order = weightedPriorityOrder draws tieredCandidates :=
  @weightedPriorityOrder_safe officeCrates officeEnvironment ⟨tieredConfig, rfl⟩ tieredRoute
    List.mem_cons_self (by decide) tieredCandidates (by decide) (by decide) lastSource

end ClaudeProxy
