/-
Module: ClaudeProxy.WeightedOrder
Layer: Model
Purpose: `weighted_priority_order` (`src/routing.rs`) turn by turn, with every operation that may panic:
  the sum of the weights, the draw from a range, the subtractions of the inner loop and the removal by
  index. `weightedPriorityOrder` is what it comes to when none of them does.
Trusted boundary: human-reviewed model
Main exports: sumU64, randomRange, findSelected, removeAt, OrderState, OrderState.turn,
  OrderState.start, RandomSource, OrderState.loop, checkedOrder
-/
import ClaudeProxy.Routing

namespace ClaudeProxy

/-! ### Operations that may panic -/

def addU64 (first second : Nat) : Option Nat :=
  if first + second < 2 ^ 64 then some (first + second) else none

def subU64 (first second : Nat) : Option Nat :=
  if second ≤ first then some (first - second) else none

def sumU64 (values : List Nat) : Option Nat := values.foldlM addU64 0

/-- A sum without a limit. -/
def sumExact (values : List Nat) : Option Nat := some values.sum

/-- `random_range(0..total)`. It panics if the range is empty, and draws nothing outside of it. -/
def randomRange (draw : Nat → Nat) (total : Nat) : Option Nat :=
  if draw total < total then some (draw total) else none

/-- `Vec::remove`. -/
def removeAt {α : Type} (items : List α) (index : Nat) : Option (α × List α) :=
  items[index]?.map fun item => (item, items.eraseIdx index)

/-! ### The loops -/

section Loops

variable {α : Type} (target : α → TargetConfig)

/-- The inner loop over the tier: the index at which it breaks, if it does. -/
def findSelected : List α → Nat → Nat → Option (Option Nat)
  | [], _, _ => some none
  | candidate :: rest, index, choice =>
      if choice < (target candidate).weight then some (some index)
      else (subU64 choice (target candidate).weight).bind fun choice =>
        findSelected rest (index + 1) choice

/-- The variables of the outer loop. -/
structure OrderState (α : Type) where
  candidates : List α
  output : List α
deriving DecidableEq, Repr

/-- One turn of the outer loop. The candidates are not empty there. -/
def OrderState.turn (sum : List Nat → Option Nat) (draw : Nat → Nat) (state : OrderState α) :
    Option (OrderState α) := do
  let first ← state.candidates[0]?
  let priority := (target first).priority
  let tierLen := (state.candidates.takeWhile fun candidate =>
    (target candidate).priority = priority).length
  let tier := state.candidates.take tierLen
  let total ← sum (tier.map fun candidate => (target candidate).weight)
  let choice ← randomRange draw total
  let broken ← findSelected target tier 0 choice
  let selected := broken.getD 0
  let removed ← removeAt state.candidates selected
  pure { candidates := removed.2, output := state.output ++ [removed.1] }

/-- Before the first turn. `sort_by_key` is stable. -/
def OrderState.start (candidates : List α) : OrderState α where
  candidates := candidates.mergeSort fun first second =>
    (target first).priority ≤ (target second).priority
  output := []

/-- The random numbers of a run: for each turn one in the range that is asked for. -/
structure RandomSource where
  draw : Nat → Nat → Nat
  inRange : ∀ turn total, 0 < total → draw turn total < total

/-- The outer loop, for at most `fuel` turns; `none` if one of them panics. -/
def OrderState.loop (source : RandomSource) : Nat → Nat → OrderState α → Option (OrderState α)
  | 0, _, state => some state
  | fuel + 1, turn, state =>
      if state.candidates.isEmpty = true then some state
      else (state.turn target sumU64 (source.draw turn)).bind fun state =>
        OrderState.loop source fuel (turn + 1) state

/-- `weighted_priority_order` on its machine integers, for at most `fuel` turns. -/
def checkedOrder (source : RandomSource) (fuel : Nat) (candidates : List α) :
    Option (OrderState α) :=
  OrderState.loop target source fuel 0 (OrderState.start target candidates)

/-- The turns with given draws, one after the other. -/
def drawnOrder (sum : List Nat → Option Nat) (choices : List Nat) (candidates : List α) :
    Option (OrderState α) :=
  choices.foldlM (fun state choice => state.turn target sum fun _ => choice)
    (OrderState.start target candidates)

end Loops

end ClaudeProxy
