/-
Module: ClaudeProxy.Library.Run
Layer: Library
Purpose: Runs of a machine that makes one move after the other. A condition can be asked of every step
  of a run, judged on the state before the step. What the steps that meet it preserve holds at the end
  of the run; and where a broken property stays broken, the condition decides the property. Where every
  step makes a measure smaller, it bounds the length of the run. And the run of one machine can be
  followed by another, move by move.
Trusted boundary: none
Main exports: Along, Along.invariant, foldl_invariant_of_mem, foldl_invariant, along_iff,
  Along.length_le, InStep, InStep.final, InStep.mono, InStep.forall_turns,
  exists_inStep
-/
import Mathlib.Data.List.Induction

namespace ClaudeProxy.Library

variable {State Move : Type} {step : State → Move → State}

/-- Every step of the run meets the condition, on the state before it. -/
def Along (step : State → Move → State) (condition : State → Move → Prop) :
    State → List Move → Prop
  | _, [] => True
  | state, move :: rest => condition state move ∧ Along step condition (step state move) rest

instance Along.decidable {condition : State → Move → Prop}
    [here : ∀ state move, Decidable (condition state move)] :
    ∀ start moves, Decidable (Along step condition start moves)
  | _, [] => inferInstanceAs (Decidable True)
  | start, move :: rest =>
      have : Decidable (Along step condition (step start move) rest) :=
        Along.decidable (step start move) rest
      inferInstanceAs (Decidable (condition start move ∧ Along step condition (step start move) rest))

/-- The run lemma of a step lemma. -/
theorem Along.invariant {condition : State → Move → Prop} (invariant : State → Prop)
    (preserved : ∀ state move, condition state move → invariant state → invariant (step state move))
    {start : State} {moves : List Move} (along : Along step condition start moves)
    (initially : invariant start) : invariant (moves.foldl step start) := by
  induction moves generalizing start with
  | nil => exact initially
  | cons move rest inductionHypothesis =>
      obtain ⟨here, later⟩ := along
      apply inductionHypothesis later
      exact preserved start move here initially

/-- What the moves of a run preserve holds at its end. -/
theorem foldl_invariant_of_mem (invariant : State → Prop) {moves : List Move}
    (preserved : ∀ state, ∀ move ∈ moves, invariant state → invariant (step state move))
    {start : State} (initially : invariant start) : invariant (moves.foldl step start) := by
  induction moves generalizing start with
  | nil => exact initially
  | cons move rest inductionHypothesis =>
      apply inductionHypothesis fun state move member =>
        preserved state move (List.mem_cons_of_mem _ member)
      exact preserved start move List.mem_cons_self initially

/-- What every step preserves holds after every run. -/
theorem foldl_invariant (invariant : State → Prop)
    (preserved : ∀ state move, invariant state → invariant (step state move))
    {start : State} (moves : List Move) (initially : invariant start) :
    invariant (moves.foldl step start) :=
  foldl_invariant_of_mem invariant (fun state move _ => preserved state move) initially

/-- A property that a step keeps exactly when it meets the condition, and that does not come back
once it is lost, holds at the end exactly when every step meets the condition. -/
theorem along_iff {condition : State → Move → Prop} (holds : State → Prop)
    (kept : ∀ state move, holds state → (condition state move ↔ holds (step state move)))
    (lost : ∀ state move, ¬ holds state → ¬ holds (step state move))
    {start : State} (moves : List Move) (initially : holds start) :
    Along step condition start moves ↔ holds (moves.foldl step start) := by
  induction moves generalizing start with
  | nil =>
      constructor
      · intro _
        exact initially
      · intro _
        trivial
  | cons move rest inductionHypothesis =>
      constructor
      · rintro ⟨here, later⟩
        exact (inductionHypothesis ((kept start move initially).mp here)).mp later
      · intro atEnd
        have here : holds (step start move) := by
          by_contra broken
          exact foldl_invariant (fun state => ¬ holds state) lost rest broken atEnd
        exact ⟨(kept start move initially).mpr here, (inductionHypothesis here).mpr atEnd⟩

/-- A run whose steps all make a measure smaller has at most as many steps as that measures. -/
theorem Along.length_le {condition : State → Move → Prop} (invariant : State → Prop)
    (measure : State → Nat)
    (preserved : ∀ state move, condition state move → invariant state → invariant (step state move))
    (decreases : ∀ state move, condition state move → invariant state →
      measure (step state move) < measure state)
    {start : State} {moves : List Move} (along : Along step condition start moves)
    (initially : invariant start) : moves.length + measure (moves.foldl step start) ≤ measure start := by
  induction moves generalizing start with
  | nil => simp
  | cons move rest inductionHypothesis =>
      obtain ⟨here, later⟩ := along
      have restBound := inductionHypothesis later (preserved start move here initially)
      have less := decreases start move here initially
      simp only [List.length_cons, List.foldl_cons]
      omega

/-! ### Two machines -/

section InStep

variable {Other Turn : Type} {turn : Other → Turn → Other}
  {answers : State → Other → Move → List Turn → Prop} {related : State → Other → Prop}
  {start : State} {other : Other} {moves : List Move} {turns : List Turn}

/-- Runs of two machines side by side. How the second one answers a move of the first is judged on the
states of both before it, and their states are related at first and after every move. -/
inductive InStep (step : State → Move → State) (turn : Other → Turn → Other)
    (answers : State → Other → Move → List Turn → Prop) (related : State → Other → Prop)
    (start : State) (other : Other) : List Move → List Turn → Prop
  | start (initially : related start other) : InStep step turn answers related start other [] []
  | move {moves : List Move} {turns : List Turn} {move : Move} {more : List Turn}
      (before : InStep step turn answers related start other moves turns)
      (answered : answers (moves.foldl step start) (turns.foldl turn other) move more)
      (after : related ((moves ++ [move]).foldl step start) ((turns ++ more).foldl turn other)) :
      InStep step turn answers related start other (moves ++ [move]) (turns ++ more)

namespace InStep

theorem final (inStep : InStep step turn answers related start other moves turns) :
    related (moves.foldl step start) (turns.foldl turn other) := by
  cases inStep with
  | start initially => exact initially
  | move before answered after => exact after

theorem mono {weaker : State → Other → Prop}
    (inStep : InStep step turn answers related start other moves turns)
    (weakens : ∀ state other, related state other → weaker state other) :
    InStep step turn answers weaker start other moves turns := by
  induction inStep with
  | start initially => exact .start (weakens _ _ initially)
  | move _ answered after mirrored => exact .move mirrored answered (weakens _ _ after)

/-- What every answer is made of, the whole run of the second machine is. -/
theorem forall_turns {holds : Turn → Prop}
    (inStep : InStep step turn answers related start other moves turns)
    (each : ∀ state other move turns, answers state other move turns → ∀ turn ∈ turns, holds turn) :
    ∀ turn ∈ turns, holds turn := by
  induction inStep with
  | start initially => exact fun _ => List.not_mem_nil.elim
  | move _ answered _ before => exact List.forall_mem_append.mpr ⟨before, each _ _ _ _ answered⟩

end InStep

/-- The run lemma of a step that is answered. What is asked of the state at the end must hold of the
states before it too. -/
theorem exists_inStep (allowed : State → Prop)
    (before : ∀ state move, allowed (step state move) → allowed state)
    (answered : ∀ state other move, allowed (step state move) → related state other →
      ∃ turns, answers state other move turns ∧
        related (step state move) (turns.foldl turn other))
    (initially : related start other) (moves : List Move)
    (atEnd : allowed (moves.foldl step start)) :
    ∃ turns, InStep step turn answers related start other moves turns := by
  induction moves using List.reverseRecOn with
  | nil => exact ⟨[], .start initially⟩
  | append_singleton moves move inductionHypothesis =>
      rw [List.foldl_append] at atEnd
      obtain ⟨turns, inStep⟩ := inductionHypothesis (before _ move atEnd)
      obtain ⟨more, isAnswer, after⟩ := answered _ _ move atEnd inStep.final
      refine ⟨turns ++ more, inStep.move isAnswer ?_⟩
      rw [List.foldl_append, List.foldl_append]
      exact after

end InStep

end ClaudeProxy.Library
