/-
Module: ClaudeProxy.Proofs.DatabaseHistory
Layer: Proofs
Purpose: What the database keeps over all starts, stops and requests of the dashboard. The rules for
  such a history are stated once, for whatever the database and the responses are to be.
Trusted boundary: none
Main exports: Rules, World.Obeys, Rules.run, configVersions_grow
-/
import ClaudeProxy.Dashboard.Process
import ClaudeProxy.Proofs.ConfigHistory

namespace ClaudeProxy.Dashboard

open Library

/-! ### Rules for a history -/

/-- What every part of the program observes: statements are permitted ones, which keep the database
good and have possible answers, and requests come to what is wanted. -/
structure Rules (crates : DashboardCrates) (good : Database → Prop) (permitted : Statement → Prop)
    (possible : (statement : Statement) → statement.Answer → Prop)
    (wanted : HttpRequest × Option Response → Prop) : Prop where
  migrated : ∀ now, good (Database.migrated now)
  served : ∀ statement served database, permitted statement → good database →
    good (database.serve served statement).2 ∧
      possible statement (database.serve served statement).1
  started : ∀ salt adminSecret,
    (prepareDatabase crates salt adminSecret).Given possible permitted fun _ => True
  handled : ∀ state request,
    (requestProgram crates state request).Given possible permitted wanted

section Rules

variable {crates : DashboardCrates} {good : Database → Prop} {permitted : Statement → Prop}
  {possible : (statement : Statement) → statement.Answer → Prop}
  {wanted : HttpRequest × Option Response → Prop}

/-- The file is good, and what is under way observes the rules. -/
def World.Obeys (good : Database → Prop) (permitted : Statement → Prop)
    (possible : (statement : Statement) → statement.Answer → Prop)
    (wanted : HttpRequest × Option Response → Prop) : World → Prop
  | .down file | .launched file _ _ => ∀ database, file = some database → good database
  | .starting database _ startup =>
      good database ∧ startup.Given possible permitted fun _ => True
  | .serving _ pool =>
      good pool.state ∧
        pool.Coherent (fun _ program => program.Given possible permitted wanted) fun _ => wanted

theorem World.Obeys.file {world : World} (obeys : world.Obeys good permitted possible wanted) :
    ∀ database, world.file = some database → good database := by
  intro database isFile
  cases world with
  | down file => exact obeys database isFile
  | launched file salt adminSecret => exact obeys database isFile
  | starting current adminSecret startup =>
      cases isFile
      exact obeys.1
  | serving state pool =>
      cases isFile
      exact obeys.1

theorem World.Obeys.step (rules : Rules crates good permitted possible wanted) {world : World}
    (obeys : world.Obeys good permitted possible wanted) (move : WorldMove) :
    (world.step crates move).Obeys good permitted possible wanted := by
  cases move with
  | launch salt adminSecret => exact obeys.file
  | stop => exact obeys.file
  | advance served =>
      cases world with
      | down file => exact obeys
      | launched file salt adminSecret =>
          simp only [World.step]
          split
          · exact obeys
          · refine ⟨?_, rules.started salt adminSecret⟩
            cases file with
            | none => exact rules.migrated _
            | some database => exact obeys database rfl
      | starting database adminSecret startup =>
          obtain ⟨isGood, given⟩ := obeys
          cases startup with
          | done result =>
              cases result with
              | ok done =>
                  refine ⟨isGood, ?_⟩
                  constructor
                  · intro program member
                    cases member
                  · intro result member
                    cases member
              | error error =>
                  intro other isOther
                  cases isOther
                  exact isGood
          | ask statement next =>
              obtain ⟨isPermitted, rest⟩ := given
              obtain ⟨after, answer⟩ := rules.served statement served database isPermitted isGood
              exact ⟨after, rest _ answer⟩
      | serving state pool => exact obeys
  | request move =>
      cases world with
      | down file => exact obeys
      | launched file salt adminSecret => exact obeys
      | starting database adminSecret startup => exact obeys
      | serving state pool =>
          obtain ⟨isGood, coherent⟩ := obeys
          refine ⟨?_, ?_⟩
          · rcases Pool.move_state Database.serve (requestProgram crates state) pool move with
              same | ⟨index, served, statement, resume, _, found, after⟩
            · rw [same]
              exact isGood
            · rw [after]
              have isPermitted := (coherent.running _ (List.mem_of_getElem? found)).1
              exact (rules.served statement served pool.state isPermitted isGood).1
          · apply coherent.move
            · intro request _
              exact rules.handled state request
            · intro result isWanted
              exact isWanted
            · rintro index served statement resume _ _ ⟨isPermitted, rest⟩
              have answer := (rules.served statement served pool.state isPermitted isGood).2
              exact ⟨rest _ answer, fun _ _ _ _ given => given, fun _ isWanted => isWanted⟩

theorem Rules.run (rules : Rules crates good permitted possible wanted) (moves : List WorldMove) :
    (World.run crates moves).Obeys good permitted possible wanted := by
  have start : (World.down none).Obeys good permitted possible wanted := nofun
  unfold World.run
  generalize World.down none = world at start
  induction moves generalizing world with
  | nil => exact start
  | cons move rest inductionHypothesis => exact inductionHypothesis _ (start.step rules move)

end Rules

/-! ### Rows stay -/

/-- Whatever a move does, a file that is there stays, with every version that it holds. -/
theorem World.step_grows (crates : DashboardCrates) (world : World) (move : WorldMove)
    {database : Database} (isFile : world.file = some database) :
    ∃ later, (world.step crates move).file = some later ∧
      database.configVersions.rows <+: later.configVersions.rows := by
  have same : ∃ later, world.file = some later ∧
      database.configVersions.rows <+: later.configVersions.rows :=
    ⟨database, isFile, List.prefix_refl _⟩
  cases move with
  | launch salt adminSecret => exact same
  | stop => exact same
  | advance served =>
      cases world with
      | down file => exact same
      | launched file salt adminSecret =>
          cases isFile
          simp only [World.step]
          split
          · exact same
          · exact same
      | starting current adminSecret startup =>
          cases isFile
          cases startup with
          | done result =>
              cases result with
              | ok done => exact same
              | error error => exact same
          | ask statement next =>
              exact ⟨_, rfl, serve_grows served statement database⟩
      | serving state pool => exact same
  | request move =>
      cases world with
      | down file => exact same
      | launched file salt adminSecret => exact same
      | starting current adminSecret startup => exact same
      | serving state pool =>
          cases isFile
          refine ⟨_, rfl, ?_⟩
          rcases Pool.move_state Database.serve (requestProgram crates state) pool move with
            unchanged | ⟨index, served, statement, resume, _, _, after⟩
          · rw [unchanged]
          · rw [after]
            exact serve_grows served statement pool.state

theorem configVersions_grow (crates : DashboardCrates) (moves more : List WorldMove)
    {database : Database} (isFile : (World.run crates moves).file = some database) :
    ∃ later, (World.run crates (moves ++ more)).file = some later ∧
      database.configVersions.rows <+: later.configVersions.rows := by
  unfold World.run at isFile ⊢
  rw [List.foldl_append]
  generalize moves.foldl (World.step crates) (.down none) = world at isFile
  induction more generalizing world database with
  | nil => exact ⟨database, isFile, List.prefix_refl _⟩
  | cons move rest inductionHypothesis =>
      obtain ⟨next, isNext, grown⟩ := world.step_grows crates move isFile
      obtain ⟨later, isLater, further⟩ := inductionHypothesis _ isNext
      exact ⟨later, isLater, grown.trans further⟩

end ClaudeProxy.Dashboard
