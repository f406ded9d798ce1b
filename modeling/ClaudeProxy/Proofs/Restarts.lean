/-
Module: ClaudeProxy.Proofs.Restarts
Layer: Proofs
Purpose: What starting the process does to a database that is there already. However often it starts,
  and wherever a start is broken off or a statement fails, the tables that have rows stay as they are,
  and an empty one gets its one sample.
Trusted boundary: none
Main exports: sampleClientRow, SampleOnly, Database.Restarted, World.Restarted, restarts_keep
-/
import ClaudeProxy.Proofs.DatabaseHistory
import ClaudeProxy.Proofs.LoginHistory

namespace ClaudeProxy.Dashboard

open Library

/-! ### The sample rows -/

/-- The row of the sample configuration, inserted at a time and under an id. -/
def sampleVersionRow (configData now : String) (id : Nat) : ConfigVersionRow where
  id := id
  version := 1
  configData := configData
  createdAt := now
  createdBy := "system"

def sampleClientRow (now : String) (id : Nat) : ClientRow where
  id := id
  clientId := "engineering"
  keyHash := "sample_hash"
  keySalt := "sample_salt"
  allowedRoutes := "sonnet,haiku"
  requestsPerMinute := 600
  concurrentRequests := 100
  createdAt := now
  updatedAt := now

def sampleProviderRow (capabilityProfile now : String) (id : Nat) : ProviderRow where
  id := id
  providerId := "openai"
  kind := "openai_chat"
  endpoint := "https://api.openai.com/v1"
  credentialType := "bearer"
  credentialSecretRef := "OPENAI_API_KEY"
  headers := "\x7b\x7d"
  capabilityProfile := capabilityProfile
  allowInsecureHttp := false
  createdAt := now
  updatedAt := now

def sampleRouteRow (now : String) (id : Nat) : RouteRow where
  id := id
  routeId := "sonnet"
  models := "claude-*-sonnet-*,claude-sonnet-*"
  createdAt := now
  updatedAt := now

/-- The target of the sample route. -/
def sampleTargetRow (routeId id : Nat) : RouteTargetRow where
  id := id
  routeId := routeId
  providerId := "openai"
  model := "gpt-4.1"
  priority := 1
  weight := 100

/-! ### Tables after a start -/

section Tables

variable {Row : Type} {IsSample : (Nat → Row) → Prop} {before after : Table Row}

/-- The table is as it was, or was empty and has a sample inserted. -/
def SampleOnly (IsSample : (Nat → Row) → Prop) (before after : Table Row) : Prop :=
  after = before ∨ before.rows = [] ∧ ∃ row, IsSample row ∧ after = before.insert row

/-- A table without rows is as it was. -/
theorem SampleOnly.of_empty (sampleOnly : SampleOnly IsSample before after)
    (empty : after.rows = []) : after = before := by
  rcases sampleOnly with same | ⟨_, row, _, inserted⟩
  · exact same
  · rw [inserted, Table.insert] at empty
    simp at empty

theorem SampleOnly.insert (sampleOnly : SampleOnly IsSample before after) (empty : after.rows = [])
    {row : Nat → Row} (isSample : IsSample row) : SampleOnly IsSample before (after.insert row) := by
  have same := sampleOnly.of_empty empty
  subst same
  exact .inr ⟨empty, row, isSample, rfl⟩

end Tables

/-- What starts make of a database. The target of the sample route comes after its route. -/
structure Database.Restarted (crates : DashboardCrates) (before after : Database) : Prop where
  configVersions : SampleOnly
    (fun row => ∃ configData now, crates.configToYaml sampleConfig = .ok configData ∧
      row = sampleVersionRow configData now) before.configVersions after.configVersions
  clients : SampleOnly (fun row => ∃ now, row = sampleClientRow now) before.clients after.clients
  providers : SampleOnly
    (fun row => ∃ capabilityProfile now, crates.profileToJson {} = .ok capabilityProfile ∧
      row = sampleProviderRow capabilityProfile now) before.providers after.providers
  routes : SampleOnly (fun row => ∃ now, row = sampleRouteRow now) before.routes after.routes
  routeTargets : after.routeTargets = before.routeTargets ∨
    before.routes.rows = [] ∧ (∃ now, after.routes = before.routes.insert (sampleRouteRow now)) ∧
      after.routeTargets = before.routeTargets.insert (sampleTargetRow (before.routes.sequence + 1))
  adminUsers : after.adminUsers = before.adminUsers

theorem Database.Restarted.refl (crates : DashboardCrates) (database : Database) :
    database.Restarted crates database :=
  ⟨.inl rfl, .inl rfl, .inl rfl, .inl rfl, .inl rfl, rfl⟩

/-! ### One statement and the next -/

section Steps

variable {crates : DashboardCrates} {before database : Database} {statement : Statement}
  {failed : String}

theorem attempt_keeps {next : statement.Rows → Startup} (restarted : before.Restarted crates database)
    (rest : ∀ now rows after, statement.execute now database = .ok (rows, after) →
      (next rows).Keeps Database.serve (before.Restarted crates) after) :
    (attempt crates statement failed next).Keeps Database.serve (before.Restarted crates)
      database := by
  refine ⟨restarted, fun served => ?_⟩
  rcases database.serve_cases served statement with
    ⟨error, same, _⟩ | ⟨rows, after, isAfter, _, executed⟩
  · rw [same]
    exact restarted
  · rw [isAfter]
    exact rest served.now rows after executed

theorem ifNone_keeps {found : statement.Rows → Bool} {next : Startup}
    (restarted : before.Restarted crates database)
    (reads : ∀ now rows after, statement.execute now database = .ok (rows, after) →
      after = database ∧
        (found rows = false → next.Keeps Database.serve (before.Restarted crates) database)) :
    (ifNone crates statement found failed next).Keeps Database.serve (before.Restarted crates)
      database := by
  apply attempt_keeps restarted
  intro now rows after executed
  obtain ⟨same, rest⟩ := reads now rows after executed
  rw [same]
  by_cases any : found rows = true
  · simp only [any, if_true]
    exact restarted
  · simp only [any]
    exact rest (by simpa using any)

end Steps

/-! ### A whole start -/

section Starts

variable (crates : DashboardCrates) {before database : Database}

theorem createSampleConfig_keeps (restarted : before.Restarted crates database) :
    (createSampleConfig crates).Keeps Database.serve (before.Restarted crates) database := by
  apply ifNone_keeps restarted
  rintro now rows after executed
  cases executed
  refine ⟨rfl, fun none => ?_⟩
  have empty : database.configVersions.rows = [] := by simpa using none
  cases written : crates.configToYaml sampleConfig with
  | error error => exact restarted
  | ok configData =>
      apply attempt_keeps restarted
      rintro now rows after executed
      cases executed
      have inserted := restarted.configVersions.insert empty ⟨configData, now, written, rfl⟩
      exact { restarted with configVersions := inserted }

/-- Into a table without rows the sample client is inserted as it is. -/
theorem createSampleClient_keeps (restarted : before.Restarted crates database) :
    (createSampleClient crates).Keeps Database.serve (before.Restarted crates) database := by
  apply ifNone_keeps restarted
  rintro now rows after executed
  cases executed
  refine ⟨rfl, fun none => ?_⟩
  have empty : database.clients.rows = [] := by simpa using none
  apply attempt_keeps restarted
  rintro now rows after executed
  have inserted : after =
      { database with clients := database.clients.insert (sampleClientRow now) } := by
    simp only [Statement.execute, Database.insertClient, empty] at executed
    cases executed
    rfl
  rw [inserted]
  exact { restarted with clients := restarted.clients.insert empty ⟨now, rfl⟩ }

theorem createSampleProvider_keeps (restarted : before.Restarted crates database) :
    (createSampleProvider crates).Keeps Database.serve (before.Restarted crates) database := by
  apply ifNone_keeps restarted
  rintro now rows after executed
  cases executed
  refine ⟨rfl, fun none => ?_⟩
  have empty : database.providers.rows = [] := by simpa using none
  cases written : crates.profileToJson {} with
  | error error => exact restarted
  | ok capabilityProfile =>
      apply attempt_keeps restarted
      rintro now rows after executed
      have inserted : after = { database with
          providers := database.providers.insert (sampleProviderRow capabilityProfile now) } := by
        simp only [Statement.execute, Database.insertProvider, empty] at executed
        cases executed
        rfl
      rw [inserted]
      have sample := restarted.providers.insert empty ⟨capabilityProfile, now, written, rfl⟩
      exact { restarted with providers := sample }

/-- The route is inserted before its target, and a start that is broken off between them leaves the
route without one. -/
theorem createSampleRoute_keeps (restarted : before.Restarted crates database) :
    (createSampleRoute crates).Keeps Database.serve (before.Restarted crates) database := by
  apply ifNone_keeps restarted
  rintro now rows after executed
  cases executed
  refine ⟨rfl, fun none => ?_⟩
  have empty : database.routes.rows = [] := by simpa using none
  have sameRoutes := restarted.routes.of_empty empty
  have sameTargets : database.routeTargets = before.routeTargets := by
    rcases restarted.routeTargets with same | ⟨_, ⟨now, inserted⟩, _⟩
    · exact same
    · rw [inserted, Table.insert] at empty
      simp at empty
  apply attempt_keeps restarted
  rintro now rows after executed
  have isInserted : after =
      { database with routes := database.routes.insert (sampleRouteRow now) } := by
    simp only [Statement.execute, Database.insertRoute, empty] at executed
    cases executed
    rfl
  rw [isInserted]
  have inserted : before.Restarted crates
      { database with routes := database.routes.insert (sampleRouteRow now) } :=
    { restarted with
      routes := restarted.routes.insert empty ⟨now, rfl⟩
      routeTargets := .inl sameTargets }
  apply attempt_keeps inserted
  intro later routeId after executed
  have found : (database.routes.insert (sampleRouteRow now)).rows.find? (·.routeId == "sonnet") =
      some (sampleRouteRow now (database.routes.sequence + 1)) := by
    rw [Table.insert, empty]
    rfl
  simp only [Statement.execute, found] at executed
  cases executed
  apply attempt_keeps inserted
  intro later rows after executed
  simp only [Statement.execute] at executed
  split at executed
  · cases executed
    refine { inserted with routeTargets := .inr ⟨sameRoutes ▸ empty, ⟨now, ?_⟩, ?_⟩ }
    · rw [sameRoutes]
    · rw [← sameTargets, ← sameRoutes]
      rfl
  · cases executed

/-- There is an administrator, so that a start inserts none. -/
theorem createInitialAdminUser_keeps (salt adminSecret : String)
    (restarted : before.Restarted crates database)
    (present : ∃ user ∈ before.adminUsers.rows, user.username = "admin") :
    (createInitialAdminUser crates salt adminSecret).Keeps Database.serve (before.Restarted crates)
      database := by
  apply ifNone_keeps restarted
  rintro now rows after executed
  cases executed
  refine ⟨rfl, fun none => ?_⟩
  obtain ⟨user, member, isAdmin⟩ := present
  rw [← restarted.adminUsers] at member
  have found : (database.adminUsers.rows.find? (·.username == "admin")).isSome = true :=
    List.find?_isSome.mpr ⟨user, member, by simp [isAdmin]⟩
  rw [found] at none
  cases none

theorem andThen_keeps {first second : Startup}
    (earlier : first.Keeps Database.serve (before.Restarted crates) database)
    (later : ∀ database, before.Restarted crates database →
      second.Keeps Database.serve (before.Restarted crates) database) :
    (first.andThen second).Keeps Database.serve (before.Restarted crates) database := by
  apply Program.Keeps.bind Database.serve _ earlier
  intro result state restarted
  cases result with
  | ok done => exact later state restarted
  | error error => exact restarted

theorem prepareDatabase_keeps (salt adminSecret : String)
    (restarted : before.Restarted crates database)
    (present : ∃ user ∈ before.adminUsers.rows, user.username = "admin") :
    (prepareDatabase crates salt adminSecret).Keeps Database.serve (before.Restarted crates)
      database := by
  refine andThen_keeps crates (createInitialAdminUser_keeps crates salt adminSecret restarted present) ?_
  intro database restarted
  refine andThen_keeps crates (createSampleConfig_keeps crates restarted) fun database restarted => ?_
  refine andThen_keeps crates (createSampleClient_keeps crates restarted) fun database restarted => ?_
  refine andThen_keeps crates (createSampleProvider_keeps crates restarted) fun database restarted => ?_
  exact createSampleRoute_keeps crates restarted

end Starts

/-! ### Many starts -/

section History

variable {crates : DashboardCrates}

/-- The file is there, and what is under way only starts or waits for requests. -/
def World.Restarted (related : Database → Prop) : World → Prop
  | .down file | .launched file _ _ => ∃ database, file = some database ∧ related database
  | .starting database _ startup => startup.Keeps Database.serve related database
  | .serving _ pool => related pool.state

theorem World.Restarted.file {related : Database → Prop} {world : World}
    (restarted : world.Restarted related) :
    ∃ database, world.file = some database ∧ related database := by
  cases world with
  | down file => exact restarted
  | launched file salt adminSecret => exact restarted
  | starting database adminSecret startup => exact ⟨database, rfl, restarted.here⟩
  | serving state pool => exact ⟨pool.state, rfl, restarted⟩

/-- A move that is no request. -/
def WorldMove.IsStart (move : WorldMove) : Prop := ∀ next, move ≠ .request next

theorem World.Restarted.step {before : Database} {world : World}
    (restarted : world.Restarted (before.Restarted crates))
    (present : ∃ user ∈ before.adminUsers.rows, user.username = "admin") {move : WorldMove}
    (isStart : move.IsStart) : (world.step crates move).Restarted (before.Restarted crates) := by
  cases move with
  | launch salt adminSecret => exact restarted.file
  | stop => exact restarted.file
  | request next => exact absurd rfl (isStart next)
  | advance served =>
      cases world with
      | down file => exact restarted
      | launched file salt adminSecret =>
          obtain ⟨database, isFile, kept⟩ := restarted
          cases isFile
          simp only [World.step]
          split
          · exact ⟨database, rfl, kept⟩
          · exact prepareDatabase_keeps crates salt adminSecret kept present
      | starting database adminSecret startup =>
          cases startup with
          | done result =>
              cases result with
              | ok done => exact restarted
              | error error => exact ⟨database, rfl, restarted⟩
          | ask statement next => exact restarted.2 served
      | serving state pool => exact restarted

theorem loginHandler_keepsAdmin (state : DashboardState) (payload : LoginRequest) :
    (loginHandler crates state payload).Within Statement.KeepsAdmin fun _ => True := by
  unfold loginHandler
  split
  · trivial
  · split
    · trivial
    · refine ⟨by simp, fun answer => ?_⟩
      cases answer with
      | error error => trivial
      | ok found =>
          cases found with
          | none => trivial
          | some user =>
              dsimp only
              split
              · trivial
              · trivial

theorem requestProgram_keepsAdmin (state : DashboardState) (request : HttpRequest) :
    (requestProgram crates state request).Within Statement.KeepsAdmin fun _ => True := by
  have handled : (handleRequest crates state request).Within Statement.KeepsAdmin
      fun _ => True := by
    unfold handleRequest
    cases dispatch crates request with
    | error rejection => trivial
    | ok action =>
        have each : (actionHandler crates state request action).Within Statement.KeepsAdmin
            fun _ => True := by
          by_cases isLogin : ∃ payload, action = .login payload
          · obtain ⟨payload, rfl⟩ := isLogin
            exact loginHandler_keepsAdmin state payload
          · have noLogin : ∀ payload, action ≠ .login payload :=
              fun payload isPayload => isLogin ⟨payload, isPayload⟩
            exact (actionHandler_keepsAdmin noLogin).weaken fun _ _ => trivial
        exact each.map fun _ _ => trivial
  exact handled.map fun _ _ => trivial

/-- No handler inserts an administrator, nor does a start on the database of the migrations. -/
theorem unclaimedRules (crates : DashboardCrates) :
    Rules crates Unclaimed Statement.KeepsAdmin FromUnclaimed fun _ => True where
  migrated := migrated_unclaimed
  served statement served _ keeps unclaimed :=
    ⟨unclaimed.serve keeps served, unclaimed.answer statement served⟩
  started salt adminSecret := prepareDatabase_given crates salt adminSecret
  handled state request := (requestProgram_keepsAdmin state request).given

theorem Database.Restarted.eq_of_rows {before after : Database}
    (restarted : before.Restarted crates after)
    (configVersions : before.configVersions.rows ≠ []) (clients : before.clients.rows ≠ [])
    (providers : before.providers.rows ≠ []) (routes : before.routes.rows ≠ []) :
    after = before := by
  have same : ∀ {Row : Type} {IsSample : (Nat → Row) → Prop} {first second : Table Row},
      SampleOnly IsSample first second → first.rows ≠ [] → second = first := by
    intro Row IsSample first second sampleOnly hasRows
    exact sampleOnly.resolve_right fun wasEmpty => hasRows wasEmpty.1
  cases before
  cases after
  congr
  · exact same restarted.configVersions configVersions
  · exact same restarted.clients clients
  · exact same restarted.providers providers
  · exact same restarted.routes routes
  · exact restarted.routeTargets.resolve_right fun wasEmpty => routes wasEmpty.1
  · exact restarted.adminUsers

/-- However often the process starts on a file that is there, and however the starts end: tables with
rows stay as they are, and so does a whole database with rows in all of them. -/
theorem restarts_keep (crates : DashboardCrates) (history : List WorldMove) (salt adminSecret : String)
    (starts : List WorldMove) (onlyStarts : ∀ move ∈ starts, move.IsStart) {before : Database}
    (isFile : (World.run crates history).file = some before) :
    ∃ after, (World.run crates (history ++ .launch salt adminSecret :: starts)).file = some after ∧
      before.Restarted crates after ∧
      (before.configVersions.rows ≠ [] → before.clients.rows ≠ [] → before.providers.rows ≠ [] →
        before.routes.rows ≠ [] → after = before) := by
  have present : ∃ user ∈ before.adminUsers.rows, user.username = "admin" := by
    obtain ⟨row, onlyRow, isAdmin, _⟩ := ((unclaimedRules crates).run history).file before isFile
    exact ⟨row, by simp [onlyRow], isAdmin⟩
  have ended : (World.run crates (history ++ .launch salt adminSecret :: starts)).Restarted
      (before.Restarted crates) := by
    unfold World.run at isFile ⊢
    rw [List.foldl_append, List.foldl_cons]
    have launched : ((history.foldl (World.step crates) (.down none)).step crates
        (.launch salt adminSecret)).Restarted (before.Restarted crates) :=
      ⟨before, isFile, .refl crates before⟩
    revert launched
    generalize (history.foldl (World.step crates) (.down none)).step crates
      (.launch salt adminSecret) = world
    intro launched
    clear isFile
    induction starts generalizing world with
    | nil => exact launched
    | cons move rest inductionHypothesis =>
        rw [List.forall_mem_cons] at onlyStarts
        exact inductionHypothesis onlyStarts.2 _ (launched.step present onlyStarts.1)
  obtain ⟨after, isAfter, restarted⟩ := ended.file
  exact ⟨after, isAfter, restarted, restarted.eq_of_rows⟩

end History

/-! ### A start that is broken off -/

/-- A start up to the insertion of the sample route, before that of its target. -/
def brokenMoves : List WorldMove :=
  .launch "salt" "secret" :: List.replicate 10 (.advance undisturbed)

def brokenDatabase : Database := (World.run plainCrates brokenMoves).file.getD {}

/-- The second start finds a route, and leaves it without a target. -/
theorem restarts_keep_broken :
    ∃ after, (World.run plainCrates (brokenMoves ++ .launch "pepper" "secret" ::
        List.replicate 20 (.advance undisturbed))).file = some after ∧
      brokenDatabase.Restarted plainCrates after ∧
      (brokenDatabase.configVersions.rows ≠ [] → brokenDatabase.clients.rows ≠ [] →
        brokenDatabase.providers.rows ≠ [] → brokenDatabase.routes.rows ≠ [] →
        after = brokenDatabase) := by
  apply restarts_keep plainCrates brokenMoves "pepper" "secret"
  · intro move member
    rw [List.eq_of_mem_replicate member]
    exact nofun
  · have isThere : (World.run plainCrates brokenMoves).file.isSome = true := by
      decide +kernel
    obtain ⟨database, isFile⟩ := Option.isSome_iff_exists.mp isThere
    unfold brokenDatabase
    rw [isFile]
    rfl

example : brokenDatabase.routes.rows.map (·.routeId) = ["sonnet"] ∧
    brokenDatabase.routeTargets.rows.length = 0 := by
  decide +kernel

end ClaudeProxy.Dashboard
