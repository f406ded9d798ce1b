/-
Module: ClaudeProxy.Proofs.Linearization
Layer: Proofs
Purpose: Requests to the dashboard that overlap. Every handler but those that store a configuration
  version sends at most one statement. So however the statements of such requests interleave, whichever
  fail and whichever clients go away, the database and the responses are those of the requests one after
  another, each between its start and its end.
Trusted boundary: none
Main exports: Immediate, handleRequest_brief, dashboard_linearizable
-/
import ClaudeProxy.Dashboard.Process
import ClaudeProxy.Library.Serial
import ClaudeProxy.Proofs.DashboardAccess

namespace ClaudeProxy.Dashboard

open Library Handler

/-! ### Handlers -/

section Handlers

variable {crates : DashboardCrates}

/-- A listing asks for one statement. -/
theorem list_brief {α : Type} (statement : Statement) (convert : statement.Rows → Option α)
    (data : α → Data) : (Dashboard.list crates statement convert data).Brief := by
  rintro (error | rows)
  · exact ⟨_, rfl⟩
  · dsimp only
    split
    · exact ⟨_, rfl⟩
    · exact ⟨_, rfl⟩

/-- So does a look at one row. -/
theorem fetchOptional_brief {Row α : Type} (statement : Statement)
    (rows : statement.Rows → Option Row) (convert : Row → Option α) (data : α → Data)
    (missing : String) : (fetchOptional crates statement rows convert data missing).Brief := by
  rintro (error | found)
  · exact ⟨_, rfl⟩
  · dsimp only
    split
    · split
      · exact ⟨_, rfl⟩
      · exact ⟨_, rfl⟩
    · exact ⟨_, rfl⟩

/-- So does a creation. -/
theorem create_brief (statement : Statement) (created : String) :
    (create crates statement created).Brief := by
  rintro (error | rows)
  · exact ⟨_, rfl⟩
  · exact ⟨_, rfl⟩

/-- So does a change or a deletion. -/
theorem affect_brief (statement : Statement) (affected : statement.Rows → Nat)
    (done missing : String) : (affect crates statement affected done missing).Brief := by
  rintro (error | rows)
  · exact ⟨_, rfl⟩
  · dsimp only
    split
    · exact ⟨_, rfl⟩
    · exact ⟨_, rfl⟩

theorem withProfile_brief (provider : ProviderConfig) {next : String → Handler}
    (brief : ∀ profile, (next profile).Brief) : (withProfile crates provider next).Brief := by
  unfold withProfile
  split
  · exact brief _
  · trivial

/-- So does a login. -/
theorem loginHandler_brief (state : DashboardState) (payload : LoginRequest) :
    (loginHandler crates state payload).Brief := by
  unfold loginHandler
  split
  · trivial
  · split
    · trivial
    · rintro (error | _ | user)
      · exact ⟨_, rfl⟩
      · exact ⟨_, rfl⟩
      · dsimp only
        split
        · exact ⟨_, rfl⟩
        · exact ⟨_, rfl⟩

theorem dashboardIndex_brief (request : HttpRequest) : (dashboardIndex request).Brief := by
  unfold dashboardIndex
  split
  · trivial
  · trivial

/-- Every handler but two sends at most one statement. -/
theorem actionHandler_brief (state : DashboardState) (request : HttpRequest) {action : Action}
    (noUpdate : ∀ payload, action ≠ .updateConfig payload)
    (noRevert : ∀ version, action ≠ .revertVersion version) :
    (actionHandler crates state request action).Brief := by
  cases action with
  | updateConfig payload => exact absurd rfl (noUpdate payload)
  | revertVersion version => exact absurd rfl (noRevert version)
  | dashboardIndex => exact dashboardIndex_brief request
  | login payload => exact loginHandler_brief state payload
  | loginPage | logout | serveFile rest => trivial
  | getConfig | getVersion version | getClient id | getProvider id | getRoute id =>
      simp only [actionHandler, getConfig, getVersion, getClient, getProvider, getRoute]
      apply fetchOptional_brief
  | listVersions | listClients | listProviders | listRoutes =>
      simp only [actionHandler, listVersions, listClients, listProviders, listRoutes]
      apply list_brief
  | createClient client | createRoute route => exact create_brief _ _
  | createProvider provider => exact withProfile_brief provider fun profile => create_brief _ _
  | updateProvider id provider => exact withProfile_brief provider fun profile => affect_brief _ _ _ _
  | updateClient id client | deleteClient id | deleteProvider id => exact affect_brief _ _ _ _
  | updateRoute id route | deleteRoute id => exact affect_brief _ _ _ _

end Handlers

/-! ### Requests -/

/-- The request does not come to a handler that stores a configuration version. -/
def Immediate (crates : DashboardCrates) (request : HttpRequest) : Prop :=
  ∀ action, dispatch crates request = .ok action →
    (∀ payload, action ≠ .updateConfig payload) ∧ ∀ version, action ≠ .revertVersion version

/-- So does every request that is answered at once. -/
theorem handleRequest_brief {crates : DashboardCrates} (state : DashboardState)
    {request : HttpRequest} (immediate : Immediate crates request) :
    (handleRequest crates state request).Brief := by
  unfold handleRequest
  cases dispatched : dispatch crates request with
  | error rejection => trivial
  | ok action =>
      obtain ⟨noUpdate, noRevert⟩ := immediate action dispatched
      exact (actionHandler_brief state request noUpdate noRevert).map _

/-- The requests take effect one after another, in an order that only grows as they go on. -/
theorem dashboard_linearizable (crates : DashboardCrates) (state : DashboardState)
    (database : Database) :
    ∃ order : List DashboardMove → List (HttpRequest × Served),
      (∀ first second, order first <+: order (first ++ second)) ∧
      ∀ moves, (∀ request, .start request ∈ moves → Immediate crates request) →
        Pool.Linear Database.serve (requestProgram crates state) database moves (order moves) := by
  obtain ⟨order, grows, linear⟩ :=
    Pool.exists_order Database.serve (requestProgram crates state) database
  refine ⟨order, grows, fun moves immediate => linear moves fun request member => ?_⟩
  exact (handleRequest_brief state (immediate request member)).map _

/-- The routes are listed while the sample route is being removed, and the removal takes effect first. -/
def overlapMoves : List DashboardMove :=
  [.start listRequest, .start deleteRequest, .advance 1 undisturbed, .advance 0 undisturbed,
    .advance 0 undisturbed, .advance 0 undisturbed]

/-- The sample's requests overlap, and are answered as in one order. -/
theorem dashboard_linearizable_overlap :
    ∃ order, Pool.Linear Database.serve (requestProgram plainCrates ⟨"secret"⟩) sampleDatabase
      overlapMoves order := by
  obtain ⟨order, _, linear⟩ := dashboard_linearizable plainCrates ⟨"secret"⟩ sampleDatabase
  refine ⟨_, linear overlapMoves fun request member => ?_⟩
  have isOne : request = listRequest ∨ request = deleteRequest := by simpa [overlapMoves] using member
  rcases isOne with rfl | rfl
  · rintro action ⟨⟩
    exact ⟨nofun, nofun⟩
  · rintro action ⟨⟩
    exact ⟨nofun, nofun⟩

end ClaudeProxy.Dashboard
