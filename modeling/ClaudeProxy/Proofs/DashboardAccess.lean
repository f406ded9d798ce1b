/-
Module: ClaudeProxy.Proofs.DashboardAccess
Layer: Proofs
Purpose: What the dashboard lets through without a login. The authentication layer is on no route and
  the handlers under `/api` look at no cookie, so the rows of the configuration tables are guarded in
  exactly those runs whose requests reach none of the handlers that return or change them.
Trusted boundary: none
Main exports: AccessGuarded, Action.Exposes, Harmless, within_of_not_exposes,
  exposes_leaks, dashboard_guarded_iff
-/
import ClaudeProxy.Dashboard.Routes
import ClaudeProxy.Proofs.Shapes

namespace ClaudeProxy.Dashboard

open Library

/-! ### What guarding means -/

/-- The four tables of the configuration hold the same rows. -/
structure SameTables (before after : Database) : Prop where
  configVersions : after.configVersions.rows = before.configVersions.rows
  clients : after.clients.rows = before.clients.rows
  providers : after.providers.rows = before.providers.rows
  routes : after.routes.rows = before.routes.rows

theorem SameTables.rfl {database : Database} : SameTables database database := by
  constructor <;> rfl

/-- A response, if one is sent, returns no row. -/
def NoRows (answer : Option Response) : Prop :=
  ∀ response, answer = some response → response.rowCount = 0

/-- The credentials that `login_handler` accepts. -/
def ValidCredentials (crates : DashboardCrates) (state : DashboardState) (database : Database)
    (payload : LoginRequest) : Prop :=
  payload.username ≠ "" ∧ payload.password ≠ "" ∧
    (payload.username = "admin" ∧ payload.password = state.adminSecret ∨
      ∃ user ∈ database.adminUsers.rows, user.username = payload.username ∧
        crates.verifyPassword user.passwordHash payload.password = true)

/-- No login request presents valid credentials when it comes in. -/
def NoValidLogin (crates : DashboardCrates) (state : DashboardState) (database : Database)
    (moves : List DashboardMove) : Prop :=
  ∀ before request after payload, moves = before ++ .start request :: after →
    dispatch crates request = .ok (.login payload) →
    ¬ ValidCredentials crates state
      (DashboardPool.run crates state (Pool.idle database) before).state payload

/-- Where no request is a login, nobody logs in. -/
theorem noValidLogin_of_dispatch {crates : DashboardCrates} {state : DashboardState}
    {database : Database} {moves : List DashboardMove}
    (never : ∀ request payload, .start request ∈ moves →
      dispatch crates request ≠ .ok (.login payload)) :
    NoValidLogin crates state database moves := by
  intro before request after payload splits isLogin
  exact absurd isLogin (never request payload (by simp [splits]))

/-- In every run of admitted requests in which nobody logs in, on any database, no table of the
configuration changes and no response returns rows of one. The moves of a run may be cut off
anywhere, so this holds of every state on the way. -/
def AccessGuarded (crates : DashboardCrates) (state : DashboardState)
    (admitted : HttpRequest → Prop) : Prop :=
  ∀ database moves, (∀ request, .start request ∈ moves → admitted request) →
    NoValidLogin crates state database moves →
    SameTables database (DashboardPool.run crates state (Pool.idle database) moves).state ∧
      ∀ answer ∈ (DashboardPool.run crates state (Pool.idle database) moves).finished,
        NoRows answer

/-! ### Which requests are harmless -/

/-- The handlers that return or change rows of the configuration. `create_client` and
`create_provider` are not among them: they leave out columns that may not be NULL, so that their
statement always fails. -/
def Action.Exposes (crates : DashboardCrates) : Action → Prop
  | .getConfig | .listClients | .getClient _ | .updateClient .. | .deleteClient _ => True
  | .listProviders | .getProvider _ | .deleteProvider _ => True
  | .listRoutes | .createRoute _ | .getRoute _ | .updateRoute .. | .deleteRoute _ => True
  | .listVersions | .getVersion _ | .revertVersion _ => True
  | .updateConfig payload =>
      ∃ config configData,
        AppConfig.loadFromValue crates.crates crates.environment crates.configFromValue payload =
          .ok config ∧ crates.configToYaml config = .ok configData
  | .updateProvider _ provider =>
      ∃ profile, crates.profileToJson provider.capabilityProfile = .ok profile
  | .createClient _ | .createProvider _ => False
  | .dashboardIndex | .loginPage | .login _ | .logout | .serveFile _ => False

/-- A request that is answered without a body, or that does not get to a handler that exposes the
configuration. Nothing here depends on its cookies. -/
def Harmless (crates : DashboardCrates) (request : HttpRequest) : Prop :=
  request.method = .head ∨
    ∀ action, dispatch crates request = .ok action → ¬ action.Exposes crates

/-! ### Statements that leave the database alone -/

/-- Whatever it answers, the statement changes nothing. -/
def Statement.Idle (statement : Statement) : Prop :=
  ∀ now database rows after, statement.execute now database = .ok (rows, after) → after = database

/-- An idle statement leaves the database as it is. -/
theorem Statement.Idle.serve {statement : Statement} (idle : statement.Idle) (served : Served)
    (database : Database) : (Database.serve served statement database).2 = database := by
  rcases database.serve_cases served statement with
    ⟨error, refused, _⟩ | ⟨rows, after, answered, _, executed⟩
  · rw [refused]
  · rw [answered]
    exact idle served.now database rows after executed

/-- A query answers from the database as it is. -/
theorem idle_of_query {statement : Statement} (query : Database → statement.Rows)
    (executes : ∀ now database, statement.execute now database = .ok (query database, database)) :
    statement.Idle := by
  intro now database rows after executed
  rw [executes] at executed
  cases executed
  rfl

/-- A statement that always fails. -/
theorem idle_of_error {statement : Statement} (error : SqlError)
    (fails : ∀ now database, statement.execute now database = .error error) : statement.Idle := by
  intro now database rows after executed
  rw [fails] at executed
  cases executed

/-- A client without a key is never inserted. -/
theorem insertClient_idle {client : ClientInsert} (left : client.keyHash = none) :
    (Statement.insertClient client).Idle := by
  apply idle_of_error (.notNull "clients.key_hash")
  intro now database
  simp only [Statement.execute, Database.insertClient, left]
  rfl

/-- Neither is a provider without a credential. -/
theorem insertProvider_idle {provider : ProviderInsert} (left : provider.credentialType = none) :
    (Statement.insertProvider provider).Idle := by
  apply idle_of_error (.notNull "providers.credential_type")
  intro now database
  simp only [Statement.execute, Database.insertProvider, left]
  rfl

/-! ### Handlers that are harmless -/

/-- A response that shows no rows asks for nothing. -/
theorem respond_within {response : Response} (none : response.rowCount = 0) :
    (Handler.respond response).Within Statement.Idle NoRows := by
  intro other sent
  cases sent
  exact none

theorem failed_noRows (text : String) : NoRows (some (failedAnswer text)) := by
  intro response sent
  cases sent
  rfl

theorem text_noRows (text : String) : NoRows (some (shownAnswer (.text text))) := by
  intro response sent
  cases sent
  rfl

section Handlers

variable {crates : DashboardCrates} {state : DashboardState} {request : HttpRequest}

/-- The handlers of `GET` requests. -/
def Action.Reads : Action → Prop
  | .dashboardIndex | .loginPage | .logout | .serveFile _ => True
  | .getConfig | .listVersions | .getVersion _ => True
  | .listClients | .getClient _ => True
  | .listProviders | .getProvider _ => True
  | .listRoutes | .getRoute _ => True
  | _ => False

/-- What a `GET` comes to only reads. -/
theorem endpointAction_get {body : RequestBody} {found : Endpoint} {action : Action}
    (reached : endpointAction crates body found .get = .ok action) : action.Reads := by
  cases found with
  | client id | provider id | route id | version id =>
      obtain ⟨value, -, rfl⟩ := Except.map_eq_ok.mp reached
      trivial
  | revert version => cases reached
  | _ =>
      cases reached
      trivial

/-- The page itself shows no rows. -/
theorem dashboardIndex_within : (dashboardIndex request).Within Statement.Idle NoRows := by
  unfold dashboardIndex
  split
  · exact respond_within rfl
  · exact respond_within rfl

/-- An action that reads changes nothing. -/
theorem reads_within {action : Action} (reads : action.Reads) :
    (actionHandler crates state request action).Within Statement.Idle fun _ => True := by
  cases action with
  | dashboardIndex => exact dashboardIndex_within.weaken fun _ _ => trivial
  | loginPage | logout | serveFile rest => trivial
  | getConfig | getVersion version | getClient id | getProvider id | getRoute id =>
      simp only [actionHandler, getConfig, getVersion, getClient, getProvider, getRoute]
      exact fetchOptional_within (idle_of_query _ fun _ _ => rfl) (fun _ => trivial) trivial _ _
        (fun _ => trivial) _
  | listVersions | listClients | listProviders | listRoutes =>
      simp only [actionHandler, listVersions, listClients, listProviders, listRoutes]
      exact list_within (idle_of_query _ fun _ _ => rfl) (fun _ => trivial) trivial _
        fun _ => trivial
  | _ => exact absurd reads not_false

/-- A login changes nothing and shows no rows. -/
theorem loginHandler_within (payload : LoginRequest) :
    (loginHandler crates state payload).Within Statement.Idle NoRows := by
  have accepted : login.Within Statement.Idle NoRows := respond_within rfl
  unfold loginHandler
  split
  · exact failed_noRows _
  · split
    · exact accepted
    · apply ask_within (idle_of_query _ fun _ _ => rfl)
      intro answer
      cases answer with
      | error error => exact failed_noRows _
      | ok found =>
          cases found with
          | none => exact failed_noRows _
          | some user =>
              dsimp only
              split
              · exact accepted
              · exact failed_noRows _

/-- A configuration that is refused changes nothing. -/
theorem updateConfig_within {payload : Value}
    (refused : ¬ (Action.updateConfig payload).Exposes crates) :
    (updateConfig crates payload).Within Statement.Idle NoRows := by
  unfold updateConfig
  cases loaded : AppConfig.loadFromValue crates.crates crates.environment crates.configFromValue
      payload with
  | error error => exact failed_noRows _
  | ok config =>
      cases printed : crates.configToYaml config with
      | error error =>
          simp only [printed]
          exact failed_noRows _
      | ok configData => exact absurd ⟨config, configData, loaded, printed⟩ refused

/-- A handler that does not expose the configuration runs statements that leave the database alone,
and returns no row. -/
theorem within_of_not_exposes {action : Action} (guarded : ¬ action.Exposes crates) :
    (actionHandler crates state request action).Within Statement.Idle NoRows := by
  cases action with
  | dashboardIndex => exact dashboardIndex_within
  | loginPage | logout | serveFile rest => exact respond_within rfl
  | login payload => exact loginHandler_within payload
  | updateConfig payload => exact updateConfig_within guarded
  | createClient client => exact create_within (insertClient_idle rfl) failed_noRows text_noRows _
  | createProvider provider =>
      apply withProfile_within failed_noRows
      intro profile serialized
      exact create_within (insertProvider_idle rfl) failed_noRows text_noRows _
  | updateProvider id provider =>
      apply withProfile_within failed_noRows
      intro profile serialized
      exact absurd ⟨profile, serialized⟩ guarded
  | _ => exact absurd trivial guarded

/-- A harmless request is handled without touching the database, and answered without rows. -/
theorem handleRequest_within (harmless : Harmless crates request) :
    (handleRequest crates state request).Within Statement.Idle NoRows := by
  unfold handleRequest
  cases reached : dispatch crates request with
  | error rejection =>
      apply respond_within
      unfold Method.strip
      split
      · rfl
      · rfl
  | ok action =>
      by_cases isHead : request.method = .head
      · -- the handler is one for `GET`, and its body is dropped
        have reads : action.Reads := by
          unfold dispatch at reached
          cases found : endpoint request.path with
          | none => simp [found] at reached
          | some path =>
              simp only [found, isHead] at reached
              exact endpointAction_get reached
        apply (reads_within reads).map
        intro answer _ response sent
        cases answer with
        | none => cases sent
        | some full =>
            cases sent
            simp only [Method.strip, isHead, if_true]
            rfl
      · have guarded : ¬ action.Exposes crates := harmless.resolve_left isHead action reached
        apply (within_of_not_exposes guarded).map
        intro answer noRows
        have whole : request.method.strip = id := by
          funext response
          simp only [Method.strip, isHead, if_false]
          rfl
        rw [whole, Option.map_id]
        exact noRows

end Handlers

/-! ### Handlers that expose the configuration -/

/-- A handler, run alone, changes a table or returns rows of one. -/
def Leaks (before : Database) (outcome : Option Response × Database) : Prop :=
  ¬ SameTables before outcome.2 ∨ ¬ NoRows outcome.1

/-- Nothing goes wrong with a statement. -/
def undisturbed : Served := { now := "2026-01-01 00:00:00" }

section Shapes

variable {crates : DashboardCrates} {statement : Statement} {database after : Database}
  {answer : statement.Rows}

theorem alone_of_execute (executed : statement.execute undisturbed.now database = .ok (answer, after))
    (next : statement.Answer → Handler) :
    (Program.ask statement next : Handler).alone Database.serve undisturbed database =
      (next (.ok answer)).alone Database.serve undisturbed after :=
  alone_ok executed next

/-- A success that shows rows is a leak. -/
theorem leaks_rows {before : Database} {data : Data} (rows : data.rowCount ≠ 0) :
    Leaks before
      ((Handler.success data).alone Database.serve undisturbed after) := by
  apply Or.inr
  intro noRows
  exact rows (noRows _ rfl)

/-- So is a listing that has any. -/
theorem list_leaks {α : Type} {convert : statement.Rows → Option α} {listed : α} {data : α → Data}
    (executed : statement.execute undisturbed.now database = .ok (answer, after))
    (converted : convert answer = some listed) (rows : (data listed).rowCount ≠ 0) :
    Leaks database
      ((list crates statement convert data).alone Database.serve undisturbed database) := by
  unfold list
  rw [alone_of_execute executed]
  simp only [converted]
  exact leaks_rows rows

/-- So is a look at a row that is there. -/
theorem fetchOptional_leaks {Row α : Type} {rows : statement.Rows → Option Row}
    {convert : Row → Option α} {row : Row} {shown : α} {data : α → Data} {missing : String}
    (executed : statement.execute undisturbed.now database = .ok (answer, after))
    (found : rows answer = some row) (converted : convert row = some shown)
    (returned : (data shown).rowCount ≠ 0) :
    Leaks database
      ((fetchOptional crates statement rows convert data missing).alone Database.serve undisturbed
        database) := by
  unfold fetchOptional
  rw [alone_of_execute executed]
  simp only [found, converted]
  exact leaks_rows returned

/-- A creation that changes a table is a leak. -/
theorem create_leaks {created : String}
    (executed : statement.execute undisturbed.now database = .ok (answer, after))
    (changed : ¬ SameTables database after) :
    Leaks database
      ((create crates statement created).alone Database.serve undisturbed database) := by
  apply Or.inl
  unfold create
  rw [alone_of_execute executed]
  exact changed

/-- So is a change or a deletion that does. -/
theorem affect_leaks {affected : statement.Rows → Nat} {done missing : String}
    (executed : statement.execute undisturbed.now database = .ok (answer, after))
    (changed : ¬ SameTables database after) :
    Leaks database
      ((affect crates statement affected done missing).alone Database.serve undisturbed
        database) := by
  apply Or.inl
  unfold affect
  rw [alone_of_execute executed]
  dsimp only
  split
  · exact changed
  · exact changed

/-- A new version changes its table. -/
theorem insertNextVersion_changes (before : Database) (configData : String)
    (message : Int32 → String) :
    ¬ SameTables before
      ((insertNextVersion crates configData message).alone Database.serve undisturbed before).2 := by
  intro same
  have longer := congrArg List.length same.configVersions
  simp [insertNextVersion, Program.alone, Database.serve, undisturbed, Statement.execute,
    Table.insert, Handler.success, Handler.respond] at longer

end Shapes

/-- A database with one row in each table of the configuration. -/
def oneOfEach (id : String) (version : Int32) (requests : Nat) (insecure : Bool) (models : String) :
    Database where
  configVersions := ⟨[⟨1, version, "", "", "", false⟩], 1⟩
  clients := ⟨[⟨1, id, "", "", "", requests, 0, "", ""⟩], 1⟩
  providers := ⟨[⟨1, id, "", "", "", "", "", "", insecure, "", ""⟩], 1⟩
  routes := ⟨[⟨1, id, models, "", ""⟩], 1⟩

/-- Every handler that exposes the configuration leaks on some database. -/
theorem exposes_leaks {crates : DashboardCrates} (state : DashboardState) (request : HttpRequest)
    {action : Action} (exposes : action.Exposes crates) :
    ∃ database, Leaks database
      ((actionHandler crates state request action).alone Database.serve undisturbed database) := by
  cases action with
  | dashboardIndex | loginPage | login payload | logout | serveFile rest =>
      exact absurd exposes not_false
  | createClient client | createProvider provider => exact absurd exposes not_false
  | getConfig =>
      refine ⟨oneOfEach "" 0 0 false "", ?_⟩
      simp only [actionHandler, getConfig]
      exact fetchOptional_leaks rfl rfl rfl Nat.one_ne_zero
  | listVersions | listClients | listProviders | listRoutes =>
      refine ⟨oneOfEach "" 0 0 false "", list_leaks rfl rfl ?_⟩
      exact Nat.one_ne_zero
  | getVersion version =>
      refine ⟨oneOfEach "" version 0 false "",
        fetchOptional_leaks rfl (List.find?_cons_of_pos ?_) rfl ?_⟩
      · exact beq_self_eq_true version
      · exact Nat.one_ne_zero
  | getClient id | getProvider id | getRoute id =>
      refine ⟨oneOfEach id 0 0 false "",
        fetchOptional_leaks rfl (List.find?_cons_of_pos ?_) rfl ?_⟩
      · exact beq_self_eq_true id
      · exact Nat.one_ne_zero
  | updateConfig payload =>
      obtain ⟨config, configData, loaded, printed⟩ := exposes
      refine ⟨{}, .inl ?_⟩
      simp only [actionHandler, updateConfig, loaded, printed]
      exact insertNextVersion_changes _ _ _
  | revertVersion version =>
      have executed : (Statement.selectConfigData version).execute undisturbed.now
          (oneOfEach "" version 0 false "") = .ok (some "", oneOfEach "" version 0 false "") := by
        simp [Statement.execute, oneOfEach]
      refine ⟨oneOfEach "" version 0 false "", .inl ?_⟩
      simp only [actionHandler, revertVersion]
      rw [alone_of_execute executed]
      exact insertNextVersion_changes _ _ _
  | createRoute route =>
      refine ⟨{}, create_leaks rfl ?_⟩
      intro same
      cases same.routes
  | updateClient id client =>
      refine ⟨oneOfEach id 0 (client.requestsPerMinute + 1) false "", affect_leaks rfl ?_⟩
      intro same
      have kept := same.clients
      simp [oneOfEach] at kept
  | updateProvider id provider =>
      obtain ⟨profile, serialized⟩ := exposes
      refine ⟨oneOfEach id 0 0 (!provider.allowInsecureHttp) "", ?_⟩
      simp only [actionHandler, updateProvider, withProfile, serialized]
      apply affect_leaks rfl
      intro same
      have kept := same.providers
      simp [oneOfEach] at kept
  | updateRoute id route =>
      refine ⟨oneOfEach id 0 0 false (String.intercalate "," route.models ++ " "),
        affect_leaks rfl ?_⟩
      intro same
      have kept := same.routes
      simp only [oneOfEach, List.map_cons, beq_self_eq_true, if_true, List.cons.injEq,
        RouteRow.mk.injEq, true_and] at kept
      have longer := congrArg String.length kept.1.1
      simp [String.length_append] at longer
  | deleteClient id =>
      refine ⟨oneOfEach id 0 0 false "", affect_leaks rfl ?_⟩
      intro same
      have kept := same.clients
      simp [oneOfEach] at kept
  | deleteProvider id =>
      refine ⟨oneOfEach id 0 0 false "", affect_leaks rfl ?_⟩
      intro same
      have kept := same.providers
      simp [oneOfEach] at kept
  | deleteRoute id =>
      refine ⟨oneOfEach id 0 0 false "", affect_leaks rfl ?_⟩
      intro same
      have kept := same.routes
      simp [oneOfEach] at kept

/-! ### The whole dashboard -/

section Access

variable {crates : DashboardCrates} {state : DashboardState} {request : HttpRequest}

/-- A request that exposes the configuration reaches its handler, and is answered in full. -/
theorem exposed_of_not_harmless (exposed : ¬ Harmless crates request) :
    ∃ action : Action, action.Exposes crates ∧ dispatch crates request = .ok action ∧
      handleRequest crates state request = (actionHandler crates state request action).map id := by
  unfold Harmless at exposed
  push Not at exposed
  obtain ⟨notHead, action, reached, exposes⟩ := exposed
  refine ⟨action, exposes, reached, ?_⟩
  have whole : Option.map request.method.strip = id := by
    funext answer
    cases answer with
    | none => rfl
    | some response =>
        simp only [Option.map_some, Method.strip, notHead, if_false]
        rfl
  simp only [handleRequest, reached, whole]

/-- One request that exposes the configuration is enough to break the guard. -/
theorem not_guarded_of_exposed {admitted : HttpRequest → Prop} (isAdmitted : admitted request)
    (exposed : ¬ Harmless crates request) : ¬ AccessGuarded crates state admitted := by
  intro guarded
  obtain ⟨action, exposes, reached, handled⟩ := @exposed_of_not_harmless crates state request exposed
  obtain ⟨database, leaks⟩ := exposes_leaks state request exposes
  obtain ⟨moves, only, reaches⟩ := Pool.exists_run_alone Database.serve
    (handleRequest crates state) undisturbed request database
  have noLogin : NoValidLogin crates state database moves := by
    apply noValidLogin_of_dispatch
    intro other payload member isLogin
    rw [only other member, reached] at isLogin
    cases isLogin
    exact exposes
  have admits : ∀ other, .start other ∈ moves → admitted other := by
    intro other member
    rw [only other member]
    exact isAdmitted
  obtain ⟨same, noRows⟩ := guarded database moves admits noLogin
  rw [handled, Program.alone_map] at reaches
  unfold DashboardPool.run at same noRows
  rw [reaches] at same noRows
  cases leaks with
  | inl changed => exact changed same
  | inr returned => exact returned (noRows _ List.mem_cons_self)

end Access

/-- The dashboard guards the configuration in the runs of a set of requests exactly when every
request of the set is harmless. -/
theorem dashboard_guarded_iff (crates : DashboardCrates) (state : DashboardState)
    (admitted : HttpRequest → Prop) :
    AccessGuarded crates state admitted ↔
      ∀ request, admitted request → Harmless crates request := by
  constructor
  · intro guarded request isAdmitted
    by_contra exposed
    exact not_guarded_of_exposed isAdmitted exposed guarded
  · intro harmless database moves isAdmitted _
    have within : (DashboardPool.run crates state (Pool.idle database) moves).Within
        Statement.Idle NoRows (· = database) := by
      apply Pool.Within.run
      · intro served statement current idle unchanged
        rw [idle.serve, unchanged]
      · intro request member
        exact handleRequest_within (harmless request (isAdmitted request member))
      · exact Pool.Within.idle rfl
    constructor
    · rw [within.state]
      exact SameTables.rfl
    · exact within.finished

/-- The layer that the routes lack would not turn a forged cookie away: its value is the same for
everyone. -/
theorem authMiddleware_forged (next : HttpRequest → Handler) (request : HttpRequest) :
    let forged :=
      { request with cookies := request.cookies ++ [("auth_token", "authenticated")] }
    authMiddleware next forged = next forged := by
  intro forged
  have cookie : forged.cookie "auth_token" = some "authenticated" := by
    simp [forged, HttpRequest.cookie]
  simp only [authMiddleware, cookie, or_true, if_true]

/-! ### Without a login -/

/-- The crates on requests without a body; the segments of their paths have nothing to decode. -/
def plainCrates : DashboardCrates where
  crates :=
    { fromStr := fun _ => .error "expected value at line 1 column 1"
      toJson := fun _ => "null"
      base64Decode := fun _ => none
      urlParse := fun _ => .error "relative URL without a base" }
  environment :=
    { envVar := fun _ => none
      readFile := fun _ => .error "No such file or directory (os error 2)"
      isHeaderName := fun _ => false
      isHeaderValue := fun _ => false
      displayStatus := fun _ => ""
      buildClient := fun _ => .ok ()
      parseGlob := fun _ => .ok ()
      globSet := fun _ => .ok fun _ => false
      tokenizer := fun _ => .error "unknown tokenizer" }
  jsonLogin _ := .error ⟨415, "Expected request with `Content-Type: application/json`"⟩
  jsonValue _ := .error ⟨415, "Expected request with `Content-Type: application/json`"⟩
  jsonClient _ := .error ⟨415, "Expected request with `Content-Type: application/json`"⟩
  jsonProvider _ := .error ⟨415, "Expected request with `Content-Type: application/json`"⟩
  jsonRoute _ := .error ⟨415, "Expected request with `Content-Type: application/json`"⟩
  configFromValue _ := .error "missing field `clients`"
  configToYaml _ := .ok "clients: []\nproviders: []\nroutes: []\n"
  profileToJson _ := .ok "\x7b\x7d"
  hashPassword _ _ := .error "salt invalid"
  verifyPassword _ _ := false
  describe _ := "database is locked"
  percentDecode := some
  serveDir _ := (404, [])

/-- The database as the process leaves it for the sample route. -/
def sampleDatabase : Database :=
  ((createSampleRoute plainCrates).alone Database.serve undisturbed
    (Database.migrated undisturbed.now)).2

def listRequest : HttpRequest := { method := .get, path := ["api", "routes"] }

def deleteRequest : HttpRequest := { method := .delete, path := ["api", "routes", "sonnet"] }

/-- A request, its statement and its response. -/
def oneStatement (request : HttpRequest) : List DashboardMove :=
  [.start request, .advance 0 undisturbed, .advance 0 undisturbed]

/-- A request that is no login leaves everybody logged out. -/
theorem oneStatement_noValidLogin {request : HttpRequest}
    (never : ∀ payload, dispatch plainCrates request ≠ .ok (.login payload)) :
    NoValidLogin plainCrates ⟨"secret"⟩ sampleDatabase (oneStatement request) := by
  apply noValidLogin_of_dispatch
  intro other payload member
  have same : other = request := by simpa [oneStatement] using member
  rw [same]
  exact never payload

def sampleRoute : DbRoute where
  id := "sonnet"
  models := ["claude-*-sonnet-*", "claude-sonnet-*"]

/-- Nobody has logged in and the requests carry no cookie: one is answered with the sample route and
the other removes it. -/
theorem dashboard_unguarded :
    (¬ AccessGuarded plainCrates ⟨"secret"⟩ fun request => request = listRequest) ∧
      ¬ AccessGuarded plainCrates ⟨"secret"⟩ fun request => request = deleteRequest := by
  constructor
  · intro guarded
    obtain ⟨_, noRows⟩ := guarded sampleDatabase (oneStatement listRequest)
      (by simp [oneStatement]) (oneStatement_noValidLogin fun _ isLogin => by cases isLogin)
    have answered : (DashboardPool.run plainCrates ⟨"secret"⟩ (Pool.idle sampleDatabase)
        (oneStatement listRequest)).finished =
        [some { body := .api ⟨true, some (.routes [sampleRoute]), none⟩ }] := by
      decide +kernel
    rw [answered] at noRows
    cases noRows _ List.mem_cons_self _ rfl
  · intro guarded
    obtain ⟨same, _⟩ := guarded sampleDatabase (oneStatement deleteRequest)
      (by simp [oneStatement]) (oneStatement_noValidLogin fun _ isLogin => by cases isLogin)
    have removed : (DashboardPool.run plainCrates ⟨"secret"⟩ (Pool.idle sampleDatabase)
        (oneStatement deleteRequest)).state.routes.rows = [] := by
      decide +kernel
    have before : sampleDatabase.routes.rows.length = 1 := by
      decide +kernel
    rw [← same.routes, removed] at before
    cases before

end ClaudeProxy.Dashboard
