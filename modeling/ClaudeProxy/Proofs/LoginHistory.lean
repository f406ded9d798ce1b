/-
Module: ClaudeProxy.Proofs.LoginHistory
Layer: Proofs
Purpose: Who logs in over all the starts of the process on one database. The migrations insert an
  administrator whose hash verifies nothing, so that no start ever stores the hash of a secret; what
  remains is the secret that the process at work was started with.
Trusted boundary: none
Main exports: placeholderHash, IssuesSession, currentSecret, OnlyCurrentSecret, Unclaimed,
  World.Guarded, login_history
-/
import ClaudeProxy.Dashboard.Process
import ClaudeProxy.Library.Run
import ClaudeProxy.Proofs.DashboardAccess
import ClaudeProxy.Proofs.StoreKeys

namespace ClaudeProxy.Dashboard

open Library

/-! ### What a login is -/

/-- The hash that the migrations insert. -/
def placeholderHash : String := "$argon2id$v=19$m=65536,t=3,p=4$example_salt$example_hash"

/-- The response sets the session cookie. -/
def IssuesSession (answer : Option Response) : Prop :=
  ∃ response, answer = some response ∧ ∃ path httpOnly,
    SetCookie.add "auth_token" "authenticated" path httpOnly ∈ response.setCookies

def secretAfter (secret : Option String) : WorldMove → Option String
  | .launch _ adminSecret => some adminSecret
  | _ => secret

/-- The secret of the last start. -/
def currentSecret (moves : List WorldMove) : Option String := moves.foldl secretAfter none

/-- A request is a login with the user name `admin` and a password. -/
def LoginWith (crates : DashboardCrates) (request : HttpRequest) (secret : Option String) : Prop :=
  ∃ payload, dispatch crates request = .ok (.login payload) ∧ payload.username = "admin" ∧
    payload.password ≠ "" ∧ secret = some payload.password

/-- Whatever the process at work has handled, it set the session cookie exactly for the logins with
its own secret. -/
def OnlyCurrentSecret (crates : DashboardCrates) (moves : List WorldMove) : Prop :=
  ∀ state pool, World.run crates moves = .serving state pool →
    ∀ request answer, (request, answer) ∈ pool.finished →
      (IssuesSession answer ↔ LoginWith crates request (currentSecret moves))

/-! ### The administrator of the migrations -/

/-- The one administrator is that of the migrations. -/
def Unclaimed (database : Database) : Prop :=
  ∃ row : AdminUserRow, database.adminUsers.rows = [row] ∧ row.username = "admin" ∧
    row.passwordHash = placeholderHash

/-- A database that has just been migrated has the administrator of the migrations. -/
theorem migrated_unclaimed (now : String) : Unclaimed (Database.migrated now) :=
  ⟨_, rfl, rfl, rfl⟩

/-- A statement does not insert an administrator. -/
def Statement.KeepsAdmin (statement : Statement) : Prop := statement.target ≠ some .adminUsers

/-- A statement keeps the administrators exactly if it is about another table. -/
@[simp]
theorem Statement.keepsAdmin_iff {statement : Statement} :
    statement.KeepsAdmin ↔ statement.target ≠ some .adminUsers :=
  Iff.rfl

/-- What a database with that one administrator answers. -/
def FromUnclaimed : (statement : Statement) → statement.Answer → Prop
  | .selectAdminUser username, answer => ∀ found, answer = .ok found →
      (username = "admin" → found.isSome = true) ∧
        ∀ user, found = some user → user.passwordHash = placeholderHash
  | _, _ => True

/-- Statements that keep the administrators leave that one as it is. -/
theorem Unclaimed.serve {database : Database} (unclaimed : Unclaimed database) {statement : Statement}
    (keeps : statement.KeepsAdmin) (served : Served) :
    Unclaimed (database.serve served statement).2 := by
  unfold Unclaimed
  rw [(serve_untouched served statement database).adminUsers keeps]
  exact unclaimed

/-- Such a database knows no hash but the placeholder. -/
theorem Unclaimed.answer {database : Database} (unclaimed : Unclaimed database)
    (statement : Statement) (served : Served) :
    FromUnclaimed statement (database.serve served statement).1 := by
  cases statement with
  | selectAdminUser username =>
      obtain ⟨row, onlyRow, isAdmin, isPlaceholder⟩ := unclaimed
      intro found isFound
      rcases database.serve_cases served (.selectAdminUser username) with
        ⟨error, isError, _⟩ | ⟨rows, after, isAfter, _, executed⟩
      · rw [isError] at isFound
        cases isFound
      · cases executed
        rw [isAfter] at isFound
        cases isFound
        rw [onlyRow, List.find?_singleton, isAdmin]
        constructor
        · intro sameName
          subst sameName
          rfl
        · intro user isUser
          by_cases sameName : ("admin" == username) = true
          · rw [if_pos sameName] at isUser
            cases isUser
            exact isPlaceholder
          · rw [if_neg sameName] at isUser
            cases isUser
  | _ => trivial

/-! ### Starts -/

/-- Two parts of a start keep to what each of them keeps to. -/
theorem andThen_within {allowed : Statement → Prop} {first second : Startup}
    (before : first.Within allowed fun _ => True) (after : second.Within allowed fun _ => True) :
    (first.andThen second).Within allowed fun _ => True := by
  apply Program.Within.bind _ before
  intro result _
  cases result with
  | ok done => exact after
  | error error => trivial

/-- The samples of a start are about other tables. -/
theorem createSamples_within (crates : DashboardCrates) :
    (createSamples crates).Within Statement.KeepsAdmin fun _ => True := by
  have each : ∀ startup ∈ samples crates, startup.Within Statement.KeepsAdmin fun _ => True :=
    fun startup sample => (samples_within sample).permit fun _ both => both.2
  refine andThen_within (each _ (by simp [samples])) ?_
  refine andThen_within (each _ (by simp [samples])) ?_
  refine andThen_within (each _ (by simp [samples])) ?_
  exact each _ (by simp [samples])

/-- A start finds the administrator of the migrations and inserts none. -/
theorem prepareDatabase_given (crates : DashboardCrates) (salt adminSecret : String) :
    (prepareDatabase crates salt adminSecret).Given FromUnclaimed Statement.KeepsAdmin
      fun _ => True := by
  have administrator : (createInitialAdminUser crates salt adminSecret).Given FromUnclaimed
      Statement.KeepsAdmin fun _ => True := by
    refine ⟨by simp, ?_⟩
    intro answer possible
    cases answer with
    | error error => trivial
    | ok found =>
        obtain ⟨present, _⟩ := possible found rfl
        dsimp only
        rw [if_pos (present rfl)]
        trivial
  apply Program.Given.bind _ administrator
  intro result _
  cases result with
  | ok done => exact (createSamples_within crates).given
  | error error => trivial

/-! ### Requests -/

section Requests

variable {crates : DashboardCrates} {state : DashboardState} {request : HttpRequest}

theorem none_noSession : ¬ IssuesSession none := by
  rintro ⟨response, sent, _⟩
  cases sent

/-- A response without cookies opens no session. -/
theorem noSession_of_noCookies {response : Response} (noCookies : response.setCookies = []) :
    ¬ IssuesSession (some response) := by
  rintro ⟨other, sent, path, httpOnly, member⟩
  cases sent
  rw [noCookies] at member
  cases member

theorem failed_noSession (text : String) : ¬ IssuesSession (some (failedAnswer text)) :=
  noSession_of_noCookies rfl

theorem shown_noSession (data : Data) : ¬ IssuesSession (some (shownAnswer data)) :=
  noSession_of_noCookies rfl

/-- A login that succeeds opens one. -/
theorem login_issuesSession :
    IssuesSession (some { Response.redirect "/dashboard" with
      setCookies := [.add "auth_token" "authenticated" "/" true] }) :=
  ⟨_, rfl, "/", true, List.mem_singleton_self _⟩

/-- A new version neither changes an administrator nor opens a session. -/
theorem insertNextVersion_keepsAdmin (configData : String) (message : Int32 → String) :
    (insertNextVersion crates configData message).Within Statement.KeepsAdmin
      fun answer => ¬ IssuesSession answer := by
  refine ⟨by simp, ?_⟩
  intro current
  refine ⟨by simp, ?_⟩
  intro inserted
  cases inserted with
  | ok rows => exact shown_noSession _
  | error error => exact failed_noSession _

/-- Neither does an update. -/
theorem updateConfig_keepsAdmin (payload : Value) :
    (updateConfig crates payload).Within Statement.KeepsAdmin
      fun answer => ¬ IssuesSession answer := by
  unfold updateConfig
  cases AppConfig.loadFromValue crates.crates crates.environment crates.configFromValue payload with
  | error error => exact failed_noSession _
  | ok config =>
      dsimp only
      cases crates.configToYaml config with
      | error error => exact failed_noSession _
      | ok configData => exact insertNextVersion_keepsAdmin configData _

/-- Neither does a revert. -/
theorem revertVersion_keepsAdmin (version : Int32) :
    (revertVersion crates version).Within Statement.KeepsAdmin
      fun answer => ¬ IssuesSession answer := by
  refine ⟨by simp, ?_⟩
  intro answer
  cases answer with
  | error error => exact failed_noSession _
  | ok found =>
      cases found with
      | none => exact failed_noSession _
      | some configData => exact insertNextVersion_keepsAdmin configData _

/-- Only a login sets the session cookie, and no handler inserts an administrator. -/
theorem actionHandler_keepsAdmin {action : Action} (noLogin : ∀ payload, action ≠ .login payload) :
    (actionHandler crates state request action).Within Statement.KeepsAdmin
      fun answer => ¬ IssuesSession answer := by
  cases action with
  | login payload => exact absurd rfl (noLogin payload)
  | dashboardIndex =>
      simp only [actionHandler, dashboardIndex]
      split
      · exact noSession_of_noCookies rfl
      · exact noSession_of_noCookies rfl
  | loginPage | serveFile rest => exact noSession_of_noCookies rfl
  | logout =>
      simp only [actionHandler, logoutHandler]
      rintro ⟨response, sent, path, httpOnly, member⟩
      cases sent
      dsimp only at member
      split at member
      · simp at member
      · cases member
  | updateConfig payload => exact updateConfig_keepsAdmin payload
  | revertVersion version => exact revertVersion_keepsAdmin version
  | getConfig | getVersion version | getClient id | getProvider id | getRoute id =>
      simp only [actionHandler, getConfig, getVersion, getClient, getProvider, getRoute]
      refine fetchOptional_within ?_ failed_noSession none_noSession _ _
        (fun _ => shown_noSession _) _
      simp
  | listVersions | listClients | listProviders | listRoutes =>
      simp only [actionHandler, listVersions, listClients, listProviders, listRoutes]
      refine list_within ?_ failed_noSession none_noSession _ fun _ => shown_noSession _
      simp
  | createClient client =>
      refine create_within ?_ failed_noSession (fun _ => shown_noSession _) _
      simp
  | createProvider provider =>
      refine withProfile_within failed_noSession fun profile _ => ?_
      refine create_within ?_ failed_noSession (fun _ => shown_noSession _) _
      simp
  | createRoute route =>
      refine create_within ?_ failed_noSession (fun _ => shown_noSession _) _
      simp
  | updateProvider id provider =>
      refine withProfile_within failed_noSession fun profile _ => ?_
      refine affect_within ?_ failed_noSession (fun _ => shown_noSession _) _ _ _
      simp
  | updateClient id client | deleteClient id | deleteProvider id =>
      refine affect_within ?_ failed_noSession (fun _ => shown_noSession _) _ _ _
      simp
  | updateRoute id route | deleteRoute id =>
      refine affect_within ?_ failed_noSession (fun _ => shown_noSession _) _ _ _
      simp

/-- A login with the secret of the process gets the session cookie at once; with anything else the
hash of the one administrator decides, which verifies nothing. -/
theorem loginHandler_given
    (placeholder : ∀ password, crates.verifyPassword placeholderHash password = false)
    (payload : LoginRequest) :
    (loginHandler crates state payload).Given FromUnclaimed Statement.KeepsAdmin
      fun answer => IssuesSession answer ↔
        payload.username = "admin" ∧ payload.password ≠ "" ∧
          payload.password = state.adminSecret := by
  simp only [loginHandler]
  by_cases isEmpty : payload.username = "" ∨ payload.password = ""
  · rw [if_pos isEmpty]
    apply iff_of_false (failed_noSession _)
    rintro ⟨isAdmin, notEmpty, _⟩
    rcases isEmpty with noName | noPassword
    · rw [isAdmin] at noName
      exact absurd noName (by decide)
    · exact notEmpty noPassword
  · rw [if_neg isEmpty]
    by_cases isSecret : payload.username = "admin" ∧ payload.password = state.adminSecret
    · rw [if_pos isSecret]
      apply iff_of_true login_issuesSession
      exact ⟨isSecret.1, fun noPassword => isEmpty (.inr noPassword), isSecret.2⟩
    · rw [if_neg isSecret]
      have refused : ¬ (payload.username = "admin" ∧ payload.password ≠ "" ∧
          payload.password = state.adminSecret) :=
        fun ⟨isAdmin, _, same⟩ => isSecret ⟨isAdmin, same⟩
      refine ⟨by simp, ?_⟩
      intro answer possible
      cases answer with
      | error error => exact iff_of_false (failed_noSession _) refused
      | ok found =>
          obtain ⟨_, onlyPlaceholder⟩ := possible found rfl
          cases found with
          | none => exact iff_of_false (failed_noSession _) refused
          | some user =>
              have unverified : crates.verifyPassword user.passwordHash payload.password = false := by
                rw [onlyPlaceholder user rfl]
                exact placeholder payload.password
              dsimp only
              rw [unverified]
              exact iff_of_false (failed_noSession _) refused

/-- A `HEAD` opens a session exactly if its `GET` does. -/
theorem issuesSession_strip {method : Method} {answer : Option Response} :
    IssuesSession (answer.map method.strip) ↔ IssuesSession answer := by
  have sameCookies : ∀ response : Response,
      (method.strip response).setCookies = response.setCookies := by
    intro response
    unfold Method.strip
    split
    · rfl
    · rfl
  cases answer with
  | none => rfl
  | some response =>
      constructor
      · rintro ⟨_, sent, path, httpOnly, member⟩
        cases sent
        rw [sameCookies] at member
        exact ⟨response, rfl, path, httpOnly, member⟩
      · rintro ⟨_, sent, path, httpOnly, member⟩
        cases sent
        rw [← sameCookies] at member
        exact ⟨method.strip response, rfl, path, httpOnly, member⟩

/-- A request that was handled got the session cookie exactly for a login with the secret. -/
def Handled (crates : DashboardCrates) (state : DashboardState)
    (result : HttpRequest × Option Response) : Prop :=
  IssuesSession result.2 ↔ LoginWith crates result.1 (some state.adminSecret)

/-- While the one administrator is that of the migrations, a request opens a session exactly if it is
a login with the secret of the process. -/
theorem requestProgram_given
    (placeholder : ∀ password, crates.verifyPassword placeholderHash password = false)
    (request : HttpRequest) :
    (requestProgram crates state request).Given FromUnclaimed Statement.KeepsAdmin
      (Handled crates state) := by
  have handled : (handleRequest crates state request).Given FromUnclaimed Statement.KeepsAdmin
      fun answer => IssuesSession answer ↔ LoginWith crates request (some state.adminSecret) := by
    unfold handleRequest
    cases reached : dispatch crates request with
    | error rejection =>
        apply iff_of_false
        · apply noSession_of_noCookies
          unfold Method.strip
          split
          · rfl
          · rfl
        · rintro ⟨payload, isLogin, _⟩
          rw [reached] at isLogin
          cases isLogin
    | ok action =>
        by_cases isLogin : ∃ payload, action = .login payload
        · obtain ⟨payload, isPayload⟩ := isLogin
          subst isPayload
          apply (loginHandler_given placeholder payload).map
          intro answer issues
          rw [issuesSession_strip, issues]
          constructor
          · rintro ⟨isAdmin, notEmpty, same⟩
            exact ⟨payload, reached, isAdmin, notEmpty, congrArg some same.symm⟩
          · rintro ⟨other, isOther, isAdmin, notEmpty, same⟩
            rw [reached] at isOther
            cases isOther
            exact ⟨isAdmin, notEmpty, (Option.some.inj same).symm⟩
        · have noLogin : ∀ payload, action ≠ .login payload :=
            fun payload isPayload => isLogin ⟨payload, isPayload⟩
          apply (actionHandler_keepsAdmin noLogin).given.map
          intro answer noSession
          rw [issuesSession_strip]
          apply iff_of_false noSession
          rintro ⟨payload, isPayload, _⟩
          rw [reached] at isPayload
          cases isPayload
          exact noLogin payload rfl
  apply handled.map
  intro answer iffLogin
  exact iffLogin

end Requests

/-! ### The whole history -/

/-- At any time: no secret is stored, and what the process does is right for the secret of the last
start. -/
def World.Guarded (crates : DashboardCrates) (secret : Option String) : World → Prop
  | .down file => ∀ database, file = some database → Unclaimed database
  | .launched file _ adminSecret =>
      secret = some adminSecret ∧ ∀ database, file = some database → Unclaimed database
  | .starting database adminSecret startup =>
      secret = some adminSecret ∧ Unclaimed database ∧
        startup.Given FromUnclaimed Statement.KeepsAdmin fun _ => True
  | .serving state pool =>
      secret = some state.adminSecret ∧ Unclaimed pool.state ∧
        pool.Coherent
          (fun _ program => program.Given FromUnclaimed Statement.KeepsAdmin (Handled crates state))
          (fun _ => Handled crates state)

/-- The database of a guarded world has that administrator. -/
theorem World.Guarded.file {crates : DashboardCrates} {secret : Option String} {world : World}
    (guarded : world.Guarded crates secret) :
    ∀ database, world.file = some database → Unclaimed database := by
  intro database isFile
  cases world with
  | down file => exact guarded database isFile
  | launched file salt adminSecret => exact guarded.2 database isFile
  | starting current adminSecret startup =>
      cases isFile
      exact guarded.2.1
  | serving state pool =>
      cases isFile
      exact guarded.2.1

/-- The step lemma. -/
theorem World.Guarded.step {crates : DashboardCrates}
    (placeholder : ∀ password, crates.verifyPassword placeholderHash password = false)
    {secret : Option String} {world : World} (guarded : world.Guarded crates secret)
    (move : WorldMove) : (world.step crates move).Guarded crates (secretAfter secret move) := by
  cases move with
  | launch salt adminSecret => exact ⟨rfl, guarded.file⟩
  | stop => exact guarded.file
  | advance served =>
      cases world with
      | down file => exact guarded
      | launched file salt adminSecret =>
          obtain ⟨isSecret, unclaimed⟩ := guarded
          simp only [World.step]
          split
          · exact unclaimed
          · refine ⟨isSecret, ?_, prepareDatabase_given crates salt adminSecret⟩
            cases file with
            | none => exact migrated_unclaimed _
            | some database => exact unclaimed database rfl
      | starting database adminSecret startup =>
          obtain ⟨isSecret, unclaimed, given⟩ := guarded
          cases startup with
          | done result =>
              cases result with
              | ok done =>
                  refine ⟨isSecret, unclaimed, ?_⟩
                  constructor
                  · intro program member
                    cases member
                  · intro result member
                    cases member
              | error error =>
                  intro other isOther
                  cases isOther
                  exact unclaimed
          | ask statement next =>
              obtain ⟨keeps, rest⟩ := given
              exact ⟨isSecret, unclaimed.serve keeps served,
                rest _ (unclaimed.answer statement served)⟩
      | serving state pool => exact guarded
  | request move =>
      cases world with
      | down file => exact guarded
      | launched file salt adminSecret => exact guarded
      | starting database adminSecret startup => exact guarded
      | serving state pool =>
          obtain ⟨isSecret, unclaimed, coherent⟩ := guarded
          refine ⟨isSecret, ?_, ?_⟩
          · rcases Pool.move_state Database.serve (requestProgram crates state) pool move with
              same | ⟨index, served, statement, resume, _, found, after⟩
            · rw [same]
              exact unclaimed
            · rw [after]
              have keeps := (coherent.running _ (List.mem_of_getElem? found)).1
              exact unclaimed.serve keeps served
          · apply coherent.move
            · intro request _
              exact requestProgram_given placeholder request
            · intro result handled
              exact handled
            · rintro index served statement resume _ _ ⟨keeps, rest⟩
              refine ⟨rest _ (unclaimed.answer statement served), ?_, fun _ handled => handled⟩
              intro other program _ _ given
              exact given

/-- A guarded world stays guarded in every history. -/
theorem World.Guarded.run {crates : DashboardCrates}
    (placeholder : ∀ password, crates.verifyPassword placeholderHash password = false)
    {secret : Option String} {world : World} (guarded : world.Guarded crates secret)
    (moves : List WorldMove) :
    (moves.foldl (World.step crates) world).Guarded crates (moves.foldl secretAfter secret) := by
  induction moves generalizing world secret with
  | nil => exact guarded
  | cons move rest inductionHypothesis => exact inductionHypothesis (guarded.step placeholder move)

/-- Over all starts on one database, only the secret of the current process logs in. -/
theorem login_history (crates : DashboardCrates)
    (placeholder : ∀ password, crates.verifyPassword placeholderHash password = false)
    (moves : List WorldMove) : OnlyCurrentSecret crates moves := by
  have empty : (World.down none).Guarded crates none := by
    intro database isFile
    cases isFile
  have guarded := empty.run placeholder moves
  intro state pool serving request answer member
  change (World.run crates moves).Guarded crates (currentSecret moves) at guarded
  rw [serving] at guarded
  obtain ⟨isSecret, _, coherent⟩ := guarded
  rw [isSecret]
  exact coherent.finished _ member

/-! ### A rotation -/

def loginBody (password : String) : RequestBody where
  contentType := some "application/json"
  bytes := utf8Bytes
    ("\x7b\"username\":\"admin\",\"password\":\"" ++ password ++ "\"\x7d")

def loginCrates : DashboardCrates :=
  { plainCrates with
    jsonLogin := fun body =>
      match ["old", "new"].find? fun password => body == loginBody password with
      | some password => .ok ⟨"admin", password⟩
      | none => .error ⟨400, "Failed to parse the request body as JSON"⟩ }

def loginRequest (password : String) : HttpRequest where
  method := .post
  path := ["dashboard", "login"]
  body := loginBody password

/-- A process with one secret, and then one with another, at which both secrets are tried. -/
def rotationMoves : List WorldMove :=
  .launch "salt" "old" :: List.replicate 16 (.advance undisturbed) ++
    .launch "pepper" "new" :: List.replicate 16 (.advance undisturbed) ++
    [.request (.start (loginRequest "old")), .request (.advance 0 undisturbed),
      .request (.advance 0 undisturbed), .request (.start (loginRequest "new")),
      .request (.advance 0 undisturbed)]

/-- The process is started with one secret and then with another: the first secret opens no session
any more. -/
theorem login_history_rotation : OnlyCurrentSecret loginCrates rotationMoves :=
  login_history loginCrates (fun _ => rfl) rotationMoves

example :
    (match World.run loginCrates rotationMoves with
      | .serving _ pool => pool.finished.map fun result => result.2.map (·.setCookies.length)
      | _ => []) = [some 0, some 1] := by
  decide +kernel

end ClaudeProxy.Dashboard
