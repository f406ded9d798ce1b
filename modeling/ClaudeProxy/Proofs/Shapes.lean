/-
Module: ClaudeProxy.Proofs.Shapes
Layer: Proofs
Purpose: What the statements insert and what they leave alone, and the shapes that the handlers and
  the startup programs have: which statements they send and what they end with, whatever the answers,
  and what they come to when they run alone and no statement fails.
Trusted boundary: none
Main exports: shownAnswer, failedAnswer, insertClient_cases, insertProvider_cases, insertRoute_cases,
  serve_untouched, list_within, fetchOptional_within, create_within, affect_within, withProfile_within,
  attempt_within, ifNone_within, alone_ok, create_alone, affect_alone, fetchOptional_alone, list_alone
-/
import ClaudeProxy.Dashboard.Startup

namespace ClaudeProxy.Dashboard

open Library

def shownAnswer (data : Data) : Response :=
  { body := .api { success := true, data := some data, error := none } }

def failedAnswer (error : String) : Response :=
  { body := .api { success := false, data := none, error := some error } }

/-! ### What an insert leaves -/

/-- A constraint lets through what does not break it. -/
theorem refuse_eq_ok {condition : Bool} {error : SqlError} {done : Unit} :
    refuse condition error = .ok done ↔ condition = false := by
  cases condition with
  | false => simp [refuse]
  | true => simp [refuse]

section Inserts

variable {now : String} {database after : Database} {done : Unit}

/-- A client that is inserted has a new name, and the rows get one more, with its own limits. -/
theorem insertClient_cases {client : ClientInsert}
    (executed : (Statement.insertClient client).execute now database = .ok (done, after)) :
    database.clients.rows.any (·.clientId == client.clientId) = false ∧
      ∃ row : Nat → ClientRow,
        (∀ id, (row id).clientId = client.clientId ∧
          (row id).requestsPerMinute = client.requestsPerMinute ∧
          (row id).concurrentRequests = client.concurrentRequests) ∧
        after = { database with clients := database.clients.insert row } := by
  obtain ⟨inserted, insertedEq, afterEq⟩ := Except.map_eq_ok.mp executed
  cases afterEq
  simp only [Database.insertClient, Except.bind_eq_ok, refuse_eq_ok] at insertedEq
  obtain ⟨_, _, _, _, _, fresh, isInserted⟩ := insertedEq
  cases isInserted
  exact ⟨fresh, _, fun _ => ⟨rfl, rfl, rfl⟩, rfl⟩

/-- A provider that is inserted has a new name. -/
theorem insertProvider_cases {provider : ProviderInsert}
    (executed : (Statement.insertProvider provider).execute now database = .ok (done, after)) :
    database.providers.rows.any (·.providerId == provider.providerId) = false ∧
      ∃ row : Nat → ProviderRow, (∀ id, (row id).providerId = provider.providerId) ∧
        after = { database with providers := database.providers.insert row } := by
  obtain ⟨inserted, insertedEq, afterEq⟩ := Except.map_eq_ok.mp executed
  cases afterEq
  simp only [Database.insertProvider, Except.bind_eq_ok, refuse_eq_ok] at insertedEq
  obtain ⟨_, _, _, _, _, _, _, fresh, isInserted⟩ := insertedEq
  cases isInserted
  exact ⟨fresh, _, fun _ => rfl, rfl⟩

/-- So has a route. -/
theorem insertRoute_cases {routeId models : String}
    (executed : (Statement.insertRoute routeId models).execute now database = .ok (done, after)) :
    database.routes.rows.any (·.routeId == routeId) = false ∧
      ∃ row : Nat → RouteRow, (∀ id, (row id).routeId = routeId) ∧
        after = { database with routes := database.routes.insert row } := by
  obtain ⟨inserted, insertedEq, afterEq⟩ := Except.map_eq_ok.mp executed
  cases afterEq
  simp only [Database.insertRoute, Except.bind_eq_ok, refuse_eq_ok] at insertedEq
  obtain ⟨_, fresh, isInserted⟩ := insertedEq
  cases isInserted
  exact ⟨fresh, _, fun _ => rfl, rfl⟩

/-- An administrator that is inserted is one row more, and nothing else changes. -/
theorem insertAdminUser_cases {username passwordHash : String}
    (executed :
      (Statement.insertAdminUser username passwordHash).execute now database = .ok (done, after)) :
    ∃ row : Nat → AdminUserRow,
      after = { database with adminUsers := database.adminUsers.insert row } := by
  obtain ⟨inserted, insertedEq, afterEq⟩ := Except.map_eq_ok.mp executed
  cases afterEq
  simp only [Database.insertAdminUser, Except.bind_eq_ok] at insertedEq
  obtain ⟨_, _, isInserted⟩ := insertedEq
  cases isInserted
  exact ⟨_, rfl⟩

end Inserts

/-! ### Tables that a statement leaves alone -/

inductive TableName where
  | configVersions
  | clients
  | providers
  | routes
  | routeTargets
  | adminUsers
deriving DecidableEq

/-- The table whose rows a statement inserts, updates or deletes. -/
def Statement.target : Statement → Option TableName
  | .insertConfigVersion .. => some .configVersions
  | .insertClient _ | .updateClient .. | .deleteClient _ => some .clients
  | .insertProvider _ | .updateProvider .. | .deleteProvider _ => some .providers
  | .insertRoute .. | .updateRoute .. | .deleteRoute _ => some .routes
  | .insertRouteTarget .. => some .routeTargets
  | .insertAdminUser .. => some .adminUsers
  | _ => none

attribute [simp] Statement.target

/-- All tables but the target are the same; the targets of routes go with their routes. -/
structure Untouched (target : Option TableName) (before after : Database) : Prop where
  configVersions : target ≠ some .configVersions → after.configVersions = before.configVersions
  clients : target ≠ some .clients → after.clients = before.clients
  providers : target ≠ some .providers → after.providers = before.providers
  routes : target ≠ some .routes → after.routes = before.routes
  adminUsers : target ≠ some .adminUsers → after.adminUsers = before.adminUsers

theorem Untouched.same {target : Option TableName} {database : Database} :
    Untouched target database database :=
  ⟨fun _ => rfl, fun _ => rfl, fun _ => rfl, fun _ => rfl, fun _ => rfl⟩

/-- Serving a statement changes no table but the one that it is about. -/
theorem serve_untouched (served : Served) (statement : Statement) (database : Database) :
    Untouched statement.target database (database.serve served statement).2 := by
  rcases database.serve_cases served statement with
    ⟨error, same, _⟩ | ⟨rows, after, isAfter, _, executed⟩
  · rw [same]
    exact .same
  · rw [isAfter]
    cases statement with
    | insertConfigVersion version configData createdBy =>
        cases executed
        exact ⟨fun other => absurd rfl other, fun _ => rfl, fun _ => rfl, fun _ => rfl, fun _ => rfl⟩
    | insertClient client =>
        obtain ⟨_, row, _, rfl⟩ := insertClient_cases executed
        exact ⟨fun _ => rfl, fun other => absurd rfl other, fun _ => rfl, fun _ => rfl, fun _ => rfl⟩
    | updateClient | deleteClient =>
        cases executed
        exact ⟨fun _ => rfl, fun other => absurd rfl other, fun _ => rfl, fun _ => rfl, fun _ => rfl⟩
    | insertProvider provider =>
        obtain ⟨_, row, _, rfl⟩ := insertProvider_cases executed
        exact ⟨fun _ => rfl, fun _ => rfl, fun other => absurd rfl other, fun _ => rfl, fun _ => rfl⟩
    | updateProvider | deleteProvider =>
        cases executed
        exact ⟨fun _ => rfl, fun _ => rfl, fun other => absurd rfl other, fun _ => rfl, fun _ => rfl⟩
    | insertRoute routeId models =>
        obtain ⟨_, row, _, rfl⟩ := insertRoute_cases executed
        exact ⟨fun _ => rfl, fun _ => rfl, fun _ => rfl, fun other => absurd rfl other, fun _ => rfl⟩
    | updateRoute | deleteRoute =>
        cases executed
        exact ⟨fun _ => rfl, fun _ => rfl, fun _ => rfl, fun other => absurd rfl other, fun _ => rfl⟩
    | insertAdminUser username passwordHash =>
        obtain ⟨row, rfl⟩ := insertAdminUser_cases executed
        exact ⟨fun _ => rfl, fun _ => rfl, fun _ => rfl, fun _ => rfl, fun other => absurd rfl other⟩
    | insertRouteTarget routeId providerId model priority weight =>
        simp only [Statement.execute] at executed
        split at executed
        · cases executed
          exact ⟨fun _ => rfl, fun _ => rfl, fun _ => rfl, fun _ => rfl, fun _ => rfl⟩
        · cases executed
    | selectRouteKey routeId =>
        simp only [Statement.execute] at executed
        split at executed
        · cases executed
          exact .same
        · cases executed
    | _ =>
        cases executed
        exact .same

/-! ### Whatever the answers -/

section Within

variable {crates : DashboardCrates} {statement : Statement} {allowed : Statement → Prop}
  {wanted : Option Response → Prop}

/-- A statement that is allowed, and whatever follows each of its answers. -/
theorem ask_within {next : statement.Answer → Handler} (permitted : allowed statement)
    (rest : ∀ answer, (next answer).Within allowed wanted) :
    (Program.ask statement next : Handler).Within allowed wanted :=
  ⟨permitted, rest⟩

/-- A listing keeps to one statement, and answers with an error, a panic or what it lists. -/
theorem list_within {α : Type} (permitted : allowed statement)
    (fails : ∀ text, wanted (some (failedAnswer text))) (panics : wanted none)
    (convert : statement.Rows → Option α) {data : α → Data}
    (shows : ∀ listed, wanted (some (shownAnswer (data listed)))) :
    (list crates statement convert data).Within allowed wanted := by
  apply ask_within permitted
  intro answer
  cases answer with
  | error error => exact fails _
  | ok rows =>
      dsimp only
      cases convert rows with
      | none => exact panics
      | some listed => exact shows listed

/-- A look at one row keeps to one statement, and answers with an error, a panic or the row. -/
theorem fetchOptional_within {Row α : Type} (permitted : allowed statement)
    (fails : ∀ text, wanted (some (failedAnswer text))) (panics : wanted none)
    (rows : statement.Rows → Option Row) (convert : Row → Option α) {data : α → Data}
    (shows : ∀ shown, wanted (some (shownAnswer (data shown)))) (missing : String) :
    (fetchOptional crates statement rows convert data missing).Within allowed wanted := by
  apply ask_within permitted
  intro answer
  cases answer with
  | error error => exact fails _
  | ok found =>
      dsimp only
      cases rows found with
      | none => exact fails _
      | some row =>
          dsimp only
          cases convert row with
          | none => exact panics
          | some shown => exact shows shown

/-- So does a creation, which answers with an error or a text. -/
theorem create_within (permitted : allowed statement)
    (fails : ∀ text, wanted (some (failedAnswer text)))
    (shows : ∀ text, wanted (some (shownAnswer (.text text)))) (created : String) :
    (create crates statement created).Within allowed wanted := by
  apply ask_within permitted
  intro answer
  cases answer with
  | error error => exact fails _
  | ok rows => exact shows _

/-- And so does a change or a deletion. -/
theorem affect_within (permitted : allowed statement)
    (fails : ∀ text, wanted (some (failedAnswer text)))
    (shows : ∀ text, wanted (some (shownAnswer (.text text))))
    (affected : statement.Rows → Nat) (done missing : String) :
    (affect crates statement affected done missing).Within allowed wanted := by
  apply ask_within permitted
  intro answer
  cases answer with
  | error error => exact fails _
  | ok rows =>
      dsimp only
      split
      · exact shows _
      · exact fails _

/-- What follows a profile that could be written, or the error that it could not. -/
theorem withProfile_within {provider : ProviderConfig} {next : String → Handler}
    (fails : ∀ text, wanted (some (failedAnswer text)))
    (rest : ∀ profile, crates.profileToJson provider.capabilityProfile = .ok profile →
      (next profile).Within allowed wanted) :
    (withProfile crates provider next).Within allowed wanted := by
  unfold withProfile
  cases serialized : crates.profileToJson provider.capabilityProfile with
  | error error => exact fails _
  | ok profile => exact rest profile serialized

/-- A statement of the start, whose error ends it. -/
theorem attempt_within {failed : String} {next : statement.Rows → Startup}
    (permitted : allowed statement) (rest : ∀ rows, (next rows).Within allowed fun _ => True) :
    (attempt crates statement failed next).Within allowed fun _ => True := by
  refine ⟨permitted, ?_⟩
  intro answer
  cases answer with
  | ok rows => exact rest rows
  | error error => trivial

/-- A part of the start that is left out where there are rows already. -/
theorem ifNone_within {failed : String} {found : statement.Rows → Bool} {next : Startup}
    (permitted : allowed statement) (rest : next.Within allowed fun _ => True) :
    (ifNone crates statement found failed next).Within allowed fun _ => True := by
  apply attempt_within permitted
  intro rows
  by_cases any : found rows = true
  · simp only [any, if_true]
    trivial
  · simp only [any]
    exact rest

end Within

/-! ### Alone and without an error -/

section Alone

variable {crates : DashboardCrates} {statement : Statement} {now : String}
  {database after : Database} {rows : statement.Rows}

/-- Where nobody else comes in between, a statement that succeeds is followed by the rest of the
handler, on the database that it leaves. -/
theorem alone_ok (executed : statement.execute now database = .ok (rows, after))
    (next : statement.Answer → Handler) :
    (Program.ask statement next : Handler).alone Database.serve { now := now } database =
      (next (.ok rows)).alone Database.serve { now := now } after := by
  have served : Database.serve { now := now } statement database = (.ok rows, after) := by
    simp only [Database.serve, executed]
  simp only [Program.alone, served]

/-- What a creation comes to alone, if its statement succeeds. -/
theorem create_alone (executed : statement.execute now database = .ok (rows, after))
    (created : String) :
    (create crates statement created).alone Database.serve { now := now } database =
      (some (shownAnswer (.text created)), after) :=
  alone_ok executed _

/-- If it fails, the database stays as it is. -/
theorem create_refused {error : SqlError} (executed : statement.execute now database = .error error)
    (created : String) :
    (create crates statement created).alone Database.serve { now := now } database =
      (some (failedAnswer s!"Database error: {crates.describe error}"), database) := by
  have served : Database.serve { now := now } statement database = (.error error, database) := by
    simp only [Database.serve, executed]
  simp only [create, Program.alone, served]
  rfl

/-- A change comes to a success exactly if it affects a row. -/
theorem affect_alone (executed : statement.execute now database = .ok (rows, after))
    (affected : statement.Rows → Nat) (done missing : String) :
    (affect crates statement affected done missing).alone Database.serve { now := now } database =
      (some (if 0 < affected rows then shownAnswer (.text done) else failedAnswer missing), after) := by
  unfold affect
  rw [alone_ok executed]
  dsimp only
  split
  · rfl
  · rfl

/-- A look at a row alone leaves the database as its statement does, and shows the row if there is
one. -/
theorem fetchOptional_alone {Row Record : Type}
    (executed : statement.execute now database = .ok (rows, after))
    {found : statement.Rows → Option Row} {convert : Row → Option Record} {shown : Row → Record}
    (converts : ∀ row, found rows = some row → convert row = some (shown row))
    (data : Record → Data) (missing : String) :
    (fetchOptional crates statement found convert data missing).alone Database.serve
        { now := now } database =
      (some (match (found rows).map shown with
        | some record => shownAnswer (data record)
        | none => failedAnswer missing), after) := by
  unfold fetchOptional
  rw [alone_ok executed]
  dsimp only
  cases isFound : found rows with
  | none => rfl
  | some row =>
      dsimp only
      rw [converts row isFound]
      rfl

/-- So does a listing. -/
theorem list_alone {Record : Type} (executed : statement.execute now database = .ok (rows, after))
    {convert : statement.Rows → Option Record} {listed : Record}
    (converts : convert rows = some listed) (data : Record → Data) :
    (list crates statement convert data).alone Database.serve { now := now } database =
      (some (shownAnswer (data listed)), after) := by
  unfold list
  rw [alone_ok executed]
  dsimp only
  rw [converts]
  rfl

end Alone

end ClaudeProxy.Dashboard
