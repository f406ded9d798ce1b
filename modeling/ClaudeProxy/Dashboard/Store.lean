/-
Module: ClaudeProxy.Dashboard.Store
Layer: Model
Purpose: The dashboard's database (`migrations/`) and the SQL statements of `src/dashboard.rs`, each
  with what it does to the tables and the rows it answers with. A statement is atomic. SQLite checks
  NOT NULL before UNIQUE, an AUTOINCREMENT id is one more than any id the table has held, and a
  statement that fails leaves the tables as they are.
Trusted boundary: human-reviewed model
Main exports: Table, Database, Database.migrated, SqlError, Statement, Statement.Rows,
  Statement.execute, Served, Database.serve
-/
import ClaudeProxy.Json
import Mathlib.Data.List.Sort

namespace ClaudeProxy.Dashboard

/-! ### Tables -/

/-- The rows in the order of their insertion, and the largest id ever given out. -/
structure Table (Row : Type) where
  rows : List Row := []
  sequence : Nat := 0
deriving Repr, Inhabited

namespace Table

variable {Row : Type}

/-- A row is made from its id. -/
def insert (table : Table Row) (row : Nat → Row) : Table Row :=
  { rows := table.rows ++ [row (table.sequence + 1)], sequence := table.sequence + 1 }

/-- `UPDATE`, and the number of rows affected. -/
def update (table : Table Row) (chosen : Row → Bool) (change : Row → Row) : Nat × Table Row :=
  ((table.rows.filter chosen).length,
    { table with rows := table.rows.map fun row => if chosen row then change row else row })

/-- `DELETE`, and the number of rows affected. -/
def delete (table : Table Row) (chosen : Row → Bool) : Nat × Table Row :=
  ((table.rows.filter chosen).length,
    { table with rows := table.rows.filter fun row => !chosen row })

end Table

structure ConfigVersionRow where
  id : Nat
  version : Int32
  configData : String
  createdAt : String
  createdBy : String
  isCurrent : Bool := false
deriving DecidableEq, Repr, Inhabited

structure ClientRow where
  id : Nat
  clientId : String
  keyHash : String
  keySalt : String
  allowedRoutes : String
  requestsPerMinute : Nat
  concurrentRequests : Nat
  createdAt : String
  updatedAt : String
deriving DecidableEq, Repr, Inhabited

structure ProviderRow where
  id : Nat
  providerId : String
  kind : String
  endpoint : String
  credentialType : String
  credentialSecretRef : String
  headers : String
  capabilityProfile : String
  allowInsecureHttp : Bool
  createdAt : String
  updatedAt : String
deriving DecidableEq, Repr, Inhabited

structure RouteRow where
  id : Nat
  routeId : String
  models : String
  createdAt : String
  updatedAt : String
deriving DecidableEq, Repr, Inhabited

structure RouteTargetRow where
  id : Nat
  routeId : Nat
  providerId : String
  model : String
  priority : Nat
  weight : Nat
deriving DecidableEq, Repr, Inhabited

structure AdminUserRow where
  id : Nat
  username : String
  passwordHash : String
  createdAt : String
  updatedAt : String
deriving DecidableEq, Repr, Inhabited

structure Database where
  configVersions : Table ConfigVersionRow := {}
  clients : Table ClientRow := {}
  providers : Table ProviderRow := {}
  routes : Table RouteRow := {}
  routeTargets : Table RouteTargetRow := {}
  adminUsers : Table AdminUserRow := {}
deriving Repr, Inhabited

/-- An empty file after the migrations, which insert an administrator of their own. -/
def Database.migrated (now : String) : Database :=
  { adminUsers := ({} : Table AdminUserRow).insert fun id =>
      { id := id, username := "admin"
        passwordHash := "$argon2id$v=19$m=65536,t=3,p=4$example_salt$example_hash"
        createdAt := now, updatedAt := now } }

/-! ### Statements -/

inductive SqlError where
  /-- What the file system, SQLite or the connection pool reports. -/
  | io (text : String)
  | rowNotFound
  | notNull (column : String)
  | unique (column : String)
  | foreignKey
deriving DecidableEq, Repr, Inhabited

/-- The columns an `INSERT` into `clients` gives; one it leaves out is NULL. -/
structure ClientInsert where
  clientId : String
  keyHash : Option String := none
  keySalt : Option String := none
  allowedRoutes : String
  requestsPerMinute : Nat
  concurrentRequests : Nat

/-- The columns an `INSERT` into `providers` gives; one it leaves out is NULL. -/
structure ProviderInsert where
  providerId : String
  kind : String
  endpoint : String
  credentialType : Option String := none
  credentialSecretRef : Option String := none
  headers : Option String := none
  capabilityProfile : String
  allowInsecureHttp : Bool

/-- A statement with its bound values. -/
inductive Statement where
  /-- `SELECT .. FROM config_versions ORDER BY version DESC LIMIT 1` -/
  | selectLatestConfig
  /-- `SELECT .. FROM config_versions ORDER BY version DESC` -/
  | selectConfigVersions
  /-- `SELECT .. FROM config_versions WHERE version = ?` -/
  | selectConfigVersion (version : Int32)
  /-- `SELECT config_data FROM config_versions WHERE version = ?` -/
  | selectConfigData (version : Int32)
  /-- `SELECT COALESCE(MAX(version), 0) as version FROM config_versions` -/
  | selectMaxVersion
  /-- `SELECT 1 FROM config_versions LIMIT 1` -/
  | configExists
  /-- `INSERT INTO config_versions (version, config_data, created_by) VALUES (..)` -/
  | insertConfigVersion (version : Int32) (configData createdBy : String)
  | selectClients
  | selectClient (clientId : String)
  | clientExists
  | insertClient (client : ClientInsert)
  | updateClient (clientId allowedRoutes : String) (requestsPerMinute concurrentRequests : Nat)
  | deleteClient (clientId : String)
  | selectProviders
  | selectProvider (providerId : String)
  | providerExists
  | insertProvider (provider : ProviderInsert)
  | updateProvider (providerId kind endpoint capabilityProfile : String) (allowInsecureHttp : Bool)
  | deleteProvider (providerId : String)
  | selectRoutes
  | selectRoute (routeId : String)
  | routeExists
  /-- `SELECT id FROM routes WHERE route_id = ?` -/
  | selectRouteKey (routeId : String)
  | insertRoute (routeId models : String)
  | updateRoute (routeId models : String)
  | deleteRoute (routeId : String)
  | insertRouteTarget (routeId : Nat) (providerId model : String) (priority weight : Nat)
  /-- `SELECT id, username, password_hash FROM admin_users WHERE username = ?` -/
  | selectAdminUser (username : String)
  | insertAdminUser (username passwordHash : String)

/-- What a statement answers with: rows, whether there are any, or the number of rows affected. -/
def Statement.Rows : Statement → Type
  | .selectLatestConfig | .selectConfigVersion _ => Option ConfigVersionRow
  | .selectConfigVersions => List ConfigVersionRow
  | .selectConfigData _ => Option String
  | .selectMaxVersion => Int32
  | .selectClients => List ClientRow
  | .selectClient _ => Option ClientRow
  | .selectProviders => List ProviderRow
  | .selectProvider _ => Option ProviderRow
  | .selectRoutes => List RouteRow
  | .selectRoute _ => Option RouteRow
  | .selectRouteKey _ => Nat
  | .selectAdminUser _ => Option AdminUserRow
  | .configExists | .clientExists | .providerExists | .routeExists => Bool
  | .insertConfigVersion .. | .insertClient _ | .insertProvider _ | .insertRoute ..
  | .insertRouteTarget .. | .insertAdminUser .. => Unit
  | .updateClient .. | .updateProvider .. | .updateRoute .. => Nat
  | .deleteClient _ | .deleteProvider _ | .deleteRoute _ => Nat

/-- The rows in the order of `ORDER BY version DESC`. -/
def newestFirst (rows : List ConfigVersionRow) : List ConfigVersionRow :=
  rows.insertionSort fun first second => second.version ≤ first.version

/-- `COALESCE(MAX(version), 0)`. -/
def maxVersion (rows : List ConfigVersionRow) : Int32 :=
  (rows.map (·.version)).max?.getD 0

def notNull {α : Type} (column : String) : Option α → Except SqlError α
  | some value => .ok value
  | none => .error (.notNull column)

def refuse (condition : Bool) (error : SqlError) : Except SqlError Unit :=
  if condition then .error error else .ok ()

def Database.insertClient (database : Database) (now : String) (client : ClientInsert) :
    Except SqlError Database := do
  let keyHash ← notNull "clients.key_hash" client.keyHash
  let keySalt ← notNull "clients.key_salt" client.keySalt
  refuse (database.clients.rows.any (·.clientId == client.clientId)) (.unique "clients.client_id")
  pure { database with
    clients := database.clients.insert fun id =>
      { id := id, clientId := client.clientId, keyHash := keyHash, keySalt := keySalt
        allowedRoutes := client.allowedRoutes, requestsPerMinute := client.requestsPerMinute
        concurrentRequests := client.concurrentRequests, createdAt := now, updatedAt := now } }

def Database.insertProvider (database : Database) (now : String) (provider : ProviderInsert) :
    Except SqlError Database := do
  let credentialType ← notNull "providers.credential_type" provider.credentialType
  let credentialSecretRef ←
    notNull "providers.credential_secret_ref" provider.credentialSecretRef
  let headers ← notNull "providers.headers" provider.headers
  refuse (database.providers.rows.any (·.providerId == provider.providerId))
    (.unique "providers.provider_id")
  pure { database with
    providers := database.providers.insert fun id =>
      { id := id, providerId := provider.providerId, kind := provider.kind
        endpoint := provider.endpoint, credentialType := credentialType
        credentialSecretRef := credentialSecretRef, headers := headers
        capabilityProfile := provider.capabilityProfile
        allowInsecureHttp := provider.allowInsecureHttp, createdAt := now, updatedAt := now } }

def Database.insertRoute (database : Database) (now routeId models : String) :
    Except SqlError Database := do
  refuse (database.routes.rows.any (·.routeId == routeId)) (.unique "routes.route_id")
  pure { database with
    routes := database.routes.insert fun id =>
      { id := id, routeId := routeId, models := models, createdAt := now, updatedAt := now } }

def Database.insertAdminUser (database : Database) (now username passwordHash : String) :
    Except SqlError Database := do
  refuse (database.adminUsers.rows.any (·.username == username)) (.unique "admin_users.username")
  pure { database with
    adminUsers := database.adminUsers.insert fun id =>
      { id := id, username := username, passwordHash := passwordHash
        createdAt := now, updatedAt := now } }

/-- The targets of a deleted route go with it. -/
def Database.deleteRoute (database : Database) (routeId : String) : Nat × Database :=
  let keys := (database.routes.rows.filter (·.routeId == routeId)).map (·.id)
  let (affected, routes) := database.routes.delete (·.routeId == routeId)
  (affected, { database with
    routes := routes
    routeTargets := (database.routeTargets.delete fun target => keys.contains target.routeId).2 })

/-- What a statement does when nothing but a constraint stops it; `now` is the clock of the
columns with `DEFAULT (datetime('now'))`. -/
def Statement.execute (now : String) (database : Database) :
    (statement : Statement) → Except SqlError (statement.Rows × Database)
  | .selectLatestConfig => .ok ((newestFirst database.configVersions.rows).head?, database)
  | .selectConfigVersions => .ok (newestFirst database.configVersions.rows, database)
  | .selectConfigVersion version =>
      .ok (database.configVersions.rows.find? (·.version == version), database)
  | .selectConfigData version =>
      .ok ((database.configVersions.rows.find? (·.version == version)).map (·.configData), database)
  | .selectMaxVersion => .ok (maxVersion database.configVersions.rows, database)
  | .configExists => .ok (!database.configVersions.rows.isEmpty, database)
  | .insertConfigVersion version configData createdBy =>
      .ok ((), { database with
        configVersions := database.configVersions.insert fun id =>
          { id := id, version := version, configData := configData, createdAt := now
            createdBy := createdBy } })
  | .selectClients => .ok (database.clients.rows, database)
  | .selectClient clientId =>
      .ok (database.clients.rows.find? (·.clientId == clientId), database)
  | .clientExists => .ok (!database.clients.rows.isEmpty, database)
  | .insertClient client => (database.insertClient now client).map fun after => ((), after)
  | .updateClient clientId allowedRoutes requestsPerMinute concurrentRequests =>
      let (affected, clients) := database.clients.update (·.clientId == clientId) fun row =>
        { row with
          allowedRoutes := allowedRoutes
          requestsPerMinute := requestsPerMinute
          concurrentRequests := concurrentRequests }
      .ok (affected, { database with clients := clients })
  | .deleteClient clientId =>
      let (affected, clients) := database.clients.delete (·.clientId == clientId)
      .ok (affected, { database with clients := clients })
  | .selectProviders => .ok (database.providers.rows, database)
  | .selectProvider providerId =>
      .ok (database.providers.rows.find? (·.providerId == providerId), database)
  | .providerExists => .ok (!database.providers.rows.isEmpty, database)
  | .insertProvider provider => (database.insertProvider now provider).map fun after => ((), after)
  | .updateProvider providerId kind endpoint capabilityProfile allowInsecureHttp =>
      let (affected, providers) := database.providers.update (·.providerId == providerId) fun row =>
        { row with
          kind := kind
          endpoint := endpoint
          capabilityProfile := capabilityProfile
          allowInsecureHttp := allowInsecureHttp }
      .ok (affected, { database with providers := providers })
  | .deleteProvider providerId =>
      let (affected, providers) := database.providers.delete (·.providerId == providerId)
      .ok (affected, { database with providers := providers })
  | .selectRoutes => .ok (database.routes.rows, database)
  | .selectRoute routeId =>
      .ok (database.routes.rows.find? (·.routeId == routeId), database)
  | .routeExists => .ok (!database.routes.rows.isEmpty, database)
  | .selectRouteKey routeId =>
      -- `fetch_one`, which wants a row
      match database.routes.rows.find? (·.routeId == routeId) with
      | some row => .ok (row.id, database)
      | none => .error .rowNotFound
  | .insertRoute routeId models =>
      (database.insertRoute now routeId models).map fun after => ((), after)
  | .updateRoute routeId models =>
      let (affected, routes) := database.routes.update (·.routeId == routeId) fun row =>
        { row with models := models }
      .ok (affected, { database with routes := routes })
  | .deleteRoute routeId => .ok (database.deleteRoute routeId)
  | .insertRouteTarget routeId providerId model priority weight =>
      if database.routes.rows.any (·.id == routeId) then
        .ok ((), { database with
          routeTargets := database.routeTargets.insert fun id =>
            { id := id, routeId := routeId, providerId := providerId, model := model
              priority := priority, weight := weight } })
      else .error .foreignKey
  | .selectAdminUser username =>
      .ok (database.adminUsers.rows.find? (·.username == username), database)
  | .insertAdminUser username passwordHash =>
      (database.insertAdminUser now username passwordHash).map fun after => ((), after)

/-- What is not the program's to say about one statement: an error that keeps it from running, and
the clock. -/
structure Served where
  fault : Option SqlError := none
  now : String
deriving DecidableEq, Repr, Inhabited

abbrev Statement.Answer (statement : Statement) : Type := Except SqlError statement.Rows

def Database.serve (served : Served) (statement : Statement) (database : Database) :
    statement.Answer × Database :=
  match served.fault with
  | some error => (.error error, database)
  | none =>
      match statement.execute served.now database with
      | .ok (rows, after) => (.ok rows, after)
      | .error error => (.error error, database)

/-- A statement did what it does, or was refused and left the tables as they are. -/
theorem Database.serve_cases (served : Served) (statement : Statement) (database : Database) :
    (∃ error, database.serve served statement = (.error error, database) ∧
      (served.fault = some error ∨
        served.fault = none ∧ statement.execute served.now database = .error error)) ∨
    ∃ rows after, database.serve served statement = (.ok rows, after) ∧
      served.fault = none ∧ statement.execute served.now database = .ok (rows, after) := by
  cases fault : served.fault with
  | some error =>
      left
      refine ⟨error, ?_, .inl rfl⟩
      simp only [serve, fault]
  | none =>
      cases executed : statement.execute served.now database with
      | error error =>
          left
          refine ⟨error, ?_, .inr ⟨rfl, rfl⟩⟩
          simp only [serve, fault, executed]
      | ok result =>
          right
          obtain ⟨rows, after⟩ := result
          refine ⟨rows, after, ?_, rfl, rfl⟩
          simp only [serve, fault, executed]

end ClaudeProxy.Dashboard
