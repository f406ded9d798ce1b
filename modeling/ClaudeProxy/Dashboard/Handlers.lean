/-
Module: ClaudeProxy.Dashboard.Handlers
Layer: Model
Purpose: The handlers of `src/dashboard.rs`: each is a program of SQL statements that ends with the
  response it sends, or with none when it panics. `health_check` is on no route and is not here.
Trusted boundary: human-reviewed model
Main exports: DashboardCrates, DashboardState, Data, ApiResponse, Response, Handler, loginHandler,
  logoutHandler, dashboardIndex, updateConfig, revertVersion, authMiddleware
-/
import ClaudeProxy.Config
import ClaudeProxy.Dashboard.Store
import ClaudeProxy.Library.Service

namespace ClaudeProxy.Dashboard

open Library

/-! ### Requests and responses -/

inductive Method where
  | get
  | head
  | post
  | put
  | delete
  | other (name : String)
deriving DecidableEq, Repr, Inhabited

/-- The body with the content type that `axum::Json` looks at. -/
structure RequestBody where
  contentType : Option String := none
  bytes : List UInt8 := []
deriving DecidableEq, Repr, Inhabited

/-- The path is split at its slashes and still percent-encoded; the cookies are those that
`CookieManagerLayer` reads off the request's headers. -/
structure HttpRequest where
  method : Method
  path : List String
  cookies : List (String × String) := []
  body : RequestBody := {}
deriving DecidableEq, Repr, Inhabited

/-- `Cookies::get`: a later cookie replaces an earlier one of its name. -/
def HttpRequest.cookie (request : HttpRequest) (name : String) : Option String :=
  request.cookies.reverse.lookup name

structure ConfigVersion where
  id : Nat
  version : Int32
  configData : String
  createdAt : String
  createdBy : String
  isCurrent : Bool
deriving DecidableEq, Repr, Inhabited

structure DbRoute where
  id : String
  models : List String
deriving DecidableEq, Repr, Inhabited

structure DbClient where
  id : String
  allowedRoutes : List String
  requestsPerMinute : Nat
  concurrentRequests : Nat
deriving DecidableEq, Repr, Inhabited

structure DbProvider where
  id : String
  kind : String
  endpoint : String
  capabilityProfile : String
  allowInsecureHttp : Bool
deriving DecidableEq, Repr, Inhabited

/-- What an `ApiResponse` is generic in. -/
inductive Data where
  | text (text : String)
  | configVersion (version : ConfigVersion)
  | configVersions (versions : List ConfigVersion)
  | client (client : DbClient)
  | clients (clients : List DbClient)
  | provider (provider : DbProvider)
  | providers (providers : List DbProvider)
  | route (route : DbRoute)
  | routes (routes : List DbRoute)
deriving DecidableEq, Repr, Inhabited

/-- How many rows of the configuration tables it holds. -/
def Data.rowCount : Data → Nat
  | .text _ => 0
  | .configVersion _ | .client _ | .provider _ | .route _ => 1
  | .configVersions rows => rows.length
  | .clients rows => rows.length
  | .providers rows => rows.length
  | .routes rows => rows.length

structure ApiResponse where
  success : Bool
  data : Option Data
  error : Option String
deriving DecidableEq, Repr, Inhabited

inductive Body where
  | empty
  | text (text : String)
  | bytes (bytes : List UInt8)
  /-- `templates/login.html` -/
  | loginTemplate
  /-- `templates/index.html` -/
  | indexTemplate
  | api (response : ApiResponse)
deriving DecidableEq, Repr, Inhabited

/-- A `Set-Cookie` header. -/
inductive SetCookie where
  | add (name value path : String) (httpOnly : Bool)
  | remove (name path : String)
deriving DecidableEq, Repr, Inhabited

structure Response where
  status : Nat := 200
  location : Option String := none
  setCookies : List SetCookie := []
  body : Body := .empty
deriving DecidableEq, Repr, Inhabited

namespace Response

def redirect (location : String) : Response := { status := 303, location := some location }

/-- How many rows of the configuration tables it returns. -/
def rowCount (response : Response) : Nat :=
  match response.body with
  | .api answer => (answer.data.map Data.rowCount).getD 0
  | _ => 0

end Response

/-- A handler at work; it ends with no response when it panics. -/
abbrev Handler := Program Statement Statement.Answer (Option Response)

namespace Handler

def respond (response : Response) : Handler := .done (some response)

def panic : Handler := .done none

/-- `ApiResponse::success`. -/
def success (data : Data) : Handler :=
  respond { body := .api { success := true, data := some data, error := none } }

/-- `ApiResponse::error`. -/
def failure (error : String) : Handler :=
  respond { body := .api { success := false, data := none, error := some error } }

end Handler

open Handler

/-- What an extractor turns a request away with. -/
structure Rejection where
  status : Nat
  text : String
deriving DecidableEq, Repr, Inhabited

def Rejection.response (rejection : Rejection) : Response :=
  { status := rejection.status, body := .text rejection.text }

structure LoginRequest where
  username : String
  password : String
deriving DecidableEq, Repr, Inhabited

/-- The entry points of the crates that the dashboard calls. -/
structure DashboardCrates where
  crates : Crates
  environment : Environment
  /-- `axum::Json` at the types the handlers take. -/
  jsonLogin : RequestBody → Except Rejection LoginRequest
  jsonValue : RequestBody → Except Rejection Value
  jsonClient : RequestBody → Except Rejection ClientConfig
  jsonProvider : RequestBody → Except Rejection ProviderConfig
  jsonRoute : RequestBody → Except Rejection RouteConfig
  /-- `serde_json::from_value`, with the text of its error. -/
  configFromValue : Value → Except String AppConfig
  /-- `serde_yaml::to_string`, with the text of its error. -/
  configToYaml : AppConfig → Except String String
  /-- `serde_json::to_string`, with the text of its error. -/
  profileToJson : CapabilityProfile → Except String String
  /-- `Argon2::hash_password`, with a salt. -/
  hashPassword : String → String → Except String String
  /-- `PasswordHash::new` and `Argon2::verify_password` succeed on a stored hash and a password. -/
  verifyPassword : String → String → Bool
  /-- The text of an `sqlx::Error`. -/
  describe : SqlError → String
  /-- A path segment, percent-decoded, unless that is not UTF-8. -/
  percentDecode : String → Option String
  /-- `ServeDir::new("static")` on the rest of a path: a status and the bytes of a file. -/
  serveDir : List String → Nat × List UInt8

structure DashboardState where
  adminSecret : String
deriving DecidableEq, Repr, Inhabited

variable (crates : DashboardCrates)

def databaseError (error : SqlError) : Handler :=
  failure s!"Database error: {crates.describe error}"

/-! ### Rows -/

def splitCommaSeparated (value : String) : List String :=
  ((value.toList.splitOn ',').map fun piece => trim (String.ofList piece)).filter fun item =>
    item != ""

def rowToConfigVersion (row : ConfigVersionRow) : ConfigVersion :=
  { id := row.id, version := row.version, configData := row.configData, createdAt := row.createdAt
    createdBy := row.createdBy, isCurrent := row.isCurrent }

def rowToRoute (row : RouteRow) : DbRoute :=
  { id := row.routeId, models := splitCommaSeparated row.models }

/-- `Row::get` panics on an integer that is no `u32`. -/
def getU32 (column : Nat) : Option Nat :=
  if column < 2 ^ 32 then some column else none

def rowToClient (row : ClientRow) : Option DbClient := do
  let requestsPerMinute ← getU32 row.requestsPerMinute
  let concurrentRequests ← getU32 row.concurrentRequests
  pure { id := row.clientId, allowedRoutes := splitCommaSeparated row.allowedRoutes
         requestsPerMinute := requestsPerMinute, concurrentRequests := concurrentRequests }

def rowToProvider (row : ProviderRow) : DbProvider :=
  { id := row.providerId, kind := row.kind, endpoint := row.endpoint
    capabilityProfile := row.capabilityProfile, allowInsecureHttp := row.allowInsecureHttp }

/-! ### Shapes of handlers -/

/-- Answers with the rows of a statement. -/
def list {α : Type} (statement : Statement) (convert : statement.Rows → Option α)
    (data : α → Data) : Handler :=
  .ask statement fun
    | .ok rows =>
        match convert rows with
        | some listed => success (data listed)
        | none => panic
    | .error error => databaseError crates error

/-- Answers with the one row of a statement, if there is one. -/
def fetchOptional {Row α : Type} (statement : Statement) (rows : statement.Rows → Option Row)
    (convert : Row → Option α) (data : α → Data) (missing : String) : Handler :=
  .ask statement fun
    | .ok found =>
        match rows found with
        | some row =>
            match convert row with
            | some shown => success (data shown)
            | none => panic
        | none => failure missing
    | .error error => databaseError crates error

/-- Runs an `INSERT`. -/
def create (statement : Statement) (created : String) : Handler :=
  .ask statement fun
    | .ok _ => success (.text created)
    | .error error => databaseError crates error

/-- Runs an `UPDATE` or a `DELETE`, which affects a number of rows. -/
def affect (statement : Statement) (affected : statement.Rows → Nat) (done missing : String) :
    Handler :=
  .ask statement fun
    | .ok result => if 0 < affected result then success (.text done) else failure missing
    | .error error => databaseError crates error

/-! ### Login -/

def login : Handler :=
  respond { Response.redirect "/dashboard" with
    setCookies := [.add "auth_token" "authenticated" "/" true] }

def loginHandler (state : DashboardState) (payload : LoginRequest) : Handler :=
  if payload.username = "" ∨ payload.password = "" then
    failure "Username and password are required"
  else if payload.username = "admin" ∧ payload.password = state.adminSecret then login
  else
    .ask (.selectAdminUser payload.username) fun
      | .ok (some user) =>
          if crates.verifyPassword user.passwordHash payload.password then login
          else failure "Invalid credentials"
      | .ok none => failure "Invalid credentials"
      | .error error => databaseError crates error

/-- The removal is sent only when the request came with the cookie. -/
def logoutHandler (request : HttpRequest) : Handler :=
  respond { Response.redirect "/dashboard/login" with
    setCookies :=
      if (request.cookie "auth_token").isSome then [.remove "auth_token" "/"] else [] }

def loginPage : Handler := respond { body := .loginTemplate }

def dashboardIndex (request : HttpRequest) : Handler :=
  if request.cookie "auth_token" = some "authenticated" then respond { body := .indexTemplate }
  else respond (.redirect "/dashboard/login")

/-- `starts_with("/dashboard/login")` or `starts_with("/static/")`. -/
def skipsAuth : List String → Bool
  | "dashboard" :: page :: _ => (stripPrefix "login" page).isSome
  | "static" :: _ :: _ => true
  | _ => false

/-- The layer that would turn requests without the cookie away. No route has it. -/
def authMiddleware (next : HttpRequest → Handler) (request : HttpRequest) : Handler :=
  if skipsAuth request.path = true ∨ request.cookie "auth_token" = some "authenticated" then
    next request
  else respond (.redirect "/dashboard/login")

/-! ### Configuration versions -/

def getConfig : Handler :=
  fetchOptional crates .selectLatestConfig (fun row => row)
    (fun row => some (rowToConfigVersion row)) .configVersion "No configuration found"

/-- The statements that `update_config` and `revert_version` share: the next version number and the
row under it. A failure to read the number counts as zero; the sum wraps as in a release build. -/
def insertNextVersion (configData : String) (message : Int32 → String) : Handler :=
  .ask .selectMaxVersion fun current =>
    let newVersion : Int32 := (match current with | .ok version => version | .error _ => 0) + 1
    .ask (.insertConfigVersion newVersion configData "admin") fun
      | .ok _ => success (.text (message newVersion))
      | .error error => databaseError crates error

def updateConfig (payload : Value) : Handler :=
  match AppConfig.loadFromValue crates.crates crates.environment crates.configFromValue payload with
  | .ok config =>
      match crates.configToYaml config with
      | .ok configData =>
          insertNextVersion crates configData fun version =>
            s!"Configuration updated to version {version}"
      | .error error => failure s!"Invalid configuration: {error}"
  | .error error => failure s!"Invalid configuration: {error.message}"

def listVersions : Handler :=
  list crates .selectConfigVersions (fun rows => some (rows.map rowToConfigVersion)) .configVersions

def getVersion (version : Int32) : Handler :=
  fetchOptional crates (.selectConfigVersion version) (fun row => row)
    (fun row => some (rowToConfigVersion row)) .configVersion "Version not found"

def revertVersion (version : Int32) : Handler :=
  .ask (.selectConfigData version) fun
    | .ok (some configData) =>
        insertNextVersion crates configData fun newVersion =>
          s!"Reverted to version {version} as version {newVersion}"
    | .ok none => failure "Version not found"
    | .error error => databaseError crates error

/-! ### Clients -/

def listClients : Handler :=
  list crates .selectClients (fun rows => rows.mapM rowToClient) .clients

def createClient (client : ClientConfig) : Handler :=
  create crates
    (.insertClient
      { clientId := client.id, allowedRoutes := String.intercalate "," client.allowedRoutes
        requestsPerMinute := client.requestsPerMinute
        concurrentRequests := client.concurrentRequests })
    "Client created successfully"

def getClient (id : String) : Handler :=
  fetchOptional crates (.selectClient id) (fun row => row) rowToClient .client "Client not found"

def updateClient (id : String) (client : ClientConfig) : Handler :=
  affect crates
    (.updateClient id (String.intercalate "," client.allowedRoutes) client.requestsPerMinute
      client.concurrentRequests)
    (fun affected => affected) "Client updated successfully" "Client not found"

def deleteClient (id : String) : Handler :=
  affect crates (.deleteClient id) (fun affected => affected) "Client deleted successfully"
    "Client not found"

/-! ### Providers -/

def listProviders : Handler :=
  list crates .selectProviders (fun rows => some (rows.map rowToProvider)) .providers

/-- The profile as the providers table has it, unless it does not serialize. -/
def withProfile (provider : ProviderConfig) (next : String → Handler) : Handler :=
  match crates.profileToJson provider.capabilityProfile with
  | .ok profile => next profile
  | .error error => failure s!"Invalid capability profile: {error}"

def createProvider (provider : ProviderConfig) : Handler :=
  withProfile crates provider fun capabilityProfile =>
    create crates
      (.insertProvider
        { providerId := provider.id, kind := provider.kind.display, endpoint := provider.endpoint
          capabilityProfile := capabilityProfile
          allowInsecureHttp := provider.allowInsecureHttp })
      "Provider created successfully"

def getProvider (id : String) : Handler :=
  fetchOptional crates (.selectProvider id) (fun row => row) (fun row => some (rowToProvider row))
    .provider "Provider not found"

def updateProvider (id : String) (provider : ProviderConfig) : Handler :=
  withProfile crates provider fun capabilityProfile =>
    affect crates
      (.updateProvider id provider.kind.display provider.endpoint capabilityProfile
        provider.allowInsecureHttp)
      (fun affected => affected) "Provider updated successfully" "Provider not found"

def deleteProvider (id : String) : Handler :=
  affect crates (.deleteProvider id) (fun affected => affected) "Provider deleted successfully"
    "Provider not found"

/-! ### Routes -/

def listRoutes : Handler :=
  list crates .selectRoutes (fun rows => some (rows.map rowToRoute)) .routes

def createRoute (route : RouteConfig) : Handler :=
  create crates (.insertRoute route.id (String.intercalate "," route.models))
    "Route created successfully"

def getRoute (id : String) : Handler :=
  fetchOptional crates (.selectRoute id) (fun row => row) (fun row => some (rowToRoute row)) .route
    "Route not found"

def updateRoute (id : String) (route : RouteConfig) : Handler :=
  affect crates (.updateRoute id (String.intercalate "," route.models)) (fun affected => affected)
    "Route updated successfully" "Route not found"

def deleteRoute (id : String) : Handler :=
  affect crates (.deleteRoute id) (fun affected => affected) "Route deleted successfully"
    "Route not found"

end ClaudeProxy.Dashboard
