/-
Module: ClaudeProxy.Dashboard.Routes
Layer: Model
Purpose: `build_dashboard_routes`: which paths and methods lead to which handler, with each `/:id` and
  `/:version` a parameter of the path, and the service that handles many requests at once over one
  database. The only layer on the routes is the one that reads and writes cookies.
Trusted boundary: human-reviewed model
Main exports: Endpoint, endpoint, Action, endpointAction, dispatch, actionHandler,
  handleRequest, DashboardPool, DashboardMove, DashboardPool.run
-/
import ClaudeProxy.Dashboard.Handlers

namespace ClaudeProxy.Dashboard

open Library

/-! ### Paths -/

/-- The lines of `build_dashboard_routes`. -/
inductive Endpoint where
  | dashboard
  | login
  | logout
  | config
  | clients
  | client (id : String)
  | providers
  | provider (id : String)
  | routes
  | route (id : String)
  | versions
  | version (version : String)
  | revert (version : String)
  | static (rest : List String)
deriving DecidableEq, Repr, Inhabited

/-- A parameter takes one segment that is not empty. -/
def parameter (endpoint : String → Endpoint) (segment : String) : Option Endpoint :=
  if segment = "" then none else some (endpoint segment)

def endpoint : List String → Option Endpoint
  | ["dashboard"] => some .dashboard
  | ["dashboard", "login"] => some .login
  | ["dashboard", "logout"] => some .logout
  | ["api", "config"] => some .config
  | ["api", "clients"] => some .clients
  | ["api", "clients", id] => parameter .client id
  | ["api", "providers"] => some .providers
  | ["api", "providers", id] => parameter .provider id
  | ["api", "routes"] => some .routes
  | ["api", "routes", id] => parameter .route id
  | ["api", "versions"] => some .versions
  | ["api", "versions", version] => parameter .version version
  | ["api", "versions", version, "revert"] => parameter .revert version
  | "static" :: rest => some (.static rest)
  | _ => none

/-! ### Handlers with their arguments -/

/-- A handler with what its extractors took from the request. -/
inductive Action where
  | dashboardIndex
  | loginPage
  | login (payload : LoginRequest)
  | logout
  | getConfig
  | updateConfig (payload : Value)
  | listClients
  | createClient (client : ClientConfig)
  | getClient (id : String)
  | updateClient (id : String) (client : ClientConfig)
  | deleteClient (id : String)
  | listProviders
  | createProvider (provider : ProviderConfig)
  | getProvider (id : String)
  | updateProvider (id : String) (provider : ProviderConfig)
  | deleteProvider (id : String)
  | listRoutes
  | createRoute (route : RouteConfig)
  | getRoute (id : String)
  | updateRoute (id : String) (route : RouteConfig)
  | deleteRoute (id : String)
  | listVersions
  | getVersion (version : Int32)
  | revertVersion (version : Int32)
  | serveFile (rest : List String)
deriving Inhabited

/-- The value of decimal digits, if they are some. -/
def parseDigits (digits : List Char) : Option Nat :=
  if digits = [] ∨ digits.any (fun symbol => !symbol.isDigit) = true then none
  else some (digits.foldl (fun value symbol => 10 * value + (symbol.toNat - '0'.toNat)) 0)

def parseSigned : List Char → Option Int
  | '-' :: digits => (parseDigits digits).map fun magnitude => -(magnitude : Int)
  | '+' :: digits => (parseDigits digits).map fun magnitude => (magnitude : Int)
  | digits => (parseDigits digits).map fun magnitude => (magnitude : Int)

/-- `i32::from_str`. -/
def parseI32 (text : String) : Option Int32 := do
  let value ← parseSigned text.toList
  if -2147483648 ≤ value ∧ value ≤ 2147483647 then some (Int32.ofInt value) else none

section Dispatch

variable (crates : DashboardCrates)

/-- `Path<String>`, for a named parameter. -/
def pathString (parameter segment : String) : Except Rejection String :=
  match crates.percentDecode segment with
  | some text => .ok text
  | none => .error ⟨400, "Invalid URL: Invalid UTF-8 in `" ++ parameter ++ "`"⟩

/-- `Path<i32>`, for the parameter `version`. -/
def pathI32 (segment : String) : Except Rejection Int32 := do
  let text ← pathString crates "version" segment
  match parseI32 text with
  | some version => pure version
  | none => .error ⟨400, "Invalid URL: Cannot parse `" ++ text ++ "` to a `i32`"⟩

/-- The handler of a method on a path; the extractors run in the order of its parameters. -/
def endpointAction (body : RequestBody) : Endpoint → Method → Except Rejection Action
  | .dashboard, .get => .ok .dashboardIndex
  | .login, .get => .ok .loginPage
  | .login, .post => (crates.jsonLogin body).map .login
  | .logout, .get => .ok .logout
  | .config, .get => .ok .getConfig
  | .config, .post => (crates.jsonValue body).map .updateConfig
  | .clients, .get => .ok .listClients
  | .clients, .post => (crates.jsonClient body).map .createClient
  | .client id, .get => (pathString crates "id" id).map .getClient
  | .client id, .put => do
      let id ← pathString crates "id" id
      (crates.jsonClient body).map (.updateClient id)
  | .client id, .delete => (pathString crates "id" id).map .deleteClient
  | .providers, .get => .ok .listProviders
  | .providers, .post => (crates.jsonProvider body).map .createProvider
  | .provider id, .get => (pathString crates "id" id).map .getProvider
  | .provider id, .put => do
      let id ← pathString crates "id" id
      (crates.jsonProvider body).map (.updateProvider id)
  | .provider id, .delete => (pathString crates "id" id).map .deleteProvider
  | .routes, .get => .ok .listRoutes
  | .routes, .post => (crates.jsonRoute body).map .createRoute
  | .route id, .get => (pathString crates "id" id).map .getRoute
  | .route id, .put => do
      let id ← pathString crates "id" id
      (crates.jsonRoute body).map (.updateRoute id)
  | .route id, .delete => (pathString crates "id" id).map .deleteRoute
  | .versions, .get => .ok .listVersions
  | .version version, .get => (pathI32 crates version).map .getVersion
  | .revert version, .post => (pathI32 crates version).map .revertVersion
  | .static rest, .get => .ok (.serveFile rest)
  | _, _ => .error ⟨405, ""⟩

/-- A `HEAD` request goes to the handler for `GET`. -/
def Method.routed : Method → Method
  | .head => .get
  | method => method

/-- The handler a request reaches, unless it is turned away before. -/
def dispatch (request : HttpRequest) : Except Rejection Action :=
  match endpoint request.path with
  | some found => endpointAction crates request.body found request.method.routed
  | none => .error ⟨404, ""⟩

def actionHandler (state : DashboardState) (request : HttpRequest) : Action → Handler
  | .dashboardIndex => dashboardIndex request
  | .loginPage => loginPage
  | .login payload => loginHandler crates state payload
  | .logout => logoutHandler request
  | .getConfig => getConfig crates
  | .updateConfig payload => updateConfig crates payload
  | .listClients => listClients crates
  | .createClient client => createClient crates client
  | .getClient id => getClient crates id
  | .updateClient id client => updateClient crates id client
  | .deleteClient id => deleteClient crates id
  | .listProviders => listProviders crates
  | .createProvider provider => createProvider crates provider
  | .getProvider id => getProvider crates id
  | .updateProvider id provider => updateProvider crates id provider
  | .deleteProvider id => deleteProvider crates id
  | .listRoutes => listRoutes crates
  | .createRoute route => createRoute crates route
  | .getRoute id => getRoute crates id
  | .updateRoute id route => updateRoute crates id route
  | .deleteRoute id => deleteRoute crates id
  | .listVersions => listVersions crates
  | .getVersion version => getVersion crates version
  | .revertVersion version => revertVersion crates version
  | .serveFile rest =>
      Handler.respond
        { status := (crates.serveDir rest).1, body := .bytes (crates.serveDir rest).2 }

/-- The response to a `HEAD` request has no body. -/
def Method.strip (method : Method) (response : Response) : Response :=
  if method = .head then { response with body := .empty } else response

def handleRequest (state : DashboardState) (request : HttpRequest) : Handler :=
  match dispatch crates request with
  | .ok action =>
      (actionHandler crates state request action).map (Option.map request.method.strip)
  | .error rejection => Handler.respond (request.method.strip rejection.response)

end Dispatch

/-! ### The service -/

/-- The database, the requests at work and the responses sent. -/
abbrev DashboardPool := Pool Statement Statement.Answer (Option Response) Database

/-- A request comes in, the next statement of one at work is served, or its client goes away. -/
abbrev DashboardMove := Move HttpRequest Served

def DashboardPool.run (crates : DashboardCrates) (state : DashboardState) (pool : DashboardPool)
    (moves : List DashboardMove) : DashboardPool :=
  Pool.run Database.serve (handleRequest crates state) pool moves

end ClaudeProxy.Dashboard
