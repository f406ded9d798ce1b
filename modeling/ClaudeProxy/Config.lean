/-
Module: ClaudeProxy.Config
Layer: Model
Purpose: The configuration, its validation and its loading from a JSON value (`src/config.rs`).
Trusted boundary: human-reviewed model
Main exports: CapabilityProfile, ProviderConfig, RouteConfig, ClientConfig, LimitsConfig,
  ServerConfig, AppConfig, SecretRef.resolve, AppConfig.validate, AppConfig.loadFromValue, ValidConfig
-/
import ClaudeProxy.Domain
import ClaudeProxy.Library.Outcome
import ClaudeProxy.Library.Text

namespace ClaudeProxy

open Library

/-! ### Secrets -/

/-- What the process finds around it: variables and files, and the entry points of the crates for
HTTP, globs and tokens. -/
structure Environment where
  envVar : String → Option String
  readFile : String → Except String String
  /-- `HeaderName::from_bytes` succeeds. -/
  isHeaderName : String → Bool
  /-- `HeaderValue::from_str` succeeds. -/
  isHeaderValue : String → Bool
  /-- The text of a `StatusCode`. -/
  displayStatus : Nat → String
  /-- `ClientBuilder::build`, with a connect timeout in milliseconds. -/
  buildClient : Nat → Except String Unit
  /-- `Glob::new`. -/
  parseGlob : String → Except String Unit
  /-- `GlobSetBuilder::build` and the set's `is_match`. -/
  globSet : List String → Except String (String → Bool)
  /-- A tokenizer of `tiktoken_rs`: how many tokens a text has. -/
  tokenizer : String → Except String (String → Nat)

inductive SecretRef where
  | env (name : String)
  | file (path : String)
deriving DecidableEq, Repr, Inhabited

def SecretRef.read (environment : Environment) : SecretRef → Except ProxyError String
  | .env name => orReject (environment.envVar name)
      (.new .internal s!"required secret environment variable {name} is not set")
  | .file path =>
      match environment.readFile path with
      | .ok value => .ok value
      | .error error => .error (.new .internal s!"cannot read secret file {path}: {error}")

def SecretRef.resolve (environment : Environment) (secret : SecretRef) :
    Except ProxyError String := do
  let value ← secret.read environment
  rejectIf (trim value = "") (.new .internal "resolved secret is empty")
  pure (trim value)

inductive SecretOrLiteral where
  | literal (value : String)
  | secret (secret : SecretRef)
deriving DecidableEq, Repr, Inhabited

def SecretOrLiteral.resolve (environment : Environment) : SecretOrLiteral → Except ProxyError String
  | .literal value => .ok value
  | .secret reference => reference.resolve environment

inductive CredentialConfig where
  | bearer (secret : SecretRef)
  | apiKey (secret : SecretRef)
  | azureEntra (token : SecretRef)
deriving DecidableEq, Repr, Inhabited

def CredentialConfig.secret : CredentialConfig → SecretRef
  | .bearer secret => secret
  | .apiKey secret => secret
  | .azureEntra token => token

/-! ### Sections -/

structure CapabilityProfile where
  tokenizer : String := "o200k_base"
  vision : Bool := true
  tools : Bool := true
  parallelTools : Bool := true
  supportsTemperature : Bool := true
  supportsTopP : Bool := true
  supportsStop : Bool := true
  maxOutputTokens : Nat := 16384
  useMaxCompletionTokens : Bool := false
  allowMaxTokensClamping : Bool := false
  allowTemperatureFallback : Bool := false
  allowTopPFallback : Bool := false
  allowStopFallback : Bool := false
  allowParallelToolFallback : Bool := false
  allowStructuredToolResultsToString : Bool := false
deriving DecidableEq, Repr, Inhabited

inductive ProviderKind where
  | openaiChat
  | azureChat
deriving DecidableEq, Repr, Inhabited

/-- Its `Display`. -/
def ProviderKind.display : ProviderKind → String
  | .openaiChat => "openai_chat"
  | .azureChat => "azure_chat"

/-- The headers are a `HashMap` in the source; here they stand in the order of its iteration. -/
structure ProviderConfig where
  id : String
  kind : ProviderKind
  endpoint : String
  credential : CredentialConfig
  headers : List (String × SecretOrLiteral) := []
  capabilityProfile : CapabilityProfile := {}
  allowInsecureHttp : Bool := false
deriving Repr, Inhabited

structure TargetConfig where
  provider : String
  model : String
  priority : Nat := 1
  weight : Nat := 100
deriving DecidableEq, Repr, Inhabited

structure RouteConfig where
  id : String
  models : List String
  targets : List TargetConfig
deriving DecidableEq, Repr, Inhabited

structure ClientConfig where
  id : String
  key : SecretRef
  allowedRoutes : List String := []
  requestsPerMinute : Nat := 600
  concurrentRequests : Nat := 100
deriving DecidableEq, Repr, Inhabited

structure LimitsConfig where
  globalConcurrency : Nat := 512
  connectTimeoutMs : Nat := 5000
  requestTimeoutSeconds : Nat := 120
  streamIdleTimeoutSeconds : Nat := 60
  maxAttempts : Nat := 2
  circuitFailureThreshold : Nat := 5
  circuitCooldownSeconds : Nat := 30
deriving DecidableEq, Repr, Inhabited

/-- `std::net::SocketAddr`, by the text of its IP address. -/
structure SocketAddr where
  ip : String
  port : UInt16
deriving DecidableEq, Repr, Inhabited

structure ServerConfig where
  bind : SocketAddr := ⟨"0.0.0.0", 8082⟩
  metricsBind : Option SocketAddr := some ⟨"127.0.0.1", 9090⟩
  maxBodyBytes : Nat := 16 * 1024 * 1024
  shutdownGraceSeconds : Nat := 30
  requireAnthropicVersion : Bool := true
  looseInputValidation : Bool := false
deriving DecidableEq, Repr, Inhabited

structure AppConfig where
  server : ServerConfig := {}
  limits : LimitsConfig := {}
  clients : List ClientConfig
  providers : List ProviderConfig
  routes : List RouteConfig
deriving Repr, Inhabited

/-! ### Validation -/

/-- The ids seen so far, with one more, which must be new. -/
def uniqueId (kind : String) (seen : List String) (id : String) : Except ProxyError (List String) := do
  rejectIf (id = "" ∨ id ∈ seen) (.new .internal s!"{kind} id is empty or duplicated: {id}")
  pure (id :: seen)

/-- `str::eq_ignore_ascii_case`. -/
def eqIgnoreAsciiCase (first second : String) : Bool :=
  first.toList.map Char.toLower == second.toList.map Char.toLower

def forbiddenHeaders : List String :=
  ["authorization", "api-key", "host", "content-length", "connection", "transfer-encoding"]

def validateHeaderName (environment : Environment) (name : String) : Except ProxyError Unit := do
  rejectIf (forbiddenHeaders.any (eqIgnoreAsciiCase name) = true)
    (.new .internal s!"custom header {name} is forbidden")
  rejectIf (environment.isHeaderName name = false)
    (.new .internal s!"invalid custom header name {name}")

def checkEndpoint (crates : Crates) (provider : ProviderConfig) : Except ProxyError Unit := do
  let endpoint ← (crates.urlParse provider.endpoint).mapError fun error =>
    .new .internal s!"provider {provider.id} has invalid endpoint: {error}"
  rejectIf (endpoint.username ≠ "" ∨ endpoint.password.isSome = true)
    (.new .internal s!"provider {provider.id} endpoint must not contain credentials")
  rejectIf (¬ ((stripPrefix "https://" provider.endpoint).isSome = true ∨
      provider.allowInsecureHttp = true ∧ (stripPrefix "http://" provider.endpoint).isSome = true))
    (.new .internal s!"provider {provider.id} must use HTTPS or explicitly allow insecure HTTP")

def checkProvider (crates : Crates) (environment : Environment) (seen : List String)
    (provider : ProviderConfig) : Except ProxyError (List String) := do
  let ids ← uniqueId "provider" seen provider.id
  checkEndpoint crates provider
  let _ ← provider.credential.secret.resolve environment
  provider.headers.forM fun header => validateHeaderName environment header.1
  pure ids

def checkTarget (providerIds : List String) (route : RouteConfig) (target : TargetConfig) :
    Except ProxyError Unit :=
  rejectIf (target.provider ∉ providerIds ∨ target.weight = 0)
    (.new .internal s!"route {route.id} has an invalid target {target.provider}")

def checkRoute (providerIds seen : List String) (route : RouteConfig) :
    Except ProxyError (List String) := do
  let ids ← uniqueId "route" seen route.id
  rejectIf (route.models = [] ∨ route.targets = [])
    (.new .internal s!"route {route.id} needs models and targets")
  route.targets.forM (checkTarget providerIds route)
  pure ids

def checkClient (environment : Environment) (routeIds seen : List String) (client : ClientConfig) :
    Except ProxyError (List String) := do
  let ids ← uniqueId "client" seen client.id
  let key ← client.key.resolve environment
  rejectIf (key.utf8ByteSize < 24)
    (.new .internal s!"client {client.id} key must be at least 24 bytes")
  rejectIf (client.concurrentRequests = 0 ∨ client.requestsPerMinute = 0)
    (.new .internal s!"client {client.id} limits must be non-zero")
  client.allowedRoutes.forM fun route => rejectIf (route ∉ routeIds)
    (.new .internal s!"client {client.id} references unknown route {route}")
  pure ids

def AppConfig.validate (crates : Crates) (environment : Environment) (config : AppConfig) :
    Except ProxyError Unit := do
  rejectIf (config.clients.isEmpty = true ∨ config.providers.isEmpty = true ∨
      config.routes.isEmpty = true)
    (.new .internal "clients, providers, and routes must not be empty")
  rejectIf (config.limits.globalConcurrency = 0 ∨ config.limits.maxAttempts = 0)
    (.new .internal "concurrency and max_attempts must be greater than zero")
  let _ ← config.providers.foldlM (checkProvider crates environment) []
  let _ ← config.routes.foldlM (checkRoute (config.providers.map (·.id))) []
  let _ ← config.clients.foldlM (checkClient environment (config.routes.map (·.id))) []
  pure ()

/-- `fromValue` is `serde_json::from_value`, with the text of its error. -/
def AppConfig.loadFromValue (crates : Crates) (environment : Environment)
    (fromValue : Value → Except String AppConfig) (value : Value) : Except ProxyError AppConfig := do
  let config ← (fromValue value).mapError fun error => .new .internal s!"invalid config: {error}"
  config.validate crates environment
  pure config

/-- A configuration that passed its validation. -/
structure ValidConfig (crates : Crates) (environment : Environment) where
  config : AppConfig
  valid : config.validate crates environment = .ok ()

/-- What the parts of a configuration have passed. -/
structure AppConfig.Checked (crates : Crates) (environment : Environment) (config : AppConfig) :
    Prop where
  present : config.providers ≠ []
  attempts : 0 < config.limits.maxAttempts
  providers : ∀ provider ∈ config.providers, ∃ seen next,
    checkProvider crates environment seen provider = .ok next
  routes : ∀ route ∈ config.routes, ∃ seen next,
    checkRoute (config.providers.map (·.id)) seen route = .ok next

theorem ValidConfig.checked {crates : Crates} {environment : Environment}
    (valid : ValidConfig crates environment) : valid.config.Checked crates environment := by
  obtain ⟨config, valid⟩ := valid
  unfold AppConfig.validate at valid
  simp only [Except.bind_eq_ok, rejectIf_eq_ok, not_or] at valid
  obtain ⟨_, ⟨_, present, _⟩, _, ⟨_, attempts⟩, _, providersEq, _, routesEq, _⟩ := valid
  constructor
  · intro none
    rw [none] at present
    exact present rfl
  · exact Nat.pos_of_ne_zero attempts
  · exact Except.exists_step_of_foldlM providersEq
  · exact Except.exists_step_of_foldlM routesEq

theorem ValidConfig.maxAttempts_pos {crates : Crates} {environment : Environment}
    (valid : ValidConfig crates environment) : 0 < valid.config.limits.maxAttempts :=
  valid.checked.attempts

end ClaudeProxy
