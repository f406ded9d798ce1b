/-
Module: ClaudeProxy.ConfigFormat
Layer: Model
Purpose: The configuration as data: the derived `Deserialize` and `Serialize` of the types in
  `src/config.rs`, driven by a `Value` as `serde_json::from_value` drives them. The texts of the errors
  are the crate's, so that a failure is `none`. `AppConfig::load` reads YAML.
Trusted boundary: human-reviewed model
Main exports: fieldsOf, field, fieldOr, SecretRef.fromValue, AddressText, AppConfig.fromValue,
  AppConfig.toValue, AppConfig.load
-/
import ClaudeProxy.Config

namespace ClaudeProxy

open Library

/-! ### Fields -/

/-- The fields of a struct with `deny_unknown_fields`: those of an object that has no others, or the
elements of an array, which stand for the first fields in order. -/
def fieldsOf (known : List String) : Value → Option Entries
  | .object entries => if entries.all fun entry => entry.1 ∈ known then some entries else none
  | .array items => if items.length ≤ known.length then some (known.zip items) else none
  | _ => none

section Fields

variable {α : Type} (name : String)

def field (read : Value → Option α) (fields : Entries) : Option α :=
  (fields.lookup name).bind read

/-- A field that may be left out. -/
def fieldOr (default : α) (read : Value → Option α) (fields : Entries) : Option α :=
  match fields.lookup name with
  | none => some default
  | some value => read value

end Fields

/-- An unsigned integer of a width. -/
def readUnsigned (width : Nat) : Value → Option Nat
  | .number (.posInt value) => if value < 2 ^ width then some value else none
  | _ => none

def readList {α : Type} (read : Value → Option α) : Value → Option (List α)
  | .array items => items.mapM read
  | _ => none

def readNullable {α : Type} (read : Value → Option α) : Value → Option (Option α)
  | .null => some none
  | value => (read value).map some

def writeNullable {α : Type} (write : α → Value) : Option α → Value
  | none => .null
  | some value => write value

def writeStrings (items : List String) : Value := .array (items.map Value.string)

/-! ### Secrets -/

/-- Untagged: the first variant that fits, and a variant does not mind further fields. -/
def SecretRef.fromValue (value : Value) : Option SecretRef :=
  ((value.strAt "env").map SecretRef.env).or ((value.strAt "file").map SecretRef.file)

def SecretRef.toValue : SecretRef → Value
  | .env name => .obj [("env", .string name)]
  | .file path => .obj [("file", .string path)]

def SecretOrLiteral.fromValue : Value → Option SecretOrLiteral
  | .string text => some (.literal text)
  | value => (SecretRef.fromValue value).map .secret

def SecretOrLiteral.toValue : SecretOrLiteral → Value
  | .literal text => .string text
  | .secret reference => reference.toValue

/-- The variant that a tag names, with the field of its secret. -/
def credentialVariant (tag : String) : Option (String × (SecretRef → CredentialConfig)) :=
  if tag = "bearer" then some ("secret", .bearer)
  else if tag = "api_key" then some ("secret", .apiKey)
  else if tag = "azure_entra" then some ("token", .azureEntra)
  else none

/-- Tagged by `type`; in an array the tag comes first. -/
def CredentialConfig.fromValue (value : Value) : Option CredentialConfig :=
  match value with
  | .object entries => do
      let tag ← (entries.lookup "type").bind Value.asStr
      let (name, variant) ← credentialVariant tag
      let secret ← (entries.lookup name).bind SecretRef.fromValue
      pure (variant secret)
  | .array [tag, held] => do
      let tag ← tag.asStr
      let (_, variant) ← credentialVariant tag
      let secret ← SecretRef.fromValue held
      pure (variant secret)
  | _ => none

def CredentialConfig.toValue : CredentialConfig → Value
  | .bearer secret => .obj [("type", .string "bearer"), ("secret", secret.toValue)]
  | .apiKey secret => .obj [("type", .string "api_key"), ("secret", secret.toValue)]
  | .azureEntra token => .obj [("type", .string "azure_entra"), ("token", token.toValue)]

/-! ### Sections -/

/-- Texts of socket addresses: `SocketAddr::from_str` and its `Display`. -/
structure AddressText where
  parse : String → Option SocketAddr
  display : SocketAddr → String

section Addresses

variable (addresses : AddressText)

def SocketAddr.fromValue (value : Value) : Option SocketAddr := value.asStr.bind addresses.parse

def SocketAddr.toValue (address : SocketAddr) : Value := .string (addresses.display address)

def serverFields : List String :=
  ["bind", "metrics_bind", "max_body_bytes", "shutdown_grace_seconds", "require_anthropic_version",
    "loose_input_validation"]

def ServerConfig.fromValue (value : Value) : Option ServerConfig := do
  let defaults : ServerConfig := {}
  let fields ← fieldsOf serverFields value
  let bind ← fieldOr "bind" defaults.bind (SocketAddr.fromValue addresses) fields
  let metricsBind ← fieldOr "metrics_bind" defaults.metricsBind
    (readNullable (SocketAddr.fromValue addresses)) fields
  let maxBodyBytes ← fieldOr "max_body_bytes" defaults.maxBodyBytes (readUnsigned 64) fields
  let shutdownGraceSeconds ← fieldOr "shutdown_grace_seconds" defaults.shutdownGraceSeconds
    (readUnsigned 64) fields
  let requireAnthropicVersion ← fieldOr "require_anthropic_version"
    defaults.requireAnthropicVersion Value.asBool fields
  let looseInputValidation ← fieldOr "loose_input_validation" defaults.looseInputValidation
    Value.asBool fields
  pure
    { bind := bind
      metricsBind := metricsBind
      maxBodyBytes := maxBodyBytes
      shutdownGraceSeconds := shutdownGraceSeconds
      requireAnthropicVersion := requireAnthropicVersion
      looseInputValidation := looseInputValidation }

def ServerConfig.entries (server : ServerConfig) : Entries :=
  [("bind", server.bind.toValue addresses),
    ("metrics_bind", writeNullable (SocketAddr.toValue addresses) server.metricsBind),
    ("max_body_bytes", .num server.maxBodyBytes),
    ("shutdown_grace_seconds", .num server.shutdownGraceSeconds),
    ("require_anthropic_version", .bool server.requireAnthropicVersion),
    ("loose_input_validation", .bool server.looseInputValidation)]

def ServerConfig.toValue (server : ServerConfig) : Value := .obj (server.entries addresses)

end Addresses

def limitsFields : List String :=
  ["global_concurrency", "connect_timeout_ms", "request_timeout_seconds",
    "stream_idle_timeout_seconds", "max_attempts", "circuit_failure_threshold",
    "circuit_cooldown_seconds"]

def LimitsConfig.fromValue (value : Value) : Option LimitsConfig := do
  let defaults : LimitsConfig := {}
  let fields ← fieldsOf limitsFields value
  let globalConcurrency ← fieldOr "global_concurrency" defaults.globalConcurrency
    (readUnsigned 64) fields
  let connectTimeoutMs ← fieldOr "connect_timeout_ms" defaults.connectTimeoutMs
    (readUnsigned 64) fields
  let requestTimeoutSeconds ← fieldOr "request_timeout_seconds" defaults.requestTimeoutSeconds
    (readUnsigned 64) fields
  let streamIdleTimeoutSeconds ← fieldOr "stream_idle_timeout_seconds"
    defaults.streamIdleTimeoutSeconds (readUnsigned 64) fields
  let maxAttempts ← fieldOr "max_attempts" defaults.maxAttempts (readUnsigned 64) fields
  let circuitFailureThreshold ← fieldOr "circuit_failure_threshold"
    defaults.circuitFailureThreshold (readUnsigned 32) fields
  let circuitCooldownSeconds ← fieldOr "circuit_cooldown_seconds" defaults.circuitCooldownSeconds
    (readUnsigned 64) fields
  pure
    { globalConcurrency := globalConcurrency
      connectTimeoutMs := connectTimeoutMs
      requestTimeoutSeconds := requestTimeoutSeconds
      streamIdleTimeoutSeconds := streamIdleTimeoutSeconds
      maxAttempts := maxAttempts
      circuitFailureThreshold := circuitFailureThreshold
      circuitCooldownSeconds := circuitCooldownSeconds }

def LimitsConfig.entries (limits : LimitsConfig) : Entries :=
  [("global_concurrency", .num limits.globalConcurrency),
    ("connect_timeout_ms", .num limits.connectTimeoutMs),
    ("request_timeout_seconds", .num limits.requestTimeoutSeconds),
    ("stream_idle_timeout_seconds", .num limits.streamIdleTimeoutSeconds),
    ("max_attempts", .num limits.maxAttempts),
    ("circuit_failure_threshold", .num limits.circuitFailureThreshold),
    ("circuit_cooldown_seconds", .num limits.circuitCooldownSeconds)]

def LimitsConfig.toValue (limits : LimitsConfig) : Value := .obj limits.entries

def clientFields : List String :=
  ["id", "key", "allowed_routes", "requests_per_minute", "concurrent_requests"]

def ClientConfig.fromValue (value : Value) : Option ClientConfig := do
  let fields ← fieldsOf clientFields value
  let id ← field "id" Value.asStr fields
  let key ← field "key" SecretRef.fromValue fields
  let allowedRoutes ← fieldOr "allowed_routes" [] (readList Value.asStr) fields
  let requestsPerMinute ← fieldOr "requests_per_minute" 600 (readUnsigned 32) fields
  let concurrentRequests ← fieldOr "concurrent_requests" 100 (readUnsigned 32) fields
  pure
    { id := id
      key := key
      allowedRoutes := allowedRoutes
      requestsPerMinute := requestsPerMinute
      concurrentRequests := concurrentRequests }

def ClientConfig.entries (client : ClientConfig) : Entries :=
  [("id", .string client.id), ("key", client.key.toValue),
    ("allowed_routes", writeStrings client.allowedRoutes),
    ("requests_per_minute", .num client.requestsPerMinute),
    ("concurrent_requests", .num client.concurrentRequests)]

def ClientConfig.toValue (client : ClientConfig) : Value := .obj client.entries

/-! ### Providers -/

/-- A name, or an object that has it as its one key, with `null`. -/
def ProviderKind.fromValue (value : Value) : Option ProviderKind := do
  let name ← match value with
    | .string name => some name
    | .object [(name, .null)] => some name
    | _ => none
  if name = "openai_chat" then some .openaiChat
  else if name = "azure_chat" then some .azureChat
  else none

def ProviderKind.toValue (kind : ProviderKind) : Value := .string kind.display

def profileFields : List String :=
  ["tokenizer", "vision", "tools", "parallel_tools", "supports_temperature", "supports_top_p",
    "supports_stop", "max_output_tokens", "use_max_completion_tokens", "allow_max_tokens_clamping",
    "allow_temperature_fallback", "allow_top_p_fallback", "allow_stop_fallback",
    "allow_parallel_tool_fallback", "allow_structured_tool_results_to_string"]

def CapabilityProfile.fromValue (value : Value) : Option CapabilityProfile := do
  let defaults : CapabilityProfile := {}
  let fields ← fieldsOf profileFields value
  let flag := fun (name : String) (default : Bool) => fieldOr name default Value.asBool fields
  let tokenizer ← fieldOr "tokenizer" defaults.tokenizer Value.asStr fields
  let vision ← flag "vision" defaults.vision
  let tools ← flag "tools" defaults.tools
  let parallelTools ← flag "parallel_tools" defaults.parallelTools
  let supportsTemperature ← flag "supports_temperature" defaults.supportsTemperature
  let supportsTopP ← flag "supports_top_p" defaults.supportsTopP
  let supportsStop ← flag "supports_stop" defaults.supportsStop
  let maxOutputTokens ← fieldOr "max_output_tokens" defaults.maxOutputTokens
    (readUnsigned 32) fields
  let useMaxCompletionTokens ← flag "use_max_completion_tokens" defaults.useMaxCompletionTokens
  let allowMaxTokensClamping ← flag "allow_max_tokens_clamping" defaults.allowMaxTokensClamping
  let allowTemperatureFallback ← flag "allow_temperature_fallback"
    defaults.allowTemperatureFallback
  let allowTopPFallback ← flag "allow_top_p_fallback" defaults.allowTopPFallback
  let allowStopFallback ← flag "allow_stop_fallback" defaults.allowStopFallback
  let allowParallelToolFallback ← flag "allow_parallel_tool_fallback"
    defaults.allowParallelToolFallback
  let allowStructuredToolResultsToString ← flag "allow_structured_tool_results_to_string"
    defaults.allowStructuredToolResultsToString
  pure
    { tokenizer := tokenizer
      vision := vision
      tools := tools
      parallelTools := parallelTools
      supportsTemperature := supportsTemperature
      supportsTopP := supportsTopP
      supportsStop := supportsStop
      maxOutputTokens := maxOutputTokens
      useMaxCompletionTokens := useMaxCompletionTokens
      allowMaxTokensClamping := allowMaxTokensClamping
      allowTemperatureFallback := allowTemperatureFallback
      allowTopPFallback := allowTopPFallback
      allowStopFallback := allowStopFallback
      allowParallelToolFallback := allowParallelToolFallback
      allowStructuredToolResultsToString := allowStructuredToolResultsToString }

def CapabilityProfile.entries (profile : CapabilityProfile) : Entries :=
  [("tokenizer", .string profile.tokenizer), ("vision", .bool profile.vision),
    ("tools", .bool profile.tools), ("parallel_tools", .bool profile.parallelTools),
    ("supports_temperature", .bool profile.supportsTemperature),
    ("supports_top_p", .bool profile.supportsTopP),
    ("supports_stop", .bool profile.supportsStop),
    ("max_output_tokens", .num profile.maxOutputTokens),
    ("use_max_completion_tokens", .bool profile.useMaxCompletionTokens),
    ("allow_max_tokens_clamping", .bool profile.allowMaxTokensClamping),
    ("allow_temperature_fallback", .bool profile.allowTemperatureFallback),
    ("allow_top_p_fallback", .bool profile.allowTopPFallback),
    ("allow_stop_fallback", .bool profile.allowStopFallback),
    ("allow_parallel_tool_fallback", .bool profile.allowParallelToolFallback),
    ("allow_structured_tool_results_to_string",
      .bool profile.allowStructuredToolResultsToString)]

def CapabilityProfile.toValue (profile : CapabilityProfile) : Value := .obj profile.entries

/-- A map, listed in the order of its keys. -/
def readHeaders : Value → Option (List (String × SecretOrLiteral))
  | .object entries =>
      let map := entries.foldl (fun map entry => Entries.insert entry.1 entry.2 map) []
      map.mapM fun entry => (SecretOrLiteral.fromValue entry.2).map fun held => (entry.1, held)
  | _ => none

def writeHeaders (headers : List (String × SecretOrLiteral)) : Value :=
  .obj (headers.map fun header => (header.1, header.2.toValue))

def providerFields : List String :=
  ["id", "kind", "endpoint", "credential", "headers", "capability_profile", "allow_insecure_http"]

def ProviderConfig.fromValue (value : Value) : Option ProviderConfig := do
  let fields ← fieldsOf providerFields value
  let id ← field "id" Value.asStr fields
  let kind ← field "kind" ProviderKind.fromValue fields
  let endpoint ← field "endpoint" Value.asStr fields
  let credential ← field "credential" CredentialConfig.fromValue fields
  let headers ← fieldOr "headers" [] readHeaders fields
  let capabilityProfile ← fieldOr "capability_profile" {} CapabilityProfile.fromValue fields
  let allowInsecureHttp ← fieldOr "allow_insecure_http" false Value.asBool fields
  pure
    { id := id
      kind := kind
      endpoint := endpoint
      credential := credential
      headers := headers
      capabilityProfile := capabilityProfile
      allowInsecureHttp := allowInsecureHttp }

def ProviderConfig.entries (provider : ProviderConfig) : Entries :=
  [("id", .string provider.id), ("kind", provider.kind.toValue),
    ("endpoint", .string provider.endpoint), ("credential", provider.credential.toValue),
    ("headers", writeHeaders provider.headers),
    ("capability_profile", provider.capabilityProfile.toValue),
    ("allow_insecure_http", .bool provider.allowInsecureHttp)]

def ProviderConfig.toValue (provider : ProviderConfig) : Value := .obj provider.entries

/-! ### Routes -/

def targetFields : List String := ["provider", "model", "priority", "weight"]

def TargetConfig.fromValue (value : Value) : Option TargetConfig := do
  let fields ← fieldsOf targetFields value
  let provider ← field "provider" Value.asStr fields
  let model ← field "model" Value.asStr fields
  let priority ← fieldOr "priority" 1 (readUnsigned 32) fields
  let weight ← fieldOr "weight" 100 (readUnsigned 32) fields
  pure { provider := provider, model := model, priority := priority, weight := weight }

def TargetConfig.entries (target : TargetConfig) : Entries :=
  [("provider", .string target.provider), ("model", .string target.model),
    ("priority", .num target.priority), ("weight", .num target.weight)]

def TargetConfig.toValue (target : TargetConfig) : Value := .obj target.entries

def routeFields : List String := ["id", "models", "targets"]

def RouteConfig.fromValue (value : Value) : Option RouteConfig := do
  let fields ← fieldsOf routeFields value
  let id ← field "id" Value.asStr fields
  let models ← field "models" (readList Value.asStr) fields
  let targets ← field "targets" (readList TargetConfig.fromValue) fields
  pure { id := id, models := models, targets := targets }

def RouteConfig.entries (route : RouteConfig) : Entries :=
  [("id", .string route.id), ("models", writeStrings route.models),
    ("targets", .array (route.targets.map TargetConfig.toValue))]

def RouteConfig.toValue (route : RouteConfig) : Value := .obj route.entries

/-! ### The configuration -/

section Whole

variable (addresses : AddressText)

def configFields : List String := ["server", "limits", "clients", "providers", "routes"]

def AppConfig.fromValue (value : Value) : Option AppConfig := do
  let fields ← fieldsOf configFields value
  let server ← fieldOr "server" {} (ServerConfig.fromValue addresses) fields
  let limits ← fieldOr "limits" {} LimitsConfig.fromValue fields
  let clients ← field "clients" (readList ClientConfig.fromValue) fields
  let providers ← field "providers" (readList ProviderConfig.fromValue) fields
  let routes ← field "routes" (readList RouteConfig.fromValue) fields
  pure
    { server := server
      limits := limits
      clients := clients
      providers := providers
      routes := routes }

def AppConfig.entries (config : AppConfig) : Entries :=
  [("server", config.server.toValue addresses), ("limits", config.limits.toValue),
    ("clients", .array (config.clients.map ClientConfig.toValue)),
    ("providers", .array (config.providers.map ProviderConfig.toValue)),
    ("routes", .array (config.routes.map RouteConfig.toValue))]

def AppConfig.toValue (config : AppConfig) : Value := .obj (config.entries addresses)

end Whole

/-- `fromYaml` is `serde_yaml::from_str`, with the text of its error. -/
def AppConfig.load (crates : Crates) (environment : Environment)
    (fromYaml : String → Except String AppConfig) (path : String) : Except ProxyError AppConfig := do
  let source ← (environment.readFile path).mapError fun error =>
    .new .internal s!"cannot read config {path}: {error}"
  let config ← (fromYaml source).mapError fun error =>
    .new .internal s!"invalid config {path}: {error}"
  config.validate crates environment
  pure config

end ClaudeProxy
