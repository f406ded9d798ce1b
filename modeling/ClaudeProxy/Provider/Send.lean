/-
Module: ClaudeProxy.Provider.Send
Layer: Model
Purpose: A provider at work (`Provider::new`, `execute`, `stream`, `send` and the classification of
  failures in `src/provider.rs`). What the server at the other end does with a request is given: an
  answer, a transport error, or nothing within the timeout that the router sets.
Trusted boundary: human-reviewed model
Main exports: Provider, Provider.new, Provider.available, Provider.recordSuccess,
  Provider.recordFailure, HttpRequest, Reply, Upstream, Timed, classifyStatus,
  Provider.send, Provider.execute, Provider.stream
-/
import ClaudeProxy.Anthropic.CountTokens
import ClaudeProxy.Provider.Adapt
import ClaudeProxy.Provider.Circuit
import ClaudeProxy.Provider.Response
import ClaudeProxy.Provider.Translate

namespace ClaudeProxy

open Library

/-! ### Providers -/

/-- The name of a header is kept in lower case. -/
abbrev Headers := List (String × String)

/-- `HeaderMap::insert`. -/
def Headers.insert (name value : String) (headers : Headers) : Headers :=
  headers.filter (fun header => header.1 ≠ name.toLower) ++ [(name.toLower, value)]

/-- The headers, and those of others whose names are not among theirs. -/
def Headers.orElse (headers others : Headers) : Headers :=
  headers ++ others.filter fun other => headers.all fun header => header.1 ≠ other.1

structure Provider where
  id : String
  kind : ProviderKind
  endpoint : String
  credential : CredentialConfig
  capabilities : CapabilityProfile
  headers : Headers
  failureThreshold : Nat
  cooldown : Nat
deriving Repr, Inhabited

def addHeader (environment : Environment) (headers : Headers) (header : String × SecretOrLiteral) :
    Except ProxyError Headers := do
  rejectIf (environment.isHeaderName header.1 = false)
    (.new .internal s!"invalid header name {header.1}")
  let value ← header.2.resolve environment
  rejectIf (environment.isHeaderValue value = false) (.new .internal "invalid custom header value")
  pure (headers.insert header.1 value)

/-- `trim_end_matches('/')`. -/
def trimSlashes (endpoint : String) : String :=
  String.ofList (endpoint.toList.reverse.dropWhile (· = '/')).reverse

def Provider.new (environment : Environment) (config : ProviderConfig) (limits : LimitsConfig) :
    Except ProxyError Provider := do
  let headers ← config.headers.foldlM (addHeader environment) []
  (environment.buildClient limits.connectTimeoutMs).mapError fun error =>
    .new .internal s!"cannot build provider client: {error}"
  pure
    { id := config.id
      kind := config.kind
      endpoint := trimSlashes config.endpoint
      credential := config.credential
      capabilities := config.capabilityProfile
      headers := headers
      failureThreshold := limits.circuitFailureThreshold
      cooldown := limits.circuitCooldownSeconds * nanosecondsPerSecond }

/-! ### The circuit of a provider -/

/-- Whether the circuit is closed; `none` if the call panics, as the others below. -/
def Provider.available (provider : Provider) (now : Instant) (circuits : Circuits) :
    Option Bool × Circuits :=
  circuits.withLock provider.id (availableSection now)

def Provider.recordSuccess (provider : Provider) (circuits : Circuits) : Option Unit × Circuits :=
  circuits.withLock provider.id successSection

def Provider.recordFailure (provider : Provider) (now : Instant) (error : ProxyError)
    (circuits : Circuits) : Option Unit × Circuits :=
  if countsAsFailure error = false then (some (), circuits)
  else circuits.withLock provider.id
    (failureSection provider.failureThreshold provider.cooldown now)

/-! ### Requests and replies -/

structure HttpRequest where
  url : String
  headers : Headers
  body : Value
deriving Repr, Inhabited

/-- An HTTP answer: what its body is as text, as the provider's answer and as a stream. Reading a
whole body takes time, and is `none` if the timeout comes first. -/
structure HttpResponse where
  status : Nat
  retryAfter : Option String := none
  text : Option String
  json : Option (Except String OpenAiResponse)
  chunks : Feed (Except TransportError Bytes)

inductive Reply where
  | broken (error : TransportError)
  | answered (response : HttpResponse)

/-- The other end of one attempt: what the HTTP client's `send` of a request comes to, with the
redirects that the client follows by itself, if it does so in time, and the time at which the attempt
is over. -/
structure Upstream where
  reply : HttpRequest → Option Reply
  finishedAt : Instant

/-- What a future comes to under a timeout: `none` if the timeout elapses first. -/
abbrev Timed (α : Type) := Option (Except ProxyError α)

def Timed.andThen {α β : Type} (first : Timed α) (next : α → Timed β) : Timed β :=
  match first with
  | none => none
  | some (.error error) => some (.error error)
  | some (.ok value) => next value

/-! ### Failures -/

/-- `str::parse::<u64>`. -/
def parseU64 (text : String) : Option Nat :=
  let digits := match text.toList with
    | '+' :: digits => digits
    | digits => digits
  if digits = [] ∨ ¬ digits.all Char.isDigit = true then none
  else
    let value := digits.foldl (fun value digit => value * 10 + (digit.toNat - '0'.toNat)) 0
    if value < 2 ^ 64 then some value else none

def truncate (value : String) (limit : Nat) : String :=
  String.ofList (value.toList.take limit)

def statusKind (status : Nat) : ErrorKind :=
  if status ∈ [400, 404, 409, 422] then .invalidRequest
  else if status = 401 then .upstream
  else if status = 403 then .upstream
  else if status = 408 then .timeout
  else if status = 429 then .rateLimit
  else if status ∈ [500, 502, 503, 504, 529] then .overloaded
  else .upstream

/-- The statuses after which another target may be tried. -/
def retryableStatuses : List Nat := [408, 429, 500, 502, 503, 504, 529]

def providerMessage (crates : Crates) (environment : Environment) (status : Nat) (body : String) :
    String :=
  match (crates.fromStr body).toOption.bind fun value =>
      (value.pointer ["error", "message"]).bind Value.asStr with
  | some message => message
  | none => "HTTP " ++ environment.displayStatus status

def classifyStatus (crates : Crates) (environment : Environment) (status : Nat) (body : String)
    (retryAfter : Option Nat) : ProxyError :=
  { ProxyError.new (statusKind status)
      ("upstream rejected request: " ++
        truncate (providerMessage crates environment status body) 512) with
    isRetryable := status ∈ retryableStatuses
    retryAfterSeconds := retryAfter }

/-! ### Attempts -/

section Attempts

variable (crates : Crates) (environment : Environment)

/-- The header that `apply_auth` adds. -/
def authHeader (provider : Provider) (secret : String) : String × String :=
  match provider.kind, provider.credential with
  | _, .bearer _ => ("authorization", "Bearer " ++ secret)
  | .azureChat, .apiKey _ => ("api-key", secret)
  | .azureChat, .azureEntra _ => ("authorization", "Bearer " ++ secret)
  | _, .apiKey _ => ("authorization", "Bearer " ++ secret)
  | .openaiChat, .azureEntra _ => ("authorization", "Bearer " ++ secret)

/-- What the HTTP client of a provider puts on its requests: the configured headers, and that it accepts
anything unless one of them says otherwise. -/
def Provider.clientHeaders (provider : Provider) : Headers :=
  provider.headers.orElse [("accept", "*/*")]

/-- The request that `send` makes of a body and hands to the HTTP client. -/
def Provider.httpRequest (provider : Provider) (body : Value) : Except ProxyError HttpRequest := do
  let secret ← provider.credential.secret.resolve environment
  pure
    { url := chatCompletionsUrl provider.endpoint
      headers := Headers.orElse [("content-type", "application/json"), authHeader provider secret]
        provider.clientHeaders
      body := body }

/-- What `send` makes of a reply: an answer with a status of success is handed on unread. -/
def receive : Reply → Timed HttpResponse
  | .broken error => some (.error (classifyTransport error))
  | .answered response =>
      if 200 ≤ response.status ∧ response.status < 300 then some (.ok response)
      else response.text.map fun text =>
        .error (classifyStatus crates environment response.status text
          (response.retryAfter.bind parseU64))

def Provider.send (provider : Provider) (body : Value) (upstream : Upstream) : Timed HttpResponse :=
  Timed.andThen (some (provider.httpRequest environment body)) fun request =>
    match upstream.reply request with
    | none => none
    | some reply => receive crates environment reply

/-- The request body for a target. -/
def Provider.prepare (provider : Provider) (request : NormalizedRequest) (model : String)
    (stream : Bool) : Except ProxyError Value := do
  let adapted ← adaptRequest crates provider.capabilities request
  buildRequest crates provider.capabilities adapted model stream

def Provider.execute (provider : Provider) (request : NormalizedRequest) (model : String)
    (upstream : Upstream) : Timed AnthropicResponse :=
  Timed.andThen (some (provider.prepare crates request model false)) fun body =>
    Timed.andThen (provider.send crates environment body upstream) fun response =>
      response.json.map fun parsed =>
        match parsed with
        | .error error => .error (.new .upstream s!"provider returned invalid JSON: {error}")
        | .ok parsed => convertResponse crates parsed request.originalModel

def Provider.stream (order : IterationOrder) (provider : Provider) (request : NormalizedRequest)
    (model : String) (upstream : Upstream) :
    Timed (Feed (Except ProxyError ProviderEvent)) :=
  Timed.andThen (some (provider.prepare crates request model true)) fun body =>
    Timed.andThen (provider.send crates environment body upstream) fun response =>
      some (.ok (parseSse crates order response.chunks))

def Provider.countTokens (provider : Provider) (request : NormalizedRequest) :
    Except ProxyError Nat := do
  let adapted ← adaptRequest crates provider.capabilities request
  ClaudeProxy.countTokens crates environment adapted provider.capabilities.tokenizer

end Attempts

end ClaudeProxy
