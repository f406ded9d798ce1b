/-
Module: ClaudeProxy.Server.Endpoints
Layer: Model
Purpose: The two endpoints that take a request body (`messages_inner` and `count_tokens` in
  `src/server.rs`): `messages` up to the candidates of the router, and `count_tokens` whole, with
  nothing in between their steps. The request id on the answer is left out.
Trusted boundary: human-reviewed model
Main exports: validateVersion, Runtime.identify, Runtime.routed, Runtime.readMessages,
  Runtime.readCount, Served, Runtime.messages, Runtime.countTokens
-/
import ClaudeProxy.Anthropic.Deserialize
import ClaudeProxy.Anthropic.Normalize
import ClaudeProxy.Server.Runtime

namespace ClaudeProxy

/-- The errors of the JSON crates, as text: of a body that the extractor rejects, and of a value that
is no request. -/
structure JsonErrors where
  body : Option JsonText → String
  value : Value → String

/-! ### The head of a request -/

def validateVersion (config : AppConfig) (headers : HeaderMap) : Except ProxyError Unit :=
  if config.server.requireAnthropicVersion = false then .ok ()
  else
    match headers "anthropic-version" with
    | some version =>
        rejectIf (version ≠ "2023-06-01") (.invalid s!"unsupported anthropic-version {version}")
    | none => .error (.invalid "anthropic-version header is required")

/-- The client that a request comes from: its place in the registry, and what stands there. -/
def Runtime.identify (hashKey : String → Digest) (runtime : Runtime) (headers : HeaderMap) :
    Except ProxyError (Nat × ClientIdentity) := do
  validateVersion runtime.config headers
  let client ← runtime.auth.authenticate hashKey headers
  pure (client, runtime.auth[client]?.getD default)

/-! ### The body of a request -/

section Bodies

variable (crates : Crates) (errors : JsonErrors) (runtime : Runtime) (identity : ClientIdentity)

def permissionDenied : ProxyError := .new .permission "client is not allowed to use this route"

/-- The route that a request takes, in its normal form. -/
def Runtime.routed (request : AnthropicRequest) : Except ProxyError (Route × NormalizedRequest) := do
  let normalized ← normalize crates request runtime.config.server.looseInputValidation
  let route ← runtime.router.resolve normalized
  rejectIf (identity.allowsRoute route.id = false) permissionDenied
  pure (route, normalized)

/-- The body is `none` if it is no JSON text at all. -/
def Runtime.readMessages (body : Option JsonText) : Except ProxyError (Route × NormalizedRequest) := do
  let request ← orReject (body.bind AnthropicRequest.fromText)
    (.invalid s!"invalid JSON request: {errors.body body}")
  runtime.routed crates identity request

/-- The body is read as a value first, and two of its fields are replaced. -/
def Runtime.readCount (body : Option JsonText) : Except ProxyError (Route × NormalizedRequest) := do
  let value ← orReject (body.bind (readValue textDepth))
    (.invalid s!"invalid JSON request: {errors.body body}")
  let object ← orReject value.asObject (.invalid "request body must be an object")
  let object := Entries.insert "max_tokens" (.num 1) object
  let object := Entries.insert "stream" (.bool false) object
  let request ← orReject (AnthropicRequest.fromValue (.object object))
    (.invalid s!"invalid token count request: {errors.value (.object object)}")
  runtime.routed crates identity request

end Bodies

/-! ### The endpoints -/

/-- What an endpoint that does not panic comes to, and what it leaves behind. -/
structure Served (α : Type) where
  result : Except ProxyError α
  limits : Limits
  circuits : Circuits

section Endpoints

variable (crates : Crates) (environment : Environment) (hashKey : String → Digest)
  (errors : JsonErrors) (runtime : Runtime) (draws : Nat → Nat) (clock : Nat → Instant)
  (now : Instant) (limits : Limits) (circuits : Circuits) (headers : HeaderMap)
  (body : Option JsonText)

/-- `messages_inner` up to the candidates, for which the request's permits are held on. -/
def Runtime.messages : Option (Served (List Candidate)) :=
  match runtime.identify hashKey headers with
  | .error error => some { result := .error error, limits := limits, circuits := circuits }
  | .ok (client, identity) =>
      match limits.admission identity client now with
      | (.error error, limits) =>
          some { result := .error error, limits := limits, circuits := circuits }
      | (.ok _, limits) =>
          let released := limits.releaseGlobal.releasePermit client
          match runtime.readMessages crates errors identity body with
          | .error error =>
              some { result := .error error, limits := released, circuits := circuits }
          | .ok (route, request) =>
              match runtime.router.candidates crates draws clock circuits route request with
              | (_, none) => none
              | (circuits, some outcome) =>
                  some
                    { result := outcome
                      limits := if outcome.isOk = true then limits else released
                      circuits := circuits }

def Runtime.countTokens : Option (Served Value) :=
  match runtime.identify hashKey headers with
  | .error error => some { result := .error error, limits := limits, circuits := circuits }
  | .ok (client, identity) =>
      match identity.acquire now (limits.clients client) with
      | (.error error, after) =>
          some { result := .error error, limits := limits.set client after, circuits := circuits }
      | (.ok _, after) =>
          let released := (limits.set client after).releasePermit client
          match runtime.readCount crates errors identity body with
          | .error error =>
              some { result := .error error, limits := released, circuits := circuits }
          | .ok (route, request) =>
              match runtime.router.countTokens crates environment draws clock circuits route
                  request with
              | (_, none) => none
              | (circuits, some outcome) =>
                  some
                    { result := outcome.map fun tokens => .obj [("input_tokens", .num tokens)]
                      limits := released
                      circuits := circuits }

end Endpoints

end ClaudeProxy
