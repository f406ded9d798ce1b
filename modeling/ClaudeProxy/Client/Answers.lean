/-
Module: ClaudeProxy.Client.Answers
Layer: Abstraction
Purpose: What a client understands of an answer, by what it asked for: a count of tokens, a whole
  message, a stream that opens a message and comes to its end, or a failure whose type fits its
  status. None of this is taken from the proxy's code.
Trusted boundary: human-reviewed specification
Main exports: Asked, Failure, WholeMessage, StreamedMessage, Understood, understand
-/
import ClaudeProxy.Anthropic.Deserialize
import ClaudeProxy.Client.Protocol
import ClaudeProxy.Server.Response

namespace ClaudeProxy

/-- What a client asks for. -/
inductive Asked where
  | count
  | whole
  | stream
deriving DecidableEq, Repr, Inhabited

/-- By its endpoint, and the `stream` of its body. -/
def ApiRequest.asked (request : ApiRequest) : Asked :=
  match request.endpoint with
  | .countTokens => .count
  | .messages =>
      match request.body.bind AnthropicRequest.fromText with
      | some parsed => if parsed.stream = true then .stream else .whole
      | none => .whole

/-- The model that it names. -/
def ApiRequest.model (request : ApiRequest) : Option String :=
  (request.body.bind AnthropicRequest.fromText).map AnthropicRequest.model

structure Failure where
  kind : String
  message : String
  requestId : Option String
deriving DecidableEq, Repr, Inhabited

structure WholeMessage where
  id : String
  model : String
  content : List OutputBlock
  stopReason : String
  usage : Usage
deriving Repr, Inhabited

/-- A message as it was opened, and as far as the client could rebuild it. -/
structure StreamedMessage where
  id : String
  model : String
  client : Client
  /-- The request that the error which broke it was reported for. -/
  brokenFor : Option String
deriving DecidableEq, Repr, Inhabited

inductive Understood where
  | failure (reported : Failure)
  | count (tokens : Nat)
  | whole (message : WholeMessage)
  | stream (message : StreamedMessage)
deriving Repr, Inhabited

/-! ### Reading -/

def readFailure (value : Value) : Option Failure := do
  guard (value.strAt "type" = some "error")
  let error ← value.get "error"
  pure
    { kind := ← error.strAt "type"
      message := ← error.strAt "message"
      requestId := value.strAt "request_id" }

/-- A type of error goes with one status, or is a fault of the server. -/
def Failure.fitsStatus (status : Nat) (reported : Failure) : Bool :=
  match reported.kind with
  | "invalid_request_error" => status = 400
  | "authentication_error" => status = 401
  | "permission_error" => status = 403
  | "rate_limit_error" => status = 429
  | "overloaded_error" | "api_error" => 500 ≤ status ∧ status < 600
  | _ => false

def readContentBlock (value : Value) : Option OutputBlock := do
  match ← value.strAt "type" with
  | "text" => pure (.text (← value.strAt "text"))
  | "tool_use" =>
      pure (.toolUse (← value.strAt "id") (← value.strAt "name") (← value.get "input"))
  | _ => none

def readWhole (value : Value) : Option WholeMessage := do
  guard (value.strAt "type" = some "message" ∧ value.strAt "role" = some "assistant")
  let content ← (value.get "content").bind Value.asArray
  pure
    { id := ← value.strAt "id"
      model := ← value.strAt "model"
      content := ← content.mapM readContentBlock
      stopReason := ← value.strAt "stop_reason"
      usage := ← (value.get "usage").bind readUsage }

/-- A stream that follows the protocol to one of its two ends. -/
def readStreamed (frames : List SseFrame) : Option StreamedMessage := do
  let client ← clientRun {} frames
  guard (client.phase = .stopped ∨ client.phase = .failed)
  let opening ← frames.head?
  pure
    { id := ← (opening.data.pointer ["message", "id"]).bind Value.asStr
      model := ← (opening.data.pointer ["message", "model"]).bind Value.asStr
      client := client
      brokenFor := if client.phase = .failed
        then frames.getLast?.bind (·.data.strAt "request_id") else none }

def ProxyResponse.hasType (contentType : String) (response : ProxyResponse) : Bool :=
  response.headers.lookup "content-type" == some contentType

/-- What a client that asked for it makes of an answer. -/
def understand (asked : Asked) (response : ProxyResponse) : Option Understood :=
  match response.body with
  | .json value => do
      guard (response.hasType "application/json" = true)
      if response.status = 200 then
        match asked with
        | .count => return .count (← (value.get "input_tokens").bind Value.asU64)
        | .whole => return .whole (← readWhole value)
        | .stream => none
      else
        let reported ← readFailure value
        guard (reported.fitsStatus response.status = true)
        return .failure reported
  | .text _ => none
  | .eventStream frames _ => do
      guard (response.hasType "text/event-stream" = true ∧ response.status = 200 ∧ asked = .stream)
      return .stream (← readStreamed frames)

/-- What a client understands is about its own request. A message has content and one of the known
stop reasons, unless an error broke it, and then the error names the request. -/
def Understood.IsFor (request : ApiRequest) : Understood → Prop
  | .failure reported => reported.requestId = some request.requestId
  | .count _ => True
  | .whole message =>
      some message.model = request.model ∧ message.content ≠ [] ∧
        ∃ reason : StopReason, message.stopReason = reason.asStr
  | .stream message =>
      message.id = request.messageId ∧ some message.model = request.model ∧
        ((message.client.phase = .stopped ∧ message.client.blocks ≠ [] ∧
            ∃ reason : StopReason, message.client.stopReason = some reason.asStr) ∨
          message.client.phase = .failed ∧ message.brokenFor = some request.requestId)

end ClaudeProxy
