/-
Module: ClaudeProxy.Server.Response
Layer: Model
Purpose: What goes back to a client of the two endpoints: the id of a request (`request_id` and
  `set_request_id` in `src/server.rs`), the envelope of an error (`IntoResponse` in `src/error.rs`), the
  responses of `messages_inner` and `count_tokens`, and that of the layer around them that catches
  panics (`build_app`).
Trusted boundary: human-reviewed model
Main exports: ApiRequest, ApiRequest.requestId, ProxyResponse, ProxyError.envelope,
  ProxyError.intoResponse, jsonResponse, streamResponse, panicResponse, ApiRequest.respond
-/
import ClaudeProxy.Anthropic.Deserialize
import ClaudeProxy.Anthropic.Serialize
import ClaudeProxy.Provider.Send
import ClaudeProxy.Server.BodyStream
import ClaudeProxy.Server.Admission

namespace ClaudeProxy

/-! ### Requests -/

/-- A request, with the two numbers that are drawn for it: for its id, if it brings none, and for the
id of its message, if it streams. The body is `none` if it is no JSON text at all. -/
structure ApiRequest where
  endpoint : ApiEndpoint
  headers : HeaderMap
  body : Option JsonText
  requestUuid : String
  messageUuid : String

def isRequestIdChar (symbol : Char) : Bool := symbol.isAlphanum || symbol == '-' || symbol == '_'

def ApiRequest.requestId (request : ApiRequest) : String :=
  let drawn := s!"req_{request.requestUuid}"
  match request.headers "x-request-id" with
  | some value =>
      if value.utf8ByteSize ≤ 128 ∧ value.toList.all isRequestIdChar = true then value else drawn
  | none => drawn

def ApiRequest.messageId (request : ApiRequest) : String := s!"msg_{request.messageUuid}"

/-! ### Responses -/

/-- An event stream may be broken off by a panic after its frames. -/
inductive ResponseBody where
  | json (value : Value)
  | text (text : String)
  | eventStream (frames : List SseFrame) (brokenOff : Bool)

structure ProxyResponse where
  status : Nat := 200
  headers : Headers
  body : ResponseBody

/-- `ErrorEnvelope`. -/
def ProxyError.envelope (error : ProxyError) : Value :=
  .obj ([("type", .string "error"),
      ("error", .obj
        [("type", .string error.anthropicType), ("message", .string error.message)])] ++
    match error.requestId with
    | some requestId => [("request_id", .string requestId)]
    | none => [])

def jsonHeaders : Headers := [("content-type", "application/json")]

def ProxyError.intoResponse (error : ProxyError) : ProxyResponse where
  status := error.status
  headers := match error.retryAfterSeconds with
    | some seconds => jsonHeaders.insert "retry-after" (toString seconds)
    | none => jsonHeaders
  body := .json error.envelope

/-- `Json(value).into_response()`. -/
def jsonResponse (value : Value) : ProxyResponse where
  headers := jsonHeaders
  body := .json value

def streamResponse (frames : List SseFrame) (brokenOff : Bool) : ProxyResponse where
  headers := [("content-type", "text/event-stream"), ("cache-control", "no-cache"),
    ("x-accel-buffering", "no")]
  body := .eventStream frames brokenOff

/-- The response of `CatchPanicLayer`. -/
def panicResponse : ProxyResponse where
  status := 500
  headers := [("content-type", "text/plain; charset=utf-8")]
  body := .text "Service panicked"

/-- The id goes into two headers, if it can stand in one. -/
def setRequestId (environment : Environment) (requestId : String) (response : ProxyResponse) :
    ProxyResponse :=
  if environment.isHeaderValue requestId = true then
    { response with
      headers :=
        (response.headers.insert "request-id" requestId).insert "x-request-id" requestId }
  else response

/-- What the handlers make of the outcome of their inner part, which is `none` if it panicked. -/
def ApiRequest.respond (environment : Environment) (request : ApiRequest)
    (outcome : Option (Except ProxyError ProxyResponse)) : ProxyResponse :=
  match outcome with
  | some (.ok response) => setRequestId environment request.requestId response
  | some (.error error) => (error.withRequestId request.requestId).intoResponse
  | none => panicResponse

end ClaudeProxy
