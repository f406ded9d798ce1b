/-
Module: ClaudeProxy.Server.BodyStream
Layer: Model
Purpose: The response body of a streaming request: the stream that `Router::stream` wraps around a
  provider's events (`src/routing.rs`), the loop of `messages_inner` that encodes it
  (`src/server.rs`), and their composition with the decoder.
Trusted boundary: human-reviewed model
Main exports: CircuitReport, Provider.report, Forwarded, forwardEvents, streamError, bodyStream,
  StreamRequest, messageFrames, servedFrames
-/
import ClaudeProxy.Anthropic.StreamEncoder
import ClaudeProxy.Provider.Send

namespace ClaudeProxy

open Library

/-- What the wrapped stream reports to the circuit of its provider. -/
inductive CircuitReport where
  | success
  | failure (error : ProxyError)
deriving DecidableEq, Repr, Inhabited

/-- `record_success` or `record_failure`; `none` if it panics. -/
def Provider.report (provider : Provider) (now : Instant) (report : CircuitReport)
    (circuits : Circuits) : Option Unit × Circuits :=
  match report with
  | .success => provider.recordSuccess circuits
  | .failure error => provider.recordFailure now error circuits

/-- What the stream that `Router::stream` returns comes to: its items, the report that it makes at its
end, if it comes to that, the circuits then, and whether the report panics. A panic breaks the stream
off, so that nothing follows, and it goes on through whoever reads it. -/
structure Forwarded where
  feed : Feed (Except ProxyError ProviderEvent)
  report : Option CircuitReport
  circuits : Circuits
  panicked : Bool := false

/-- The stream around a provider's events: it stops after the first error, which it records before it
yields it, and records a success when the upstream stream ends. -/
def forwardEvents (provider : Provider) (now : Instant) (circuits : Circuits) :
    List (Except ProxyError ProviderEvent) → Tail → Forwarded
  | [], .closed =>
      let (returned, circuits) := provider.recordSuccess circuits
      { feed := ⟨[], .closed⟩
        report := some .success
        circuits := circuits
        panicked := returned.isNone }
  | [], .pending => { feed := ⟨[], .pending⟩, report := none, circuits := circuits }
  | .error error :: _, _ =>
      match provider.recordFailure now error circuits with
      | (some _, circuits) =>
          { feed := ⟨[.error error], .closed⟩
            report := some (.failure error)
            circuits := circuits }
      | (none, circuits) =>
          { feed := ⟨[], .closed⟩
            report := some (.failure error)
            circuits := circuits
            panicked := true }
  | .ok event :: rest, tail =>
      let later := forwardEvents provider now circuits rest tail
      { later with feed := ⟨.ok event :: later.feed.items, later.feed.tail⟩ }

def streamError (error : ProxyError) (requestId : String) : SseFrame :=
  sseEvent "error" (.obj
    [("type", .string "error"),
      ("error", .obj
        [("type", .string error.anthropicType), ("message", .string error.message)]),
      ("request_id", .string requestId)])

def idleTimeout : ProxyError := ProxyError.new .timeout "upstream stream idle timeout"

/-- The loop of `body_stream`: encode events until the stream ends, fails, or stays silent past the
idle timeout. -/
def encodeEvents (requestId : String) (encoder : StreamEncoder) :
    List (Except ProxyError ProviderEvent) → Tail → List SseFrame
  | [], .closed => []
  | [], .pending => [streamError idleTimeout requestId]
  | .error error :: _, _ => [streamError error requestId]
  | .ok event :: rest, tail =>
      let (encoder, frames) := encoder.encode event
      frames ++ encodeEvents requestId encoder rest tail

/-- What a streaming answer carries besides the events: the generated message id, the model the
client named, the id of its request and the estimate of its input tokens. -/
structure StreamRequest where
  messageId : String
  model : String
  requestId : String
  inputTokens : Nat
deriving Repr, Inhabited

/-- `body_stream` of `messages_inner`. -/
def bodyStream (request : StreamRequest) (upstream : Feed (Except ProxyError ProviderEvent)) :
    List SseFrame :=
  let (encoder, start) := StreamEncoder.new request.messageId request.model request.inputTokens
  start :: encodeEvents request.requestId encoder upstream.items upstream.tail

/-- `parse_sse` followed by the loop of `body_stream`: what a client receives for one response body of
the provider, where the report on it at the provider's circuit returns. -/
def messageFrames (crates : Crates) (order : IterationOrder) (request : StreamRequest)
    (input : Feed (Except TransportError Bytes)) : List SseFrame :=
  bodyStream request (parseSse crates order input)

/-- Everything a client receives for one response body of a provider that ends at a time, with the
stream of `Router::stream` between the two. -/
def servedFrames (crates : Crates) (order : IterationOrder) (request : StreamRequest)
    (provider : Provider) (now : Instant) (circuits : Circuits)
    (input : Feed (Except TransportError Bytes)) : List SseFrame :=
  let events := parseSse crates order input
  bodyStream request (forwardEvents provider now circuits events.items events.tail).feed

end ClaudeProxy
