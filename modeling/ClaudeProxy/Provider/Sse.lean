/-
Module: ClaudeProxy.Provider.Sse
Layer: Model
Purpose: The decoder of a provider's event stream (`parse_sse` in `src/provider.rs`): bytes are cut
  into lines, data lines are parsed as JSON chunks, and the chunks drive a table of partly streamed
  tool calls. The variables of the source that live across chunks are the fields of `Decoder`; its
  byte buffer is the buffer of the library's `pump`.
Trusted boundary: human-reviewed model
Main exports: TransportError, classifyTransport, mapStopReason, StreamedTool, IterationOrder,
  validateStreamedTools, Decoder, decodeCall, decodeChoice, decodeChunk, decodeLine, parseSse
-/
import ClaudeProxy.Domain
import ClaudeProxy.Library.LineReader
import ClaudeProxy.Library.Text
import Mathlib.Data.List.AList

namespace ClaudeProxy

open Library

/-- What the code asks of a `reqwest::Error`: its class and its text. -/
structure TransportError where
  isConnect : Bool
  isTimeout : Bool
  text : String
deriving DecidableEq, Repr, Inhabited

def classifyTransport (error : TransportError) : ProxyError :=
  if error.isConnect then
    (ProxyError.new .upstream s!"upstream connection failure: {error.text}").withRetryable
  else if error.isTimeout then
    ProxyError.new .timeout "upstream request timed out"
  else
    ProxyError.new .upstream s!"upstream transport failure: {error.text}"

def mapStopReason : Option String → Except ProxyError StopReason
  | some "stop" | none => .ok .endTurn
  | some "length" => .ok .maxTokens
  | some "tool_calls" | some "function_call" => .ok .toolUse
  | some "content_filter" => .ok .refusal
  | some other => .error (ProxyError.new .upstream s!"unknown provider finish reason {other}")

structure StreamedTool where
  id : String := ""
  name : String := ""
  arguments : String := ""
  started : Bool := false
deriving DecidableEq, Repr, Inhabited

/-- `HashMap<usize, StreamedTool>`. -/
abbrev ToolTable := AList fun _ : Nat => StreamedTool

/-- The order in which a `HashMap` hands out its values. The standard library leaves it unspecified
and seeds every map anew, so it may be any rearrangement of the values, and another one in another
run. -/
structure IterationOrder where
  visit : List StreamedTool → List StreamedTool
  perm : ∀ tools, (visit tools).Perm tools

/-- The variables that `parse_sse` keeps from one line to the next. -/
structure Decoder where
  tools : ToolTable := ∅
  finalUsage : Option Usage := none
  finalReason : Option StopReason := none

def ToolTable.values (tools : ToolTable) : List StreamedTool :=
  tools.entries.map fun entry => entry.snd

/-- The errors of `validate_streamed_tools`. -/
def incompleteToolCall : ProxyError :=
  ProxyError.new .upstream "provider returned an incomplete streamed tool call"

def invalidToolJson : ProxyError :=
  ProxyError.new .upstream "provider returned invalid streamed tool-call JSON"

section Decoding

variable (crates : Crates) (order : IterationOrder)

/-- The body of the loop of `validate_streamed_tools`. -/
def validateStreamedTool (tool : StreamedTool) : Except ProxyError Unit :=
  if tool.started = false then .error incompleteToolCall
  else
    match crates.fromStr tool.arguments with
    | .ok _ => .ok ()
    | .error _ => .error invalidToolJson

def validateStreamedTools (tools : ToolTable) : Except ProxyError Unit :=
  (order.visit tools.values).forM (validateStreamedTool crates)

/-- The two exits of the decoder, at `[DONE]` and at the end of the body, differ in the message they
use when no finish reason was seen. -/
def finish (state : Decoder) (missing : String) : Gen ProxyError ProviderEvent Unit := do
  Gen.ofExcept (validateStreamedTools crates order state.tools)
  match state.finalReason with
  | none => Gen.fail (ProxyError.new .upstream missing)
  | some reason => Gen.yield (.finished reason state.finalUsage)

/-- `tool.id.push_str` and `tool.name.push_str`, where the fragment carries them. -/
def StreamedTool.pushIdentity (tool : StreamedTool) (call : Value) : StreamedTool :=
  { tool with
    id := tool.id ++ (call.strAt "id").getD ""
    name := tool.name ++ ((call.pointer ["function", "name"]).bind Value.asStr).getD "" }

/-- Announce a tool as soon as it has an id and a name, together with the arguments held back so
far. -/
def announce (index : Nat) (tool : StreamedTool) : Gen ProxyError ProviderEvent StreamedTool :=
  if tool.started = false ∧ tool.id ≠ "" ∧ tool.name ≠ "" then do
    Gen.yield (.toolStart index tool.id tool.name)
    Gen.yieldIf (tool.arguments ≠ "") (.toolDelta index tool.arguments)
    pure { tool with started := true }
  else pure tool

/-- `tool.arguments.push_str`, passed on at once when the tool has been announced. -/
def pushArguments (index : Nat) (tool : StreamedTool) (call : Value) :
    Gen ProxyError ProviderEvent StreamedTool :=
  match (call.pointer ["function", "arguments"]).bind Value.asStr with
  | none => pure tool
  | some arguments => do
      Gen.yieldIf (tool.started = true) (.toolDelta index arguments)
      pure { tool with arguments := tool.arguments ++ arguments }

/-- One element of `delta.tool_calls`. -/
def decodeCall (tools : ToolTable) (call : Value) : Gen ProxyError ProviderEvent ToolTable :=
  match (call.get "index").bind Value.asU64 with
  | none => Gen.fail (ProxyError.new .upstream "streamed tool call lacks index")
  | some index => do
      let tool ← announce index (((tools.lookup index).getD {}).pushIdentity call)
      let tool ← pushArguments index tool call
      pure (tools.insert index tool)

/-- The usage a chunk reports, if it reports both numbers. -/
def chunkUsage (chunk : Value) : Option Usage := do
  let usage ← (chunk.get "usage").filter fun usage => !usage.isNull
  let input ← (usage.get "prompt_tokens").bind Value.asU64
  let output ← (usage.get "completion_tokens").bind Value.asU64
  pure { inputTokens := input, outputTokens := output }

def decodeUsage (state : Decoder) (chunk : Value) : Gen ProxyError ProviderEvent Decoder :=
  match chunkUsage chunk with
  | none => pure state
  | some usage => do
      Gen.yield (.usage usage)
      pure { state with finalUsage := some usage }

/-- The text fragment of a choice, if it has a non-empty one. -/
def decodeContent (choice : Value) : Gen ProxyError ProviderEvent Unit :=
  match (choice.pointer ["delta", "content"]).bind Value.asStr with
  | none => pure ()
  | some content => Gen.yieldIf (content ≠ "") (.text content)

/-- The tool call fragments of a choice. -/
def choiceCalls (choice : Value) : List Value :=
  ((choice.pointer ["delta", "tool_calls"]).bind Value.asArray).getD []

/-- The finish reason of a choice, if it has one. -/
def decodeReason (state : Decoder) (choice : Value) : Gen ProxyError ProviderEvent Decoder :=
  match choice.strAt "finish_reason" with
  | none => pure state
  | some reason => do
      let reason ← Gen.ofExcept (mapStopReason (some reason))
      pure { state with finalReason := some reason }

def decodeChoice (state : Decoder) (choice : Value) : Gen ProxyError ProviderEvent Decoder := do
  decodeContent choice
  let tools ← (choiceCalls choice).foldlM decodeCall state.tools
  decodeReason { state with tools := tools } choice

def chunkChoices (chunk : Value) : List Value :=
  ((chunk.get "choices").bind Value.asArray).getD []

def decodeChunk (state : Decoder) (chunk : Value) : Gen ProxyError ProviderEvent Decoder := do
  let state ← decodeUsage state chunk
  (chunkChoices chunk).foldlM decodeChoice state

/-- `line.pop()` for the carriage return of a CRLF line ending. -/
def popCarriageReturn (line : Bytes) : Bytes :=
  if line.getLast? = some 13 then line.dropLast else line

/-- The payload of a decoded line; `none` for a line the decoder passes over. -/
def textData (text : String) : Option String :=
  match (stripPrefix "data:" text).map trim with
  | none => none
  | some data => if data = "" then none else some data

def lineData (line : Bytes) : Except ProxyError (Option String) :=
  match fromUtf8 (popCarriageReturn line) with
  | none => .error (ProxyError.new .upstream "provider stream is not UTF-8")
  | some text => .ok (textData text)

/-- What a non-empty payload does. -/
def decodeData (state : Decoder) (data : String) :
    Gen ProxyError ProviderEvent (Flow Decoder) :=
  if data = "[DONE]" then do
    finish crates order state "provider stream ended without a finish reason"
    pure .done
  else
    match crates.fromStr data with
    | .error error =>
        Gen.fail (ProxyError.new .upstream s!"invalid provider SSE JSON: {error}")
    | .ok chunk => do
        let state ← decodeChunk state chunk
        pure (.next state)

/-- The body of the inner loop of `parse_sse`, on a line without its line feed. -/
def decodeLine (state : Decoder) (line : Bytes) : Gen ProxyError ProviderEvent (Flow Decoder) := do
  match ← Gen.ofExcept (lineData line) with
  | none => pure (.next state)
  | some data => decodeData crates order state data

def lineFeed : UInt8 := 10

/-- `parse_sse`. Its input is the response body: chunks, each of which may instead be a transport
error, and then the end of the body or a connection that stays silent. -/
def parseSse (input : Feed (Except TransportError Bytes)) : Feed (Except ProxyError ProviderEvent) :=
  Gen.toFeed do
    let chunks := input.items.map fun chunk => chunk.mapError classifyTransport
    match ← pump (decodeLine crates order) lineFeed {} [] chunks with
    | .done => pure .closed
    | .next (state, _) =>
        match input.tail with
        | .pending => pure .pending
        | .closed => do
            finish crates order state "provider stream terminated before completion"
            pure .closed

end Decoding

end ClaudeProxy
