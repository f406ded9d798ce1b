/-
Module: ClaudeProxy.Anthropic.StreamEncoder
Layer: Model
Purpose: The encoder of provider events as Anthropic server-sent events (`sse_event` and
  `StreamEncoder` in `src/anthropic.rs`). A frame is kept as its event name and its JSON data;
  `SseFrame.render` is the text that `sse_event` makes of it.
Trusted boundary: human-reviewed model
Main exports: SseFrame, sseEvent, BufferedTool, StreamEncoder, StreamEncoder.new,
  StreamEncoder.encode
-/
import ClaudeProxy.Domain
import Std.Data.TreeMap.Lemmas

namespace ClaudeProxy

/-- One server-sent event. -/
structure SseFrame where
  event : String
  data : Value
deriving Repr, Inhabited

def sseEvent (event : String) (data : Value) : SseFrame := ⟨event, data⟩

/-- The text of a frame. -/
def SseFrame.render (crates : Crates) (frame : SseFrame) : String :=
  s!"event: {frame.event}\ndata: {crates.toJson frame.data}\n\n"

structure BufferedTool where
  id : String
  name : String
  arguments : String
deriving DecidableEq, Repr, Inhabited

structure StreamEncoder where
  nextBlock : Nat
  textBlock : Option Nat
  tools : Std.TreeMap Nat BufferedTool
  inputTokens : Nat
  outputTokens : Nat

namespace StreamEncoder

/-! ### The frames the encoder writes -/

def messageStart (messageId model : String) (inputTokens : Nat) : SseFrame :=
  sseEvent "message_start" (.obj
    [("type", .string "message_start"),
      ("message", .obj
        [("id", .string messageId), ("type", .string "message"), ("role", .string "assistant"),
          ("model", .string model), ("content", .array []), ("stop_reason", .null),
          ("stop_sequence", .null),
          ("usage", .obj [("input_tokens", .num inputTokens), ("output_tokens", .num 0)])])])

def contentBlockStart (index : Nat) (block : Value) : SseFrame :=
  sseEvent "content_block_start" (.obj
    [("type", .string "content_block_start"), ("index", .num index), ("content_block", block)])

def contentBlockDelta (index : Nat) (delta : Value) : SseFrame :=
  sseEvent "content_block_delta" (.obj
    [("type", .string "content_block_delta"), ("index", .num index), ("delta", delta)])

def contentBlockStop (index : Nat) : SseFrame :=
  sseEvent "content_block_stop" (.obj
    [("type", .string "content_block_stop"), ("index", .num index)])

def textBlockStart (index : Nat) : SseFrame :=
  contentBlockStart index (.obj [("type", .string "text"), ("text", .string "")])

def textDelta (index : Nat) (text : String) : SseFrame :=
  contentBlockDelta index (.obj [("type", .string "text_delta"), ("text", .string text)])

def toolBlockStart (index : Nat) (tool : BufferedTool) : SseFrame :=
  contentBlockStart index (.obj
    [("type", .string "tool_use"), ("id", .string tool.id), ("name", .string tool.name),
      ("input", .obj [])])

def inputJsonDelta (index : Nat) (arguments : String) : SseFrame :=
  contentBlockDelta index (.obj
    [("type", .string "input_json_delta"), ("partial_json", .string arguments)])

def messageDelta (reason : StopReason) (outputTokens : Nat) : SseFrame :=
  sseEvent "message_delta" (.obj
    [("type", .string "message_delta"),
      ("delta", .obj [("stop_reason", .string reason.asStr), ("stop_sequence", .null)]),
      ("usage", .obj [("output_tokens", .num outputTokens)])])

def messageStop : SseFrame :=
  sseEvent "message_stop" (.obj [("type", .string "message_stop")])

/-! ### The encoder -/

/-- `StreamEncoder::new`: the encoder and the frame that opens the stream. -/
def new (messageId model : String) (inputTokens : Nat) : StreamEncoder × SseFrame :=
  ({ nextBlock := 0, textBlock := none, tools := ∅, inputTokens := inputTokens, outputTokens := 0 },
    messageStart messageId model inputTokens)

/-- The three frames of a buffered tool. -/
def toolFrames (index : Nat) (tool : BufferedTool) : List SseFrame :=
  [toolBlockStart index tool, inputJsonDelta index tool.arguments, contentBlockStop index]

/-- The loop over `self.tools.values()`, numbering the blocks from `next`. -/
def encodeTools (next : Nat) : List BufferedTool → Nat × List SseFrame
  | [] => (next, [])
  | tool :: rest =>
      let (last, frames) := encodeTools (next + 1) rest
      (last, toolFrames next tool ++ frames)

/-- `self.tools.values()`, in key order. -/
def bufferedTools (encoder : StreamEncoder) : List BufferedTool :=
  encoder.tools.toList.map Prod.snd

def encodeText (encoder : StreamEncoder) (text : String) : StreamEncoder × List SseFrame :=
  match encoder.textBlock with
  | some index => (encoder, [textDelta index text])
  | none =>
      let index := encoder.nextBlock
      ({ encoder with nextBlock := index + 1, textBlock := some index },
        [textBlockStart index, textDelta index text])

def recordUsage (encoder : StreamEncoder) (usage : Usage) : StreamEncoder :=
  { encoder with inputTokens := usage.inputTokens, outputTokens := usage.outputTokens }

/-- The usage that `Finished` carries, if it carries one. -/
def recordFinalUsage (encoder : StreamEncoder) : Option Usage → StreamEncoder
  | some usage => encoder.recordUsage usage
  | none => encoder

@[simp] theorem recordFinalUsage_textBlock (encoder : StreamEncoder) (usage : Option Usage) :
    (encoder.recordFinalUsage usage).textBlock = encoder.textBlock := by
  cases usage <;> rfl

@[simp] theorem recordFinalUsage_nextBlock (encoder : StreamEncoder) (usage : Option Usage) :
    (encoder.recordFinalUsage usage).nextBlock = encoder.nextBlock := by
  cases usage <;> rfl

@[simp] theorem recordFinalUsage_tools (encoder : StreamEncoder) (usage : Option Usage) :
    (encoder.recordFinalUsage usage).tools = encoder.tools := by
  cases usage <;> rfl

@[simp] theorem recordFinalUsage_outputTokens (encoder : StreamEncoder) (usage : Option Usage) :
    (encoder.recordFinalUsage usage).outputTokens =
      (usage.map Usage.outputTokens).getD encoder.outputTokens := by
  cases usage <;> rfl

/-- `if let Some(index) = self.text_block`: the text block is still open at the end. -/
def closeText (encoder : StreamEncoder) : List SseFrame :=
  match encoder.textBlock with
  | some index => [contentBlockStop index]
  | none => []

/-- An answer with neither text nor tools gets an empty text block. Returns the next block number
too. -/
def placeholder (encoder : StreamEncoder) : Nat × List SseFrame :=
  if encoder.textBlock.isNone && encoder.tools.isEmpty then
    (encoder.nextBlock + 1,
      [textBlockStart encoder.nextBlock, contentBlockStop encoder.nextBlock])
  else (encoder.nextBlock, [])

def encodeFinished (encoder : StreamEncoder) (reason : StopReason) (usage : Option Usage) :
    StreamEncoder × List SseFrame :=
  let encoder := encoder.recordFinalUsage usage
  let (next, placeholder) := encoder.placeholder
  let (last, tools) := encodeTools next encoder.bufferedTools
  ({ encoder with nextBlock := last },
    encoder.closeText ++ (placeholder ++ (tools ++
      [messageDelta reason encoder.outputTokens, messageStop])))

def encode (encoder : StreamEncoder) : ProviderEvent → StreamEncoder × List SseFrame
  | .text text => encoder.encodeText text
  | .toolStart index id name =>
      ({ encoder with
          tools := encoder.tools.insert index { id := id, name := name, arguments := "" } }, [])
  | .toolDelta index arguments =>
      match encoder.tools[index]? with
      | some tool =>
          ({ encoder with
              tools := encoder.tools.insert index
                { tool with arguments := tool.arguments ++ arguments } }, [])
      | none => (encoder, [])
  | .usage usage => (encoder.recordUsage usage, [])
  | .finished reason usage => encoder.encodeFinished reason usage

end StreamEncoder

end ClaudeProxy
