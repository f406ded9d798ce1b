/-
Module: ClaudeProxy.Client.Protocol
Layer: Abstraction
Purpose: What a message stream is for, stated from the client's side. `readFrame` is how a client
  reads one server-sent event, and `clientStep` is the protocol as a partial step function: it is
  undefined on a frame that the lifecycle forbids at that point, and otherwise adds the frame to the
  message that the client rebuilds. None of this is taken from the proxy's code.
Trusted boundary: human-reviewed specification
Main exports: ClientBlock, ClientFrame, readFrame, Phase, Client, clientStep, clientRun, Lifecycle
-/
import ClaudeProxy.Anthropic.StreamEncoder
import Mathlib.Data.Option.Basic

namespace ClaudeProxy

/-- A content block as the client rebuilds it. The input of a tool is the JSON text received so
far. -/
inductive ClientBlock where
  | text (text : String)
  | toolUse (id name partialJson : String)
deriving DecidableEq, Repr, Inhabited

/-- One increment of a content block. -/
inductive ClientDelta where
  | text (text : String)
  | inputJson (partialJson : String)
deriving DecidableEq, Repr, Inhabited

/-- A frame as a client understands it. -/
inductive ClientFrame where
  | messageStart (usage : Usage)
  | blockStart (index : Nat) (block : ClientBlock)
  | blockDelta (index : Nat) (delta : ClientDelta)
  | blockStop (index : Nat)
  | messageDelta (stopReason : String) (outputTokens : Nat)
  | messageStop
  | error (message : String)
deriving DecidableEq, Repr, Inhabited

def readUsage (value : Value) : Option Usage := do
  let input ← (value.get "input_tokens").bind Value.asU64
  let output ← (value.get "output_tokens").bind Value.asU64
  pure { inputTokens := input, outputTokens := output }

def readBlock (value : Value) : Option ClientBlock := do
  match ← value.strAt "type" with
  | "text" => pure (.text (← value.strAt "text"))
  | "tool_use" => pure (.toolUse (← value.strAt "id") (← value.strAt "name") "")
  | _ => none

def readDelta (value : Value) : Option ClientDelta := do
  match ← value.strAt "type" with
  | "text_delta" => pure (.text (← value.strAt "text"))
  | "input_json_delta" => pure (.inputJson (← value.strAt "partial_json"))
  | _ => none

/-- Read a frame by the `type` of its data, which must be the name of the event. -/
def readFrame (frame : SseFrame) : Option ClientFrame := do
  let data := frame.data
  let kind ← data.strAt "type"
  guard (kind = frame.event)
  match kind with
  | "message_start" => pure (.messageStart (← (data.pointer ["message", "usage"]).bind readUsage))
  | "content_block_start" =>
      pure (.blockStart (← (data.get "index").bind Value.asU64)
        (← (data.get "content_block").bind readBlock))
  | "content_block_delta" =>
      pure (.blockDelta (← (data.get "index").bind Value.asU64)
        (← (data.get "delta").bind readDelta))
  | "content_block_stop" => pure (.blockStop (← (data.get "index").bind Value.asU64))
  | "message_delta" =>
      pure (.messageDelta (← (data.pointer ["delta", "stop_reason"]).bind Value.asStr)
        (← (data.pointer ["usage", "output_tokens"]).bind Value.asU64))
  | "message_stop" => pure .messageStop
  | "error" => pure (.error (← (data.pointer ["error", "message"]).bind Value.asStr))
  | _ => none

/-- Where a client stands in the lifecycle of a message. -/
inductive Phase where
  /-- Before `message_start`. -/
  | unopened
  /-- The message is open and no content block is. -/
  | between
  /-- The last of the blocks is open. -/
  | inside
  /-- After `message_delta`. -/
  | closing
  /-- After `message_stop`: a complete message. -/
  | stopped
  /-- After an error: a broken message. -/
  | failed
deriving DecidableEq, Repr, Inhabited

/-- A client: its phase and the message it has rebuilt. Block `i` of the message is `blocks[i]`. -/
structure Client where
  phase : Phase := .unopened
  blocks : List ClientBlock := []
  stopReason : Option String := none
  usage : Usage := ⟨0, 0⟩
deriving DecidableEq, Repr, Inhabited

/-- A delta extends only a block of its own kind. -/
def ClientBlock.extend : ClientBlock → ClientDelta → Option ClientBlock
  | .text held, .text more => some (.text (held ++ more))
  | .toolUse id name held, .inputJson more => some (.toolUse id name (held ++ more))
  | _, _ => none

/-- The lifecycle. A block starts only while none is open, with the next number; a delta carries the
number of the open block and its kind; a message is closed only while no block is open and at least
one is present; an error may come at any point before the closing, and nothing follows it or
`message_stop`. -/
def clientStep (client : Client) : ClientFrame → Option Client
  | .messageStart usage => do
      guard (client.phase = .unopened)
      pure { client with phase := .between, usage := usage }
  | .blockStart index block => do
      guard (client.phase = .between ∧ index = client.blocks.length)
      pure { client with phase := .inside, blocks := client.blocks ++ [block] }
  | .blockDelta index delta => do
      guard (client.phase = .inside ∧ index + 1 = client.blocks.length)
      let block ← client.blocks.getLast?
      let extended ← block.extend delta
      pure { client with blocks := client.blocks.dropLast ++ [extended] }
  | .blockStop index => do
      guard (client.phase = .inside ∧ index + 1 = client.blocks.length)
      pure { client with phase := .between }
  | .messageDelta stopReason outputTokens => do
      guard (client.phase = .between ∧ client.blocks ≠ [])
      pure { client with
        phase := .closing
        stopReason := some stopReason
        usage := { client.usage with outputTokens := outputTokens } }
  | .messageStop => do
      guard (client.phase = .closing)
      pure { client with phase := .stopped }
  | .error _ => do
      guard (client.phase = .between ∨ client.phase = .inside)
      pure { client with phase := .failed }

/-- A client reading a whole stream. -/
def clientRun (client : Client) (frames : List SseFrame) : Option Client :=
  frames.foldlM (fun client frame => (readFrame frame).bind (clientStep client)) client

/-- A stream that follows the lifecycle from its first frame and comes to one of its two ends. -/
def Lifecycle (frames : List SseFrame) : Prop :=
  ∃ client, clientRun {} frames = some client ∧
    (client.phase = .stopped ∨ client.phase = .failed)

theorem clientRun_append (client : Client) (first second : List SseFrame) :
    clientRun client (first ++ second) =
      (clientRun client first).bind fun middle => clientRun middle second := by
  simp [clientRun, List.foldlM_append]

@[simp] theorem clientRun_nil (client : Client) : clientRun client [] = some client := rfl

theorem clientRun_cons {frame : SseFrame} {read : ClientFrame} (reads : readFrame frame = some read)
    (client : Client) (rest : List SseFrame) :
    clientRun client (frame :: rest) =
      (clientStep client read).bind fun next => clientRun next rest := by
  simp [clientRun, reads]

namespace StreamEncoder

/-! ### How a client reads the encoder's frames -/

section Reading

attribute [local simp] readFrame sseEvent Value.strAt Value.pointer guard failure

@[simp] theorem readFrame_messageStart (messageId model : String) (inputTokens : Nat) :
    readFrame (messageStart messageId model inputTokens) =
      some (.messageStart ⟨inputTokens, 0⟩) := by
  simp [messageStart, readUsage]

@[simp] theorem readFrame_textBlockStart (index : Nat) :
    readFrame (textBlockStart index) = some (.blockStart index (.text "")) := by
  simp [textBlockStart, contentBlockStart, readBlock]

@[simp] theorem readFrame_textDelta (index : Nat) (text : String) :
    readFrame (textDelta index text) = some (.blockDelta index (.text text)) := by
  simp [textDelta, contentBlockDelta, readDelta]

@[simp] theorem readFrame_toolBlockStart (index : Nat) (tool : BufferedTool) :
    readFrame (toolBlockStart index tool) =
      some (.blockStart index (.toolUse tool.id tool.name "")) := by
  simp [toolBlockStart, contentBlockStart, readBlock]

@[simp] theorem readFrame_inputJsonDelta (index : Nat) (arguments : String) :
    readFrame (inputJsonDelta index arguments) =
      some (.blockDelta index (.inputJson arguments)) := by
  simp [inputJsonDelta, contentBlockDelta, readDelta]

@[simp] theorem readFrame_contentBlockStop (index : Nat) :
    readFrame (contentBlockStop index) = some (.blockStop index) := by
  simp [contentBlockStop]

@[simp] theorem readFrame_messageDelta (reason : StopReason) (outputTokens : Nat) :
    readFrame (messageDelta reason outputTokens) =
      some (.messageDelta reason.asStr outputTokens) := by
  simp [messageDelta]

@[simp] theorem readFrame_messageStop : readFrame messageStop = some .messageStop := by
  simp [messageStop]

end Reading

end StreamEncoder

end ClaudeProxy
