/-
Module: ClaudeProxy.Proofs.StreamLifecycle
Layer: Proofs
Purpose: A client always receives a stream that follows the message lifecycle. The decoder yields
  `Finished` at most once and as its last event, whatever bytes it is fed (`parseSse_shape`); the
  encoder keeps step with the client that reads its frames (`Mirrors`); together the frames of every
  response body are accepted by the client protocol and come to one of its two ends. Between the two
  stands the stream of `Router::stream`, which records a failure before it passes it on: if that
  panics, the message stops without an end.
Trusted boundary: none
Main exports: StreamShape, parseSse_shape, Mirrors, encode_mirrors, encodeFinished_run,
  bodyStream_lifecycle, Recordable, servedFrames_of_recordable, servedFrames_lifecycle_iff
-/
import ClaudeProxy.Client.Protocol
import ClaudeProxy.Proofs.Fallback
import ClaudeProxy.Proofs.Framing

namespace ClaudeProxy

open Library

/-! ### The decoder yields `Finished` last or not at all -/

def ProviderEvent.IsFinished : ProviderEvent → Prop
  | .finished _ _ => True
  | _ => False

/-- An event that leaves the stream open. -/
abbrev ProviderEvent.Open (event : ProviderEvent) : Prop := ¬ event.IsFinished

section Decoder

variable (crates : Crates) (order : IterationOrder)

theorem pushArguments_yields {holds : ProviderEvent → Prop}
    (ofDelta : ∀ index arguments, holds (.toolDelta index arguments)) (index : Nat)
    (tool : StreamedTool) (call : Value) : Gen.Yields holds (pushArguments index tool call) := by
  unfold pushArguments
  split
  · exact .pure _
  · exact .bind (.yieldIf (ofDelta _ _)) fun _ _ => .pure _

section Tools

variable {holds : ProviderEvent → Prop}
  (ofStart : ∀ index id name, holds (.toolStart index id name))
  (ofDelta : ∀ index arguments, holds (.toolDelta index arguments))

include ofStart ofDelta

theorem announce_yields (index : Nat) (tool : StreamedTool) :
    Gen.Yields holds (announce index tool) := by
  unfold announce
  split
  · exact .bind (.yield (ofStart _ _ _)) fun _ _ => .bind (.yieldIf (ofDelta _ _)) fun _ _ => .pure _
  · exact .pure _

theorem decodeCall_yields (tools : ToolTable) (call : Value) :
    Gen.Yields holds (decodeCall tools call) := by
  unfold decodeCall
  split
  · exact .fail _
  · exact .bind (announce_yields ofStart ofDelta _ _) fun _ _ =>
      .bind (pushArguments_yields ofDelta _ _ _) fun _ _ => .pure _

end Tools

theorem decodeUsage_yields {holds : ProviderEvent → Prop} (ofUsage : ∀ usage, holds (.usage usage))
    (state : Decoder) (chunk : Value) : Gen.Yields holds (decodeUsage state chunk) := by
  unfold decodeUsage
  split
  · exact .pure _
  · exact .bind (.yield (ofUsage _)) fun _ _ => .pure _

theorem decodeContent_yields_open (choice : Value) :
    Gen.Yields ProviderEvent.Open (decodeContent choice) := by
  unfold decodeContent
  split
  · exact .pure _
  · exact .yieldIf id

theorem decodeReason_yields_nothing (state : Decoder) (choice : Value) :
    (decodeReason state choice).yielded = [] := by
  unfold decodeReason
  cases choice.strAt "finish_reason" with
  | none => rfl
  | some reason =>
      dsimp only
      cases mapStopReason (some reason) with
      | error error => rfl
      | ok stop => rfl

/-- The events of a chunk all have a property if those of its contents have it, and every event about
a tool or the usage does. -/
theorem decodeChunk_yields {holds : ProviderEvent → Prop}
    (ofStart : ∀ index id name, holds (.toolStart index id name))
    (ofDelta : ∀ index arguments, holds (.toolDelta index arguments))
    (ofUsage : ∀ usage, holds (.usage usage)) {chunk : Value}
    (contents : ∀ choice ∈ chunkChoices chunk, Gen.Yields holds (decodeContent choice))
    (state : Decoder) : Gen.Yields holds (decodeChunk state chunk) := by
  refine .bind (decodeUsage_yields ofUsage state chunk) fun _ _ => ?_
  refine .foldlM (fun state choice member => ?_) _
  refine .bind (contents choice member) fun _ _ => ?_
  refine .bind (.foldlM (fun tools call _ => decodeCall_yields ofStart ofDelta tools call) _)
    fun tools _ => ?_
  intro event yielded
  rw [decodeReason_yields_nothing] at yielded
  cases yielded

theorem decodeChunk_yields_open (state : Decoder) (chunk : Value) :
    Gen.Yields ProviderEvent.Open (decodeChunk state chunk) :=
  decodeChunk_yields (fun _ _ _ => id) (fun _ _ => id) (fun _ => id)
    (fun choice _ => decodeContent_yields_open choice) state

/-- Leaving the reader through `[DONE]` is the one way a payload ends the stream. -/
theorem decodeData_endsWith (state : Decoder) (data : String) :
    Gen.EndsWith ProviderEvent.Open ProviderEvent.IsFinished
      (decodeData crates order state data) := by
  unfold decodeData
  split
  · rcases finish_cases crates order state "provider stream ended without a finish reason"
      with ⟨reason, _, _, finishEq⟩ | ⟨error, finishEq⟩
    · rw [finishEq]
      exact ⟨[], _, rfl, by simp, trivial⟩
    · rw [finishEq, Gen.fail_bind]
      exact .of_yields (by simp) (.fail _)
  · cases crates.fromStr data with
    | error error => exact .of_yields (by simp) (.fail _)
    | ok chunk =>
        refine .of_yields ?_ (.bind (decodeChunk_yields_open _ _) fun _ _ => .pure _)
        intro leaves
        obtain ⟨_, _, impossible, _⟩ := Gen.bind_result_ok leaves
        cases impossible

theorem decodeLine_endsWith (state : Decoder) (line : Bytes) :
    Gen.EndsWith ProviderEvent.Open ProviderEvent.IsFinished
      (decodeLine crates order state line) := by
  unfold decodeLine
  cases lineData line with
  | error error =>
      rw [Gen.ofExcept_error, Gen.fail_bind]
      exact .of_yields (by simp) (.fail _)
  | ok data =>
      rw [Gen.ofExcept_ok, pure_bind]
      cases data with
      | none => exact .next state
      | some data => exact decodeData_endsWith crates order state data

/-- The three ways a decoded stream can look: it ends with `Finished`, it ends with an error, or it
falls silent; what comes before is open events only. -/
inductive StreamShape (events : List ProviderEvent) : Feed (Except ProxyError ProviderEvent) → Prop
  | finished (reason : StopReason) (usage : Option Usage) :
      StreamShape events ⟨events.map .ok ++ [.ok (.finished reason usage)], .closed⟩
  | failed (error : ProxyError) : StreamShape events ⟨events.map .ok ++ [.error error], .closed⟩
  | silent : StreamShape events ⟨events.map .ok, .pending⟩

theorem isFinished_elim {event : ProviderEvent} (finished : event.IsFinished) :
    ∃ reason usage, event = .finished reason usage := by
  cases event with
  | finished reason usage => exact ⟨reason, usage, rfl⟩
  | text => cases finished
  | toolStart => cases finished
  | toolDelta => cases finished
  | usage => cases finished

theorem parseSse_shape (input : Feed (Except TransportError Bytes)) :
    ∃ events, (∀ event ∈ events, event.Open) ∧
      StreamShape events (parseSse crates order input) := by
  unfold parseSse
  dsimp only
  generalize input.items.map (fun chunk => chunk.mapError classifyTransport) = chunks
  have reader : Gen.EndsWith ProviderEvent.Open ProviderEvent.IsFinished
      (pump (decodeLine crates order) lineFeed {} [] chunks) :=
    .pump (decodeLine_endsWith crates order) {} [] chunks
  generalize pump (decodeLine crates order) lineFeed {} [] chunks = run at reader ⊢
  unfold Gen.EndsWith at reader
  cases runEq : run.result with
  | error error =>
      rw [runEq] at reader
      rw [Gen.bind_of_error runEq]
      exact ⟨_, reader, .failed error⟩
  | ok flow =>
      rw [runEq] at reader
      rw [Gen.bind_of_ok runEq]
      cases flow with
      | done =>
          obtain ⟨front, value, yieldedEq, frontOpen, finished⟩ := reader
          obtain ⟨reason, usage, rfl⟩ := isFinished_elim finished
          refine ⟨front, frontOpen, ?_⟩
          rw [yieldedEq]
          simpa [Gen.toFeed] using StreamShape.finished reason usage
      | next paused =>
          refine ⟨run.yielded, reader, ?_⟩
          cases input.tail with
          | pending => simpa [Gen.toFeed] using StreamShape.silent
          | closed =>
              rcases finish_cases crates order paused.1 "provider stream terminated before completion"
                with ⟨reason, _, _, finishEq⟩ | ⟨error, finishEq⟩
              · dsimp only
                rw [finishEq, Gen.bind_of_ok rfl]
                simpa [Gen.toFeed] using StreamShape.finished reason paused.1.finalUsage
              · dsimp only
                rw [finishEq, Gen.fail_bind]
                simpa [Gen.toFeed] using StreamShape.failed error

end Decoder

/-! ### The encoder keeps step with the client -/

/-- A buffered tool as the client rebuilds it. -/
def BufferedTool.toBlock (tool : BufferedTool) : ClientBlock :=
  .toolUse tool.id tool.name tool.arguments

/-- The client after the frames of the encoder so far. Tools are held back until the end, so the
message consists of the text block alone, open, or of nothing. -/
inductive Mirrors (encoder : StreamEncoder) (client : Client) : Option String → Prop
  | silent (noText : encoder.textBlock = none) (fresh : encoder.nextBlock = 0)
      (between : client.phase = .between) (empty : client.blocks = []) :
      Mirrors encoder client none
  | speaking {text : String} (hasText : encoder.textBlock = some 0) (used : encoder.nextBlock = 1)
      (inside : client.phase = .inside) (open_ : client.blocks = [.text text]) :
      Mirrors encoder client (some text)

/-- What the frames so far depend on, and the encoder's remaining state does not. -/
theorem Mirrors.congr {encoder other : StreamEncoder} {client : Client} {text : Option String}
    (mirrors : Mirrors encoder client text) (sameText : other.textBlock = encoder.textBlock)
    (sameNext : other.nextBlock = encoder.nextBlock) : Mirrors other client text := by
  cases mirrors with
  | silent noText fresh between empty =>
      exact .silent (sameText.trans noText) (sameNext.trans fresh) between empty
  | speaking hasText used inside open_ =>
      exact .speaking (sameText.trans hasText) (sameNext.trans used) inside open_

/-- Recording the usage of `Finished` touches no block. -/
theorem Mirrors.recordFinalUsage {encoder : StreamEncoder} {client : Client} {text : Option String}
    (mirrors : Mirrors encoder client text) (usage : Option Usage) :
    Mirrors (encoder.recordFinalUsage usage) client text :=
  mirrors.congr (StreamEncoder.recordFinalUsage_textBlock encoder usage)
    (StreamEncoder.recordFinalUsage_nextBlock encoder usage)

/-- The text a client has seen after one more event. -/
def seenText (text : Option String) : ProviderEvent → Option String
  | .text more => some (text.getD "" ++ more)
  | _ => text

/-- The content of the finished message: the text, then the tools; an answer with neither gets an
empty text. -/
def finishedBlocks (text : Option String) (tools : List BufferedTool) : List ClientBlock :=
  match text, tools with
  | none, [] => [.text ""]
  | none, tools => tools.map BufferedTool.toBlock
  | some text, tools => .text text :: tools.map BufferedTool.toBlock

namespace StreamEncoder

/-- The encoder over a list of events, with the frames it writes. -/
def encodeAll (encoder : StreamEncoder) : List ProviderEvent → StreamEncoder × List SseFrame
  | [] => (encoder, [])
  | event :: rest =>
      let (middle, frames) := encoder.encode event
      let (final, more) := middle.encodeAll rest
      (final, frames ++ more)

theorem encodeText_mirrors {encoder : StreamEncoder} {client : Client} {text : Option String}
    (mirrors : Mirrors encoder client text) (more : String) :
    ∃ next, clientRun client (encoder.encodeText more).2 = some next ∧
      Mirrors (encoder.encodeText more).1 next (some (text.getD "" ++ more)) ∧
      next.stopReason = client.stopReason ∧ next.usage = client.usage := by
  cases mirrors with
  | silent noText fresh between empty =>
      unfold encodeText
      rw [noText]
      dsimp only
      rw [clientRun_cons (readFrame_textBlockStart _)]
      refine ⟨{ client with phase := .inside, blocks := [.text more] }, ?_, ?_, rfl, rfl⟩
      · simp [clientStep, between, empty, fresh, clientRun_cons, ClientBlock.extend, guard]
      · refine .speaking (by simp [fresh]) (by simp [fresh]) rfl ?_
        simp
  | @speaking text hasText used inside open_ =>
      unfold encodeText
      rw [hasText]
      refine ⟨{ client with blocks := [.text (text ++ more)] }, ?_, ?_, rfl, rfl⟩
      · rw [clientRun_cons (readFrame_textDelta _ _)]
        simp [clientStep, inside, open_, ClientBlock.extend, guard]
      · exact .speaking hasText used inside rfl

/-- One open event: the client accepts its frames, and encoder and client stay in step. -/
theorem encode_mirrors {encoder : StreamEncoder} {client : Client} {text : Option String}
    (mirrors : Mirrors encoder client text) {event : ProviderEvent} (isOpen : event.Open) :
    ∃ next, clientRun client (encoder.encode event).2 = some next ∧
      Mirrors (encoder.encode event).1 next (seenText text event) ∧
      next.stopReason = client.stopReason ∧ next.usage = client.usage := by
  cases event with
  | text more => exact encodeText_mirrors mirrors more
  | toolStart index id name =>
      exact ⟨client, clientRun_nil client, Mirrors.congr mirrors rfl rfl, rfl, rfl⟩
  | toolDelta index arguments =>
      unfold encode
      dsimp only
      split
      · exact ⟨client, clientRun_nil client, Mirrors.congr mirrors rfl rfl, rfl, rfl⟩
      · exact ⟨client, clientRun_nil client, mirrors, rfl, rfl⟩
  | usage usage =>
      exact ⟨client, clientRun_nil client, Mirrors.congr mirrors rfl rfl, rfl, rfl⟩
  | finished reason usage => exact absurd trivial isOpen

theorem encodeAll_mirrors {events : List ProviderEvent} (areOpen : ∀ event ∈ events, event.Open)
    {encoder : StreamEncoder} {client : Client} {text : Option String}
    (mirrors : Mirrors encoder client text) :
    ∃ next, clientRun client (encoder.encodeAll events).2 = some next ∧
      Mirrors (encoder.encodeAll events).1 next (events.foldl seenText text) ∧
      next.stopReason = client.stopReason ∧ next.usage = client.usage := by
  induction events generalizing encoder client text with
  | nil => exact ⟨client, rfl, mirrors, rfl, rfl⟩
  | cons event rest inductionHypothesis =>
      obtain ⟨middle, headRun, headMirrors, sameReason, sameUsage⟩ :=
        encode_mirrors mirrors (areOpen event (by simp))
      obtain ⟨next, restRun, restMirrors, restReason, restUsage⟩ :=
        inductionHypothesis (fun event member => areOpen event (List.mem_cons_of_mem _ member))
          headMirrors
      refine ⟨next, ?_, restMirrors, restReason.trans sameReason, restUsage.trans sameUsage⟩
      unfold encodeAll
      rw [clientRun_append, headRun]
      exact restRun

/-- The client reads the tool frames as one complete block for each tool. -/
theorem encodeTools_run (tools : List BufferedTool) {client : Client}
    (between : client.phase = .between) :
    clientRun client (encodeTools client.blocks.length tools).2 =
      some { client with blocks := client.blocks ++ tools.map BufferedTool.toBlock } := by
  induction tools generalizing client with
  | nil => simp [encodeTools]
  | cons tool rest inductionHypothesis =>
      have opened : clientRun client (toolFrames client.blocks.length tool) =
          some { client with blocks := client.blocks ++ [tool.toBlock] } := by
        unfold toolFrames
        rw [clientRun_cons (readFrame_toolBlockStart _ _)]
        simp [clientStep, between, clientRun_cons, ClientBlock.extend, guard, BufferedTool.toBlock]
      unfold encodeTools
      dsimp only
      rw [clientRun_append, opened, Option.bind_some]
      have continued := @inductionHypothesis
        { client with blocks := client.blocks ++ [tool.toBlock] } between
      simpa using continued

/-- The two frames that close a message with at least one block. -/
theorem closing_run {client : Client} (between : client.phase = .between)
    (nonempty : client.blocks ≠ []) (reason : StopReason) (outputTokens : Nat) :
    clientRun client [messageDelta reason outputTokens, messageStop] =
      some { client with
        phase := .stopped
        stopReason := some reason.asStr
        usage := { client.usage with outputTokens := outputTokens } } := by
  rw [clientRun_cons (readFrame_messageDelta _ _)]
  simp [clientStep, between, nonempty, clientRun_cons, guard]

/-- The tool frames and the closing frames, from any point between two blocks. -/
theorem encodeTools_closing_run {client : Client} (between : client.phase = .between)
    (tools : List BufferedTool) (nonempty : client.blocks ++ tools.map BufferedTool.toBlock ≠ [])
    (reason : StopReason) (outputTokens : Nat) :
    clientRun client ((encodeTools client.blocks.length tools).2 ++
        [messageDelta reason outputTokens, messageStop]) =
      some
        { phase := .stopped
          blocks := client.blocks ++ tools.map BufferedTool.toBlock
          stopReason := some reason.asStr
          usage := { client.usage with outputTokens := outputTokens } } := by
  rw [clientRun_append, encodeTools_run tools between, Option.bind_some, closing_run]
  · exact between
  · exact nonempty

theorem bufferedTools_eq_nil {encoder : StreamEncoder} :
    encoder.tools.isEmpty = true ↔ encoder.bufferedTools = [] := by
  unfold bufferedTools
  rw [List.map_eq_nil_iff, ← List.isEmpty_iff, Std.TreeMap.isEmpty_toList]

/-- The frames between the last open event and the tools: they leave the client between two blocks,
with the next block number that the encoder uses. -/
theorem beforeTools_run {encoder : StreamEncoder} {client : Client} {text : Option String}
    (mirrors : Mirrors encoder client text) :
    ∃ blocks, clientRun client (encoder.closeText ++ encoder.placeholder.2) =
        some { client with phase := .between, blocks := blocks } ∧
      encoder.placeholder.1 = blocks.length ∧
      blocks ++ encoder.bufferedTools.map BufferedTool.toBlock =
        finishedBlocks text encoder.bufferedTools := by
  cases mirrors with
  | @speaking text hasText used inside open_ =>
      refine ⟨[.text text], ?_, ?_, ?_⟩
      · unfold closeText placeholder
        rw [hasText]
        simp [clientRun_cons, clientStep, inside, open_, guard]
      · simp [placeholder, hasText, used]
      · rfl
  | silent noText fresh between empty =>
      by_cases noTools : encoder.bufferedTools = []
      · refine ⟨[.text ""], ?_, ?_, ?_⟩
        · unfold closeText placeholder
          rw [noText]
          simp [bufferedTools_eq_nil.mpr noTools, clientRun_cons, clientStep, between, empty, fresh,
            guard]
        · simp [placeholder, noText, bufferedTools_eq_nil.mpr noTools, fresh]
        · rw [noTools]
          rfl
      · have present : encoder.tools.isEmpty = false := by
          simpa [← bufferedTools_eq_nil] using noTools
        refine ⟨[], ?_, ?_, ?_⟩
        · unfold closeText placeholder
          rw [noText]
          simp [present, ← between, ← empty]
        · simp [placeholder, present, fresh]
        · cases listed : encoder.bufferedTools with
          | nil => exact absurd listed noTools
          | cons tool tools => rfl

theorem finishedBlocks_ne_nil (text : Option String) (tools : List BufferedTool) :
    finishedBlocks text tools ≠ [] := by
  cases text <;> cases tools <;> simp [finishedBlocks]

/-- `Finished`: the client accepts the closing frames and holds a complete message. -/
theorem encodeFinished_run {encoder : StreamEncoder} {client : Client} {text : Option String}
    (mirrors : Mirrors encoder client text) (reason : StopReason) (usage : Option Usage) :
    clientRun client (encoder.encodeFinished reason usage).2 =
      some
        { phase := .stopped
          blocks := finishedBlocks text encoder.bufferedTools
          stopReason := some reason.asStr
          usage :=
            { client.usage with
              outputTokens := (usage.map Usage.outputTokens).getD encoder.outputTokens } } := by
  obtain ⟨blocks, ready, number, complete⟩ := beforeTools_run (mirrors.recordFinalUsage usage)
  have sameTools : (encoder.recordFinalUsage usage).bufferedTools = encoder.bufferedTools := by
    simp [bufferedTools]
  rw [sameTools] at complete
  have closing := @encodeTools_closing_run { client with phase := .between, blocks := blocks } rfl
    encoder.bufferedTools (by rw [complete]; exact finishedBlocks_ne_nil text _) reason
    ((usage.map Usage.outputTokens).getD encoder.outputTokens)
  unfold encodeFinished
  dsimp only
  rw [← List.append_assoc, clientRun_append, ready, Option.bind_some, number, sameTools,
    recordFinalUsage_outputTokens, closing, complete]

end StreamEncoder

/-! ### The response body -/

theorem readFrame_streamError (error : ProxyError) (requestId : String) :
    readFrame (streamError error requestId) = some (.error error.message) := by
  simp [streamError, readFrame, sseEvent, Value.strAt, Value.pointer, guard]

/-- An error frame ends a message that is open. -/
theorem streamError_run {encoder : StreamEncoder} {client : Client} {text : Option String}
    (mirrors : Mirrors encoder client text) (error : ProxyError) (requestId : String) :
    clientRun client [streamError error requestId] = some { client with phase := .failed } := by
  rw [clientRun_cons (readFrame_streamError error requestId)]
  cases mirrors with
  | silent noText fresh between empty => simp [clientStep, between, guard]
  | speaking hasText used inside open_ => simp [clientStep, inside, guard]

theorem encodeEvents_append (requestId : String) (encoder : StreamEncoder)
    (events : List ProviderEvent) (rest : List (Except ProxyError ProviderEvent)) (tail : Tail) :
    encodeEvents requestId encoder (events.map .ok ++ rest) tail =
      (encoder.encodeAll events).2 ++
        encodeEvents requestId (encoder.encodeAll events).1 rest tail := by
  induction events generalizing encoder with
  | nil => rfl
  | cons event more inductionHypothesis =>
      rw [List.map_cons, List.cons_append, encodeEvents, StreamEncoder.encodeAll]
      dsimp only
      rw [inductionHypothesis, List.append_assoc]

/-- The client that has read the opening frame of a new encoder. -/
def Client.opened (inputTokens : Nat) : Client :=
  { phase := .between, usage := ⟨inputTokens, 0⟩ }

theorem messageStart_run (messageId model : String) (inputTokens : Nat) (rest : List SseFrame) :
    clientRun {} (StreamEncoder.messageStart messageId model inputTokens :: rest) =
      clientRun (Client.opened inputTokens) rest := by
  rw [clientRun_cons (StreamEncoder.readFrame_messageStart _ _ _)]
  rfl

theorem new_mirrors (request : StreamRequest) :
    Mirrors (StreamEncoder.new request.messageId request.model request.inputTokens).1
      (Client.opened request.inputTokens) none :=
  .silent rfl rfl rfl rfl

/-- The encoder after the events of a stream. -/
def encoderAfter (request : StreamRequest) (events : List ProviderEvent) : StreamEncoder :=
  ((StreamEncoder.new request.messageId request.model request.inputTokens).1.encodeAll events).1

/-- A response body, cut where its open events end. -/
theorem bodyStream_append (request : StreamRequest) (events : List ProviderEvent)
    (areOpen : ∀ event ∈ events, event.Open) :
    ∃ client, Mirrors (encoderAfter request events) client (events.foldl seenText none) ∧
      client.stopReason = none ∧ client.usage = ⟨request.inputTokens, 0⟩ ∧
      ∀ rest tail, clientRun {} (bodyStream request ⟨events.map .ok ++ rest, tail⟩) =
        clientRun client
          (encodeEvents request.requestId (encoderAfter request events) rest tail) := by
  obtain ⟨client, opened, mirrors, sameReason, sameUsage⟩ :=
    StreamEncoder.encodeAll_mirrors areOpen (new_mirrors request)
  refine ⟨client, mirrors, sameReason, sameUsage, ?_⟩
  intro rest tail
  unfold bodyStream
  dsimp only
  rw [encodeEvents_append, StreamEncoder.new, messageStart_run, clientRun_append]
  rw [StreamEncoder.new] at opened
  rw [opened]
  rfl

/-- A stream that ends with `Finished` becomes a complete message. -/
theorem bodyStream_finished (request : StreamRequest) {events : List ProviderEvent}
    (areOpen : ∀ event ∈ events, event.Open) (reason : StopReason) (usage : Option Usage) :
    clientRun {} (bodyStream request ⟨events.map .ok ++ [.ok (.finished reason usage)], .closed⟩) =
      some
        { phase := .stopped
          blocks := finishedBlocks (events.foldl seenText none)
            (encoderAfter request events).bufferedTools
          stopReason := some reason.asStr
          usage :=
            { inputTokens := request.inputTokens
              outputTokens := (usage.map Usage.outputTokens).getD
                (encoderAfter request events).outputTokens } } := by
  obtain ⟨client, mirrors, -, sameUsage, run⟩ := bodyStream_append request events areOpen
  have finished := StreamEncoder.encodeFinished_run mirrors reason usage
  rw [sameUsage] at finished
  have closed : encodeEvents request.requestId (encoderAfter request events)
      [.ok (.finished reason usage)] .closed =
        ((encoderAfter request events).encodeFinished reason usage).2 :=
    List.append_nil _
  rw [run, closed]
  exact finished

/-- A stream that ends with an error becomes a broken message. -/
theorem bodyStream_failed (request : StreamRequest) {events : List ProviderEvent}
    (areOpen : ∀ event ∈ events, event.Open) (error : ProxyError) :
    ∃ client, clientRun {} (bodyStream request ⟨events.map .ok ++ [.error error], .closed⟩) =
      some client ∧ client.phase = .failed := by
  obtain ⟨client, mirrors, -, -, run⟩ := bodyStream_append request events areOpen
  refine ⟨{ client with phase := .failed }, ?_, rfl⟩
  rw [run]
  exact streamError_run mirrors error request.requestId

/-- A stream that falls silent becomes a broken message, once the idle timeout has passed. -/
theorem bodyStream_silent (request : StreamRequest) {events : List ProviderEvent}
    (areOpen : ∀ event ∈ events, event.Open) :
    ∃ client, clientRun {} (bodyStream request ⟨events.map .ok, .pending⟩) = some client ∧
      client.phase = .failed := by
  obtain ⟨client, mirrors, -, -, run⟩ := bodyStream_append request events areOpen
  refine ⟨{ client with phase := .failed }, ?_, rfl⟩
  have silent := run [] .pending
  rw [List.append_nil] at silent
  rw [silent]
  exact streamError_run mirrors idleTimeout request.requestId

/-- A decoded stream becomes a message that follows the lifecycle. -/
theorem bodyStream_lifecycle (request : StreamRequest) {events : List ProviderEvent}
    (areOpen : ∀ event ∈ events, event.Open) {feed : Feed (Except ProxyError ProviderEvent)}
    (shape : StreamShape events feed) : Lifecycle (bodyStream request feed) := by
  cases shape with
  | finished reason usage => exact ⟨_, bodyStream_finished request areOpen reason usage, .inl rfl⟩
  | failed error =>
      obtain ⟨client, run, broken⟩ := bodyStream_failed request areOpen error
      exact ⟨client, run, .inr broken⟩
  | silent =>
      obtain ⟨client, run, broken⟩ := bodyStream_silent request areOpen
      exact ⟨client, run, .inr broken⟩

/-- A stream that stops after open events becomes a message without an end. -/
theorem bodyStream_stopped (request : StreamRequest) {events : List ProviderEvent}
    (areOpen : ∀ event ∈ events, event.Open) :
    ¬ Lifecycle (bodyStream request ⟨events.map .ok, .closed⟩) := by
  obtain ⟨client, mirrors, -, -, run⟩ := bodyStream_append request events areOpen
  have stopped := run [] .closed
  rw [List.append_nil] at stopped
  rintro ⟨other, otherRun, ended⟩
  obtain rfl : client = other := by
    rw [stopped] at otherRun
    exact Option.some.inj otherRun
  generalize events.foldl seenText none = text at mirrors
  cases mirrors with
  | silent noText fresh between empty => simp [between] at ended
  | speaking hasText used inside open_ => simp [inside] at ended

/-! ### The recorded failure -/

/-- The failure that a decoded stream ends with, if it does, can be recorded at a time. -/
def Recordable (provider : Provider) (now : Instant) (circuits : Circuits)
    (feed : Feed (Except ProxyError ProviderEvent)) : Prop :=
  ∀ error, .error error ∈ feed.items →
    provider.CanReport now (.failure error) (circuits provider.id) 0

section Served

variable {crates : Crates} {order : IterationOrder} {request : StreamRequest} {provider : Provider}
  {now : Instant} {circuits : Circuits} {input : Feed (Except TransportError Bytes)}

/-- The stream of `Router::stream` changes nothing about a decoded stream whose failure it can record:
an error is already its last item. -/
theorem forwardEvents_shape {events : List ProviderEvent}
    {feed : Feed (Except ProxyError ProviderEvent)} (shape : StreamShape events feed)
    (recordable : Recordable provider now circuits feed) :
    (forwardEvents provider now circuits feed.items feed.tail).feed = feed := by
  cases shape with
  | finished reason usage =>
      rw [forwardEvents_append]
      rfl
  | failed error =>
      rw [forwardEvents_append, forwardEvents_failed (recordable error (by simp))]
  | silent =>
      have forwarded := @forwardEvents_append provider now circuits events [] .pending
      rw [List.append_nil] at forwarded
      rw [forwarded]
      simp [forwardEvents]

theorem servedFrames_of_recordable
    (recordable : Recordable provider now circuits (parseSse crates order input)) :
    servedFrames crates order request provider now circuits input =
      messageFrames crates order request input := by
  obtain ⟨events, -, shape⟩ := parseSse_shape crates order input
  unfold servedFrames messageFrames
  dsimp only
  rw [forwardEvents_shape shape recordable]

/-- A failure whose record panics breaks the stream off before it. -/
theorem forwardEvents_stuck {events : List ProviderEvent}
    {feed : Feed (Except ProxyError ProviderEvent)} (shape : StreamShape events feed)
    (stuck : ¬ Recordable provider now circuits feed) :
    let forwarded := forwardEvents provider now circuits feed.items feed.tail
    forwarded.feed = ⟨events.map .ok, .closed⟩ ∧ forwarded.panicked = true := by
  cases shape with
  | finished reason usage => exact absurd (fun error isError => by simp at isError) stuck
  | silent => exact absurd (fun error isError => by simp at isError) stuck
  | failed error =>
      have fails : ¬ provider.CanReport now (.failure error) (circuits provider.id) 0 := by
        intro can
        apply stuck
        intro other isOther
        obtain rfl : other = error := by simpa using isOther
        exact can
      obtain ⟨isFeed, panicked⟩ := @forwardEvents_broken provider now circuits error .closed [] fails
      intro forwarded
      simp only [forwarded, forwardEvents_append, isFeed, panicked, List.append_nil, and_self]

/-- A failure whose record panics leaves the client with a message that has no end. -/
theorem servedFrames_broken
    (stuck : ¬ Recordable provider now circuits (parseSse crates order input)) :
    ¬ Lifecycle (servedFrames crates order request provider now circuits input) := by
  obtain ⟨events, areOpen, shape⟩ := parseSse_shape crates order input
  unfold servedFrames
  dsimp only
  rw [(forwardEvents_stuck shape stuck).1]
  exact bodyStream_stopped request areOpen

end Served

/-- Every stream a client receives follows the lifecycle, for every body of the provider, every
cutting of it into chunks, and each of the ways it can end, exactly if the failure that the body ends
with, if it does, can be recorded. -/
theorem servedFrames_lifecycle_iff (crates : Crates) (order : IterationOrder)
    (request : StreamRequest) (provider : Provider) (now : Instant) (circuits : Circuits)
    (input : Feed (Except TransportError Bytes)) :
    Lifecycle (servedFrames crates order request provider now circuits input) ↔
      Recordable provider now circuits (parseSse crates order input) := by
  constructor
  · intro lifecycle
    by_contra stuck
    exact servedFrames_broken stuck lifecycle
  · intro recordable
    obtain ⟨events, areOpen, shape⟩ := parseSse_shape crates order input
    rw [servedFrames_of_recordable recordable]
    exact bodyStream_lifecycle request areOpen shape

/-- A body that begins with a line of no JSON. -/
def garbledBody : Feed (Except TransportError Bytes) := ⟨[.ok (utf8Bytes "data: x\n")], .closed⟩

/-- The item is a failure that counts. -/
def isCountedFailure : Except ProxyError ProviderEvent → Bool
  | .ok _ => false
  | .error error => countsAsFailure error

/-- The configuration is valid, and a provider of its router answers with such a body. The failure cannot
be recorded, and the message that was begun has no end. -/
theorem stream_breaks_off :
    (∃ valid : ValidConfig officeCrates officeEnvironment, valid.config = eternalConfig ∧
      Router.new officeEnvironment valid.config = .ok eternalRouter) ∧
    ("p", eternalProvider) ∈ eternalRouter.providers ∧
    ¬ Lifecycle (servedFrames officeCrates ⟨id, fun _ => .rfl⟩ ⟨"msg", "m", "req", 0⟩ eternalProvider
      0 (.fresh {}) garbledBody) := by
  refine ⟨⟨⟨eternalConfig, rfl⟩, rfl, rfl⟩, List.mem_cons_self, servedFrames_broken ?_⟩
  intro recordable
  have failed : (parseSse officeCrates ⟨id, fun _ => .rfl⟩ garbledBody).items.any
      isCountedFailure = true := by
    decide +kernel
  obtain ⟨item, isItem, counted⟩ := List.any_eq_true.mp failed
  cases item with
  | ok event => cases counted
  | error error =>
      have tooLate : ¬ 0 + eternalProvider.cooldown ≤ clockMax := by decide
      exact tooLate ((recordable error isItem counted).2 counted (by decide))

end ClaudeProxy
