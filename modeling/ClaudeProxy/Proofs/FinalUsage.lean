/-
Module: ClaudeProxy.Proofs.FinalUsage
Layer: Proofs
Purpose: Which token counts a client holds at the end of a stream. Only `message_start` and
  `message_delta` carry a usage, and of the two numbers that the provider reports the second carries
  one: the client ends with the last reported output tokens, and with the input tokens that were
  estimated before the stream began.
Trusted boundary: none
Main exports: holdUsage, usageAtStop, seenUsages, usageAtStop_bodyStream, usageAtStop_finished,
  final_usage_iff
-/
import ClaudeProxy.Proofs.ToolIdentity

namespace ClaudeProxy

open Library

/-! ### The usage a client holds -/

/-- The fields that are present replace those held. -/
def Usage.overwrite (held : Usage) (fields : Value) : Usage :=
  { inputTokens := ((fields.get "input_tokens").bind Value.asU64).getD held.inputTokens
    outputTokens := ((fields.get "output_tokens").bind Value.asU64).getD held.outputTokens }

/-- What a frame does to the usage that a client holds. -/
def holdUsage (held : Usage) (frame : SseFrame) : Usage :=
  if frame.event = "message_start" then
    ((frame.data.pointer ["message", "usage"]).map held.overwrite).getD held
  else if frame.event = "message_delta" then
    ((frame.data.get "usage").map held.overwrite).getD held
  else held

/-- The usage a client holds when it reaches `message_stop`. -/
def usageAtStop (frames : List SseFrame) : Usage :=
  (frames.takeWhile fun frame => frame.event ≠ "message_stop").foldl holdUsage ⟨0, 0⟩

/-- A frame inside a message, which says nothing about its usage. -/
def SseFrame.IsContent (frame : SseFrame) : Prop :=
  frame.event ∈ ["content_block_start", "content_block_delta", "content_block_stop"]

/-- A frame of content does not end a message. -/
theorem SseFrame.IsContent.notStop {frame : SseFrame} (content : frame.IsContent) :
    frame.event ≠ "message_stop" := by
  intro stop
  unfold SseFrame.IsContent at content
  rw [stop] at content
  exact absurd content (by decide)

/-- It tells nothing of the usage. -/
theorem SseFrame.IsContent.holdUsage {frame : SseFrame} (content : frame.IsContent) (held : Usage) :
    holdUsage held frame = held := by
  have notStart : frame.event ≠ "message_start" := by
    intro start
    unfold SseFrame.IsContent at content
    rw [start] at content
    exact absurd content (by decide)
  have notDelta : frame.event ≠ "message_delta" := by
    intro delta
    unfold SseFrame.IsContent at content
    rw [delta] at content
    exact absurd content (by decide)
  unfold ClaudeProxy.holdUsage
  rw [if_neg notStart, if_neg notDelta]

/-- Nor do many of them. -/
theorem foldl_holdUsage {frames : List SseFrame} (contents : ∀ frame ∈ frames, frame.IsContent)
    (held : Usage) : frames.foldl holdUsage held = held := by
  induction frames generalizing held with
  | nil => rfl
  | cons frame rest inductionHypothesis =>
      obtain ⟨here, later⟩ := List.forall_mem_cons.mp contents
      rw [List.foldl_cons, here.holdUsage]
      exact inductionHypothesis later held

namespace StreamEncoder

/-! ### Which frames are content -/

theorem contentBlockStart_isContent (index : Nat) (block : Value) :
    (contentBlockStart index block).IsContent := by
  simp [contentBlockStart, sseEvent, SseFrame.IsContent]

theorem contentBlockDelta_isContent (index : Nat) (delta : Value) :
    (contentBlockDelta index delta).IsContent := by
  simp [contentBlockDelta, sseEvent, SseFrame.IsContent]

theorem contentBlockStop_isContent (index : Nat) : (contentBlockStop index).IsContent := by
  simp [contentBlockStop, sseEvent, SseFrame.IsContent]

/-- As long as the stream is open, the encoder writes content. -/
theorem encode_isContent (encoder : StreamEncoder) {event : ProviderEvent} (isOpen : event.Open) :
    ∀ frame ∈ (encoder.encode event).2, frame.IsContent := by
  cases event with
  | text text =>
      unfold encode encodeText
      cases encoder.textBlock with
      | some index =>
          rw [List.forall_mem_singleton]
          exact contentBlockDelta_isContent _ _
      | none =>
          rw [List.forall_mem_cons, List.forall_mem_singleton]
          exact ⟨contentBlockStart_isContent _ _, contentBlockDelta_isContent _ _⟩
  | toolStart index id name =>
      intro frame member
      cases member
  | toolDelta index arguments =>
      intro frame member
      unfold encode at member
      dsimp only at member
      cases found : encoder.tools[index]? with
      | none =>
          rw [found] at member
          cases member
      | some tool =>
          rw [found] at member
          cases member
  | usage usage =>
      intro frame member
      cases member
  | finished reason usage => exact absurd trivial isOpen

/-- Open events are encoded to frames of content. -/
theorem encodeAll_isContent (encoder : StreamEncoder) {events : List ProviderEvent}
    (areOpen : ∀ event ∈ events, event.Open) :
    ∀ frame ∈ (encoder.encodeAll events).2, frame.IsContent := by
  induction events generalizing encoder with
  | nil =>
      intro frame member
      cases member
  | cons event rest inductionHypothesis =>
      obtain ⟨here, later⟩ := List.forall_mem_cons.mp areOpen
      unfold encodeAll
      dsimp only
      rw [List.forall_mem_append]
      exact ⟨encode_isContent encoder here, inductionHypothesis _ later⟩

/-- So are the tools at the end. -/
theorem encodeTools_isContent (next : Nat) (tools : List BufferedTool) :
    ∀ frame ∈ (encodeTools next tools).2, frame.IsContent := by
  induction tools generalizing next with
  | nil =>
      intro frame member
      cases member
  | cons tool rest inductionHypothesis =>
      unfold encodeTools toolFrames
      dsimp only
      rw [List.forall_mem_append, List.forall_mem_cons, List.forall_mem_cons,
        List.forall_mem_singleton]
      exact ⟨⟨contentBlockStart_isContent _ _, contentBlockDelta_isContent _ _,
        contentBlockStop_isContent _⟩, inductionHypothesis _⟩

/-- The frames of `Finished`: content, and then the two that close the message. -/
theorem encodeFinished_frames (encoder : StreamEncoder) (reason : StopReason)
    (usage : Option Usage) :
    ∃ contents : List SseFrame, (∀ frame ∈ contents, frame.IsContent) ∧
      (encoder.encodeFinished reason usage).2 = contents ++
        [messageDelta reason ((usage.map Usage.outputTokens).getD encoder.outputTokens),
          messageStop] := by
  have closed : ∀ frame ∈ (encoder.recordFinalUsage usage).closeText, frame.IsContent := by
    unfold closeText
    cases (encoder.recordFinalUsage usage).textBlock with
    | some index =>
        rw [List.forall_mem_singleton]
        exact contentBlockStop_isContent index
    | none =>
        intro frame member
        cases member
  have held : ∀ frame ∈ (encoder.recordFinalUsage usage).placeholder.2, frame.IsContent := by
    unfold placeholder
    split
    · rw [List.forall_mem_cons, List.forall_mem_singleton]
      exact ⟨contentBlockStart_isContent _ _, contentBlockStop_isContent _⟩
    · intro frame member
      cases member
  refine ⟨(encoder.recordFinalUsage usage).closeText ++
    ((encoder.recordFinalUsage usage).placeholder.2 ++
      (encodeTools (encoder.recordFinalUsage usage).placeholder.1
        (encoder.recordFinalUsage usage).bufferedTools).2), ?_, ?_⟩
  · rw [List.forall_mem_append, List.forall_mem_append]
    exact ⟨closed, held, encodeTools_isContent _ _⟩
  · unfold encodeFinished
    dsimp only
    rw [recordFinalUsage_outputTokens, List.append_assoc, List.append_assoc]

end StreamEncoder

/-! ### The usage of a finished stream -/

/-- The opening frame tells the estimate. -/
theorem holdUsage_messageStart (messageId model : String) (inputTokens : Nat) :
    holdUsage ⟨0, 0⟩ (StreamEncoder.messageStart messageId model inputTokens) = ⟨inputTokens, 0⟩ := by
  simp [holdUsage, StreamEncoder.messageStart, sseEvent, Value.pointer, Usage.overwrite]

/-- The frame with the stop reason tells how many tokens came out. -/
theorem holdUsage_messageDelta (held : Usage) (reason : StopReason) (outputTokens : Nat) :
    holdUsage held (StreamEncoder.messageDelta reason outputTokens) =
      { held with outputTokens := outputTokens } := by
  simp [holdUsage, StreamEncoder.messageDelta, sseEvent, Usage.overwrite]

/-- A client of a finished stream holds the estimate of its own request and the encoder's output
tokens. -/
theorem usageAtStop_bodyStream (request : StreamRequest) {events : List ProviderEvent}
    (areOpen : ∀ event ∈ events, event.Open) (reason : StopReason) (usage : Option Usage) :
    usageAtStop (bodyStream request
        ⟨events.map .ok ++ [.ok (.finished reason usage)], .closed⟩) =
      { inputTokens := request.inputTokens
        outputTokens := (usage.map Usage.outputTokens).getD
          (encoderAfter request events).outputTokens } := by
  obtain ⟨contents, areContent, framesEq⟩ :=
    (encoderAfter request events).encodeFinished_frames reason usage
  have closing : encodeEvents request.requestId (encoderAfter request events)
      [.ok (.finished reason usage)] .closed =
        ((encoderAfter request events).encodeFinished reason usage).2 :=
    List.append_nil _
  have streamEq : bodyStream request
      ⟨events.map .ok ++ [.ok (.finished reason usage)], .closed⟩ =
        StreamEncoder.messageStart request.messageId request.model request.inputTokens ::
          (((StreamEncoder.new request.messageId request.model request.inputTokens).1.encodeAll
            events).2 ++ contents ++ [StreamEncoder.messageDelta reason
              ((usage.map Usage.outputTokens).getD (encoderAfter request events).outputTokens),
                StreamEncoder.messageStop]) := by
    unfold bodyStream
    dsimp only
    rw [encodeEvents_append, List.append_assoc, ← framesEq, ← closing]
    rfl
  have quiet : ∀ frame ∈ ((StreamEncoder.new request.messageId request.model
      request.inputTokens).1.encodeAll events).2 ++ contents, frame.IsContent := by
    rw [List.forall_mem_append]
    exact ⟨StreamEncoder.encodeAll_isContent _ areOpen, areContent⟩
  generalize ((StreamEncoder.new request.messageId request.model
      request.inputTokens).1.encodeAll events).2 ++ contents = middle at streamEq quiet
  have passes : ∀ frame ∈ middle, decide (frame.event ≠ "message_stop") = true :=
    fun frame member => decide_eq_true (quiet frame member).notStop
  unfold usageAtStop
  rw [streamEq, List.takeWhile_cons_of_pos rfl, List.takeWhile_append_of_pos passes,
    List.takeWhile_cons_of_pos rfl, List.takeWhile_cons_of_neg (by decide), List.foldl_cons,
    holdUsage_messageStart, List.foldl_append, foldl_holdUsage quiet, List.foldl_cons,
    holdUsage_messageDelta]
  rfl

section Finished

variable {crates : Crates} {order : IterationOrder}

/-- The usages that the chunks of a stream report, in order. -/
def seenUsages (crates : Crates) (input : List Bytes) : List Usage :=
  ((linesBeforeDone input).filterMap (lineChunk crates)).filterMap chunkUsage

/-- At the end of a finished stream a client holds the last reported output tokens, and for the input
tokens the estimate of its request. -/
theorem usageAtStop_finished (request : StreamRequest) {chunks : List Bytes} {ending : Ending}
    {events : List ProviderEvent} {reason : StopReason} {usage : Option Usage}
    (finished : parseSse crates order (responseBody chunks ending) =
      ⟨events.map .ok ++ [.ok (.finished reason usage)], .closed⟩)
    {reported : Usage}
    (last : (seenUsages crates (lines lineFeed chunks.flatten)).getLast? = some reported) :
    usageAtStop (messageFrames crates order request (responseBody chunks ending)) =
      { reported with inputTokens := request.inputTokens } := by
  have ends := finished
  rw [parseSse_responseBody] at ends
  obtain ⟨state, returned, -, yielded, usageEq⟩ := decodeBody_finished ends
  obtain ⟨-, knows⟩ := runLines_knows returned
  have areOpen := runLines_open returned
  rw [yielded] at areOpen
  have usageReported : usage = some reported := by
    rw [usageEq, knows.usage]
    exact last
  unfold messageFrames
  rw [finished, usageAtStop_bodyStream request areOpen,
    usageReported]
  rfl

/-- A client of a finished stream ends with the usage that the provider reported last exactly if the
estimate of its request was the reported number of input tokens. -/
theorem final_usage_iff (request : StreamRequest) (chunks : List Bytes) (ending : Ending)
    (events : List ProviderEvent) (reason : StopReason) (usage : Option Usage)
    (finished : parseSse crates order (responseBody chunks ending) =
      ⟨events.map .ok ++ [.ok (.finished reason usage)], .closed⟩)
    (reported : Usage)
    (last : (seenUsages crates (lines lineFeed chunks.flatten)).getLast? = some reported) :
    usageAtStop (messageFrames crates order request (responseBody chunks ending)) = reported ↔
      request.inputTokens = reported.inputTokens := by
  rw [usageAtStop_finished request finished last]
  constructor
  · intro same
    exact congrArg Usage.inputTokens same
  · intro estimated
    rw [estimated]

end Finished

/-! ### A stream that reports its usage -/

def reportedJson : String :=
  "\x7b\"choices\":[\x7b\"delta\":\x7b\"content\":\"hi\"\x7d,\"finish_reason\":\"stop\"\x7d]," ++
    "\"usage\":\x7b\"prompt_tokens\":5,\"completion_tokens\":2\x7d\x7d"

def reportedChunk : Value :=
  .obj [("choices", .array [.obj [("delta", .obj [("content", .string "hi")]),
      ("finish_reason", .string "stop")]]),
    ("usage", .obj [("prompt_tokens", .num 5), ("completion_tokens", .num 2)])]

/-- The third-party entry points at the text of the chunk. -/
def reportedCrates : Crates where
  fromStr text :=
    if text = reportedJson then .ok reportedChunk else .error "expected value at line 1 column 1"
  toJson _ := "null"
  base64Decode _ := none
  urlParse _ := .error "not called"

def reportedLine : Bytes := utf8Bytes ("data: " ++ reportedJson)

def reportedBody : Bytes :=
  reportedLine ++ lineFeed :: (utf8Bytes "data: [DONE]" ++ lineFeed :: [])

theorem reportedLine_chunks :
    [reportedLine].map (lineChunk reportedCrates) = [reportedChunk].map some := by
  have chunk : lineChunk reportedCrates reportedLine = some reportedChunk := by
    refine lineChunk_of_data ?_ ?_ ?_ ?_ (by simp [reportedCrates])
    · decide +kernel
    · decide +kernel
    · decide +kernel
    · decide +kernel
  rw [List.map_singleton, chunk]
  rfl

theorem reportedLine_sound : ∀ line ∈ [reportedLine], LineSound reportedCrates line := by
  intro line member
  apply lineSound_of_carries (carriesChunks_of_chunks reportedLine_chunks line member)
  intro chunk found
  have listed : chunk ∈ [reportedLine].filterMap (lineChunk reportedCrates) :=
    List.mem_filterMap.mpr ⟨line, member, found⟩
  rw [filterMap_of_chunks reportedLine_chunks] at listed
  obtain rfl := List.mem_singleton.mp listed
  unfold ChunkSound ChoiceSound
  decide +kernel

theorem reportedBody_lines :
    lines lineFeed [reportedBody].flatten = [reportedLine] ++ utf8Bytes "data: [DONE]" :: [] := by
  unfold reportedBody reportedLine
  rw [List.flatten_singleton, lines_append_delimiter, lines_append_delimiter]
  · rfl
  · decide +kernel
  · decide +kernel

theorem reportedBody_chunks :
    (linesBeforeDone (lines lineFeed [reportedBody].flatten)).filterMap (lineChunk reportedCrates) =
      [reportedChunk] := by
  rw [reportedBody_lines, linesBeforeDone_append reportedLine_sound isDone_dataDone,
    filterMap_of_chunks reportedLine_chunks]

/-- The sample's provider reports five tokens and two. -/
theorem reportedBody_usages :
    (seenUsages reportedCrates (lines lineFeed [reportedBody].flatten)).getLast? = some ⟨5, 2⟩ := by
  unfold seenUsages
  rw [reportedBody_chunks]
  decide +kernel

/-- The sample's answer is complete. -/
theorem reportedBody_complete :
    CompleteAnswer reportedCrates (lines lineFeed [reportedBody].flatten) where
  finishReason := by
    have listed : reportedChunk ∈ (linesBeforeDone (lines lineFeed [reportedBody].flatten)).filterMap
        (lineChunk reportedCrates) := by
      rw [reportedBody_chunks]
      exact List.mem_singleton_self _
    obtain ⟨line, member, found⟩ := List.mem_filterMap.mp listed
    exact ⟨line, member, _, found, "stop", by decide +kernel, by decide +kernel⟩
  tools := by
    intro index present
    unfold seenCalls at present
    rw [reportedBody_chunks] at present
    exact absurd rfl present

/-- The stream ends with `Finished`. -/
theorem reportedBody_finished :
    ∃ (events : List ProviderEvent) (reason : StopReason) (usage : Option Usage),
      parseSse reportedCrates insertionOrder (responseBody [reportedBody] .complete) =
        ⟨events.map .ok ++ [.ok (.finished reason usage)], .closed⟩ :=
  parseSse_of_complete reportedLine_sound isDone_dataDone reportedBody_lines
    (by rw [← reportedBody_lines]; exact reportedBody_complete) .complete

/-- A request whose input was estimated at seven tokens. -/
def estimatedRequest : StreamRequest :=
  { messageId := "msg_1", model := "m", requestId := "req_1", inputTokens := 7 }

/-- The client of the sample has seen the reported usage in the end exactly if the estimate was the
reported number. -/
theorem final_usage_iff_reported :
    usageAtStop (messageFrames reportedCrates insertionOrder estimatedRequest
        (responseBody [reportedBody] .complete)) = ⟨5, 2⟩ ↔
      estimatedRequest.inputTokens = (⟨5, 2⟩ : Usage).inputTokens := by
  obtain ⟨events, reason, usage, finished⟩ := reportedBody_finished
  exact final_usage_iff estimatedRequest [reportedBody] .complete events reason usage finished
    ⟨5, 2⟩ reportedBody_usages

/-- The provider counts five input tokens, and the client ends with the seven that were estimated. -/
theorem reported_input_lost :
    (∃ (events : List ProviderEvent) (reason : StopReason) (usage : Option Usage),
      parseSse reportedCrates insertionOrder (responseBody [reportedBody] .complete) =
        ⟨events.map .ok ++ [.ok (.finished reason usage)], .closed⟩) ∧
    (seenUsages reportedCrates (lines lineFeed [reportedBody].flatten)).getLast? = some ⟨5, 2⟩ ∧
    usageAtStop (messageFrames reportedCrates insertionOrder estimatedRequest
        (responseBody [reportedBody] .complete)) ≠ ⟨5, 2⟩ := by
  refine ⟨reportedBody_finished, reportedBody_usages, ?_⟩
  obtain ⟨events, reason, usage, finished⟩ := reportedBody_finished
  rw [usageAtStop_finished estimatedRequest finished reportedBody_usages]
  decide

end ClaudeProxy
