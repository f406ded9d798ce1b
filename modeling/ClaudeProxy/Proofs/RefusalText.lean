/-
Module: ClaudeProxy.Proofs.RefusalText
Layer: Proofs
Purpose: What becomes of the text of a refusal. A whole answer delivers it if it has no content at all.
  A streamed answer never does: the decoder reads the content of a delta and no other text, so that
  the events of a stream without content hold no text and the client's message is an empty one.
Trusted boundary: none
Main exports: RefusalAnswer, StreamsRefusal, RefusalDelivered, streamedText_of_contentless,
  wholeDelivers_iff, refusal_never_delivered
-/
import ClaudeProxy.Proofs.StreamAgreement

namespace ClaudeProxy

open Library

/-! ### Answers that refuse -/

/-- An answer whose message has a refusal. Its `text` is the content beside it. -/
structure RefusalAnswer extends Answer where
  refusal : String
deriving DecidableEq, Repr, Inhabited

/-- There is a refusal, no content text, and a known finish reason. -/
structure RefusalAnswer.WellFormed (answer : RefusalAnswer) : Prop where
  noText : answer.text.getD "" = ""
  refuses : answer.refusal ≠ ""
  known : (knownReason answer.finishReason).isSome

/-- The answer in one response. -/
def RefusalAnswer.wholeRefusal (answer : RefusalAnswer) (responseId : String) : OpenAiResponse :=
  { id := responseId
    choices :=
      [{ message :=
          { content := answer.text
            refusal := some answer.refusal
            toolCalls := answer.calls.map AnswerCall.toToolCall }
         finishReason := some answer.finishReason }]
    usage := answer.usage.map fun usage =>
      { promptTokens := usage.inputTokens, completionTokens := usage.outputTokens } }

/-- The refusal fragment of a chunk: `choices[0].delta.refusal`. -/
def chunkRefusals (chunk : Value) : List String :=
  ((chunkChoices chunk).head?.bind fun choice =>
    (choice.pointer ["delta", "refusal"]).bind Value.asStr).toList

/-- A way of streaming the answer in chunks: the refusal, and everything of the calls, in any pieces
and interleaved in any way. -/
structure RefusalAnswer.Streamed (answer : RefusalAnswer) (numbered : List (Nat × AnswerCall))
    (chunks : List Value) : Prop where
  text : String.join (chunks.flatMap chunkTexts) = ""
  refusal : String.join (chunks.flatMap chunkRefusals) = answer.refusal
  calls : numbered.map Prod.snd = answer.calls
  ascending : (numbered.map Prod.fst).Pairwise (· < ·)
  fragments : ∀ entry ∈ numbered,
    joinedAt idFragment entry.1 (chunks.flatMap chunkCalls) = entry.2.id ∧
    joinedAt nameFragment entry.1 (chunks.flatMap chunkCalls) = entry.2.name ∧
    joinedAt argumentsFragment entry.1 (chunks.flatMap chunkCalls) = entry.2.arguments
  indexes : ∀ fragment ∈ chunks.flatMap chunkCalls, ∃ entry ∈ numbered,
    callIndex fragment = some entry.1
  finishReason : chunks.flatMap chunkReasons = [answer.finishReason]
  usage : chunks.filterMap chunkUsage = answer.usage.toList

/-- A body that streams the answer: its complete lines carry the chunks, and perhaps a `[DONE]` after
them. -/
def StreamsRefusal (crates : Crates) (answer : RefusalAnswer) (body : Bytes) : Prop :=
  ∃ input, CarriesChunks crates input ∧
    (∃ numbered, answer.Streamed numbered (input.filterMap (lineChunk crates))) ∧
    (lines lineFeed body = input ∨
      ∃ done after, IsDone done ∧ lines lineFeed body = input ++ done :: after)

/-! ### The text of a client -/

def OutputBlock.shownText : OutputBlock → String
  | .text shown => shown
  | .toolUse _ _ _ => ""

/-- The text of a whole answer. -/
def contentText (content : List OutputBlock) : String :=
  String.join (content.map OutputBlock.shownText)

/-- The text that a frame adds: that of a text delta. -/
def frameText (frame : SseFrame) : String :=
  match readFrame frame with
  | some (.blockDelta _ (.text text)) => text
  | _ => ""

/-- The text deltas of a stream, one after the other. -/
def streamedText (frames : List SseFrame) : String := String.join (frames.map frameText)

/-- The client of a whole answer gets the refusal. -/
def WholeDelivers (crates : Crates) (answer : RefusalAnswer) (responseId model : String) : Prop :=
  ∃ response, convertResponse crates (answer.wholeRefusal responseId) model = .ok response ∧
    contentText response.content = answer.refusal

/-- The client of a streamed answer gets the refusal. -/
def StreamDelivers (crates : Crates) (order : IterationOrder) (request : StreamRequest)
    (answer : RefusalAnswer) (chunks : List Bytes) : Prop :=
  streamedText (messageFrames crates order request (responseBody chunks .complete)) = answer.refusal

/-- Both clients get the refusal. -/
def RefusalDelivered (crates : Crates) (order : IterationOrder) (request : StreamRequest)
    (answer : RefusalAnswer) (chunks : List Bytes) (responseId model : String) : Prop :=
  WholeDelivers crates answer responseId model ∧ StreamDelivers crates order request answer chunks

/-! ### A stream without content -/

/-- An event that says nothing. -/
def ProviderEvent.Silent (event : ProviderEvent) : Prop := ∀ text, event ≠ .text text

theorem ProviderEvent.silent_toolStart (index : Nat) (id name : String) :
    (ProviderEvent.toolStart index id name).Silent := fun _ same => by cases same

theorem ProviderEvent.silent_toolDelta (index : Nat) (arguments : String) :
    (ProviderEvent.toolDelta index arguments).Silent := fun _ same => by cases same

/-- Only a text event can say anything. -/
theorem ProviderEvent.silent_usage (usage : Usage) : (ProviderEvent.usage usage).Silent :=
  fun _ same => by cases same

/-- A line on which no choice has content. -/
def Contentless (crates : Crates) (line : Bytes) : Prop :=
  ∀ chunk, lineChunk crates line = some chunk → ∀ text ∈ chunkTexts chunk, text = ""

section Stream

variable {crates : Crates} {order : IterationOrder}

/-- A chunk without text yields events that say nothing. -/
theorem decodeChunk_silent {chunk : Value} (empty : ∀ text ∈ chunkTexts chunk, text = "")
    (state : Decoder) : Gen.Yields ProviderEvent.Silent (decodeChunk state chunk) := by
  refine decodeChunk_yields ProviderEvent.silent_toolStart ProviderEvent.silent_toolDelta
    ProviderEvent.silent_usage ?_ state
  intro choice member
  unfold decodeContent
  cases content : (choice.pointer ["delta", "content"]).bind Value.asStr with
  | none => exact .pure _
  | some text =>
      have none : text = "" := empty text (List.mem_filterMap.mpr ⟨choice, member, content⟩)
      dsimp only
      rw [Gen.yieldIf, if_neg (not_not.mpr none)]
      exact .pure _

/-- The end of a stream says nothing, however it comes out. -/
theorem finish_silent (state : Decoder) (missing : String) :
    Gen.Yields ProviderEvent.Silent (finish crates order state missing) := by
  rcases finish_cases crates order state missing with ⟨reason, -, -, finishEq⟩ | ⟨error, finishEq⟩
  · rw [finishEq]
    intro event member text same
    rw [List.mem_singleton.mp member] at same
    cases same
  · rw [finishEq]
    exact .fail _

/-- So does the line that it comes in. -/
theorem decodeLine_silent {line : Bytes} (contentless : Contentless crates line) (state : Decoder) :
    Gen.Yields ProviderEvent.Silent (decodeLine crates order state line) := by
  unfold decodeLine
  cases carried : lineData line with
  | error error => exact .fail _
  | ok data =>
      rw [Gen.ofExcept_ok, pure_bind]
      cases data with
      | none => exact .pure _
      | some data =>
          dsimp only
          unfold decodeData
          split
          · exact .bind (finish_silent state _) fun _ _ => .pure _
          · next notDone =>
              cases parsed : crates.fromStr data with
              | error error => exact .fail _
              | ok chunk =>
                  have empty := contentless chunk (lineChunk_of_lineData carried notDone parsed)
                  exact .bind (decodeChunk_silent empty state) fun _ _ => .pure _

/-- The whole body says nothing, if no line up to its `[DONE]` has content. -/
theorem decodeBody_silent {input body : List Bytes}
    (contentless : ∀ line ∈ input, Contentless crates line)
    (ends : body = input ∨ ∃ done after, IsDone done ∧ body = input ++ done :: after)
    (ending : Ending) : Gen.Yields ProviderEvent.Silent (decodeBody crates order body ending) := by
  have first : ∀ state, Gen.Yields ProviderEvent.Silent
      (runLines (decodeLine crates order) state input) :=
    .runLines fun state line member => decodeLine_silent (contentless line member) state
  have all : Gen.Yields ProviderEvent.Silent (runLines (decodeLine crates order) {} body) := by
    rcases ends with rfl | ⟨done, after, isDone, rfl⟩
    · exact first {}
    · rw [runLines_append]
      refine .resume (first {}) fun state => ?_
      rw [runLines_of_done isDone]
      exact finish_silent state _
  unfold decodeBody
  refine .bind all fun flow _ => ?_
  cases flow with
  | done => exact .pure _
  | next state =>
      cases ending with
      | complete => exact .bind (finish_silent state _) fun _ _ => .pure _
      | silent => exact .pure _
      | broken error => exact .fail _

end Stream

/-! ### The frames of silent events -/

/-- The text of a stream is that of its parts. -/
theorem streamedText_append (first second : List SseFrame) :
    streamedText (first ++ second) = streamedText first ++ streamedText second := by
  unfold streamedText
  rw [List.map_append, join_append]

/-- There is none exactly if no frame has any. -/
theorem streamedText_eq_empty {frames : List SseFrame} :
    streamedText frames = "" ↔ ∀ frame ∈ frames, frameText frame = "" := by
  unfold streamedText
  rw [join_eq_empty, List.forall_mem_map]

namespace StreamEncoder

/-- The frames of tools have no text. -/
theorem encodeTools_text (tools : List BufferedTool) (next : Nat) :
    streamedText (encodeTools next tools).2 = "" := by
  induction tools generalizing next with
  | nil => rfl
  | cons tool rest inductionHypothesis =>
      rw [encodeTools]
      dsimp only
      rw [streamedText_append, inductionHypothesis, String.append_empty, streamedText_eq_empty]
      simp [toolFrames, frameText]

/-- Neither have those at the end. -/
theorem encodeFinished_text (encoder : StreamEncoder) (reason : StopReason) (usage : Option Usage) :
    streamedText (encoder.encodeFinished reason usage).2 = "" := by
  have closing : ∀ encoder : StreamEncoder, streamedText encoder.closeText = "" := by
    intro encoder
    rw [streamedText_eq_empty]
    unfold closeText
    cases encoder.textBlock <;> simp [frameText]
  have placeholder : ∀ encoder : StreamEncoder, streamedText encoder.placeholder.2 = "" := by
    intro encoder
    rw [streamedText_eq_empty]
    unfold StreamEncoder.placeholder
    split <;> simp [frameText]
  have last : ∀ outputTokens, streamedText [messageDelta reason outputTokens, messageStop] = "" := by
    intro outputTokens
    rw [streamedText_eq_empty]
    simp [frameText]
  unfold encodeFinished
  dsimp only
  rw [streamedText_append, streamedText_append, streamedText_append, closing, placeholder,
    encodeTools_text, last]
  rfl

/-- An event without text is encoded in frames without text. -/
theorem encode_text (encoder : StreamEncoder) {event : ProviderEvent} (silent : event.Silent) :
    streamedText (encoder.encode event).2 = "" := by
  cases event with
  | text text => exact absurd rfl (silent text)
  | toolStart index id name => rfl
  | toolDelta index arguments =>
      rw [encode]
      split <;> rfl
  | usage usage => rfl
  | finished reason usage => exact encodeFinished_text encoder reason usage

end StreamEncoder

/-- Events that say nothing are encoded to frames without text. -/
theorem encodeEvents_text (requestId : String) (encoder : StreamEncoder)
    {items : List (Except ProxyError ProviderEvent)}
    (silent : ∀ event, .ok event ∈ items → event.Silent) (tail : Tail) :
    streamedText (encodeEvents requestId encoder items tail) = "" := by
  have failed : ∀ error, streamedText [streamError error requestId] = "" := by
    intro error
    rw [streamedText_eq_empty]
    simp [frameText, readFrame_streamError]
  induction items generalizing encoder with
  | nil =>
      cases tail with
      | closed => rfl
      | pending => exact failed idleTimeout
  | cons item rest inductionHypothesis =>
      cases item with
      | error error => exact failed error
      | ok event =>
          rw [encodeEvents]
          dsimp only
          rw [streamedText_append, StreamEncoder.encode_text encoder (silent event List.mem_cons_self),
            inductionHypothesis _ fun event member => silent event (List.mem_cons_of_mem _ member)]
          rfl

/-- A client that is sent no text gets none. -/
theorem bodyStream_text (request : StreamRequest) {feed : Feed (Except ProxyError ProviderEvent)}
    (silent : ∀ event, .ok event ∈ feed.items → event.Silent) :
    streamedText (bodyStream request feed) = "" := by
  have start : frameText (StreamEncoder.messageStart request.messageId request.model
      request.inputTokens) = "" := by
    simp [frameText]
  unfold bodyStream StreamEncoder.new streamedText
  dsimp only
  rw [List.map_cons, join_cons, start]
  exact encodeEvents_text request.requestId _ silent feed.tail

/-! ### What becomes of the refusal -/

section Refusal

variable {crates : Crates} {order : IterationOrder}

/-- A body whose lines have no content gives the client no text. -/
theorem streamedText_of_contentless (request : StreamRequest) {input : List Bytes}
    {chunks : List Bytes} (contentless : ∀ line ∈ input, Contentless crates line)
    (ends : lines lineFeed chunks.flatten = input ∨
      ∃ done after, IsDone done ∧ lines lineFeed chunks.flatten = input ++ done :: after)
    (ending : Ending) :
    streamedText (messageFrames crates order request (responseBody chunks ending)) = "" := by
  unfold messageFrames
  apply bodyStream_text
  rw [parseSse_responseBody]
  intro event member
  have silent : Gen.Yields ProviderEvent.Silent
      (decodeBody crates order (lines lineFeed chunks.flatten) ending) :=
    decodeBody_silent contentless ends ending
  apply silent event
  unfold Gen.toFeed at member
  split at member
  · simpa using member
  · simpa using member

/-- A refusal that is streamed has no content in any line. -/
theorem RefusalAnswer.Streamed.contentless {answer : RefusalAnswer}
    {numbered : List (Nat × AnswerCall)} {input : List Bytes}
    (streamed : answer.Streamed numbered (input.filterMap (lineChunk crates))) :
    ∀ line ∈ input, Contentless crates line := by
  intro line member chunk found text isText
  refine join_eq_empty.mp streamed.text text (List.mem_flatMap.mpr ⟨chunk, ?_, isText⟩)
  exact List.mem_filterMap.mpr ⟨line, member, found⟩

/-- The streamed refusal reaches no client. -/
theorem stream_delivers_nothing (order : IterationOrder) (request : StreamRequest)
    {answer : RefusalAnswer} (wellFormed : answer.WellFormed) {chunks : List Bytes}
    (streams : StreamsRefusal crates answer chunks.flatten) :
    ¬ StreamDelivers crates order request answer chunks := by
  obtain ⟨input, -, ⟨numbered, streamed⟩, ends⟩ := streams
  unfold StreamDelivers
  rw [streamedText_of_contentless request streamed.contentless ends]
  exact fun same => wellFormed.refuses same.symm

/-- The translation of the whole answer: its refusal stands in for a content that is absent. -/
theorem convertResponse_refusal {answer : RefusalAnswer} {reason : StopReason}
    (known : mapStopReason (some answer.finishReason) = .ok reason) {outputs : List OutputBlock}
    (converted : (answer.calls.map AnswerCall.toToolCall).mapM (convertToolCall crates) = .ok outputs)
    (responseId model : String) :
    convertResponse crates (answer.wholeRefusal responseId) model =
      .ok
        { id := responseId
          kind := "message"
          role := "assistant"
          model := model
          content := responseContent (answer.text.or (some answer.refusal)) outputs
          stopReason := some reason.asStr
          stopSequence := none
          usage := answer.usage.getD ⟨0, 0⟩ } := by
  unfold convertResponse RefusalAnswer.wholeRefusal
  dsimp only
  rw [converted, known]
  cases answer.usage <;> rfl

/-- Calls have no text. -/
theorem contentText_of_converted {calls : List OpenAiToolCall} {outputs : List OutputBlock}
    (converted : calls.mapM (convertToolCall crates) = .ok outputs) : contentText outputs = "" := by
  rw [Except.mapM_eq_ok] at converted
  induction converted with
  | nil => rfl
  | cons one rest inductionHypothesis =>
      unfold contentText at inductionHypothesis ⊢
      rw [List.map_cons, join_cons, inductionHypothesis, String.append_empty]
      unfold convertToolCall at one
      split at one <;> cases one
      rfl

/-- The text of a whole answer is that of its message. -/
theorem contentText_responseContent {text : Option String} {outputs : List OutputBlock}
    (noText : contentText outputs = "") :
    contentText (responseContent text outputs) = text.getD "" := by
  have shown : contentText ((text.filter (· ≠ "")).map OutputBlock.text).toList = text.getD "" := by
    cases text with
    | none => rfl
    | some text =>
        by_cases empty : text = ""
        · rw [empty]
          rfl
        · rw [Option.filter_some_pos (by simpa using empty)]
          simp [contentText, OutputBlock.shownText]
  have all : contentText (((text.filter (· ≠ "")).map OutputBlock.text).toList ++ outputs) =
      text.getD "" := by
    unfold contentText at shown noText ⊢
    rw [List.map_append, join_append, shown, noText, String.append_empty]
  unfold responseContent
  dsimp only
  split
  · next empty =>
      rw [List.isEmpty_iff.mp empty] at all
      exact all
  · exact all

/-- The whole answer delivers its refusal exactly if it has no content, not even an empty one, and can
be translated at all. -/
theorem wholeDelivers_iff {answer : RefusalAnswer} (wellFormed : answer.WellFormed)
    (responseId model : String) :
    WholeDelivers crates answer responseId model ↔
      answer.text = none ∧ answer.ArgumentsParse crates := by
  obtain ⟨reason, known⟩ := knownReason_isSome.mp wellFormed.known
  rw [← exists_convertToolCalls]
  cases converted : (answer.calls.map AnswerCall.toToolCall).mapM (convertToolCall crates) with
  | error error =>
      constructor
      · rintro ⟨response, translated, -⟩
        unfold convertResponse RefusalAnswer.wholeRefusal at translated
        dsimp only at translated
        rw [converted] at translated
        cases translated
      · rintro ⟨-, outputs, impossible⟩
        cases impossible
  | ok outputs =>
      unfold WholeDelivers
      rw [convertResponse_refusal known converted]
      constructor
      · rintro ⟨response, translated, delivered⟩
        cases translated
        refine ⟨?_, outputs, rfl⟩
        rw [contentText_responseContent (contentText_of_converted converted)] at delivered
        cases text : answer.text with
        | none => rfl
        | some content =>
            have noText := wellFormed.noText
            rw [text] at delivered noText
            exact absurd (delivered.symm.trans noText) wellFormed.refuses
      · rintro ⟨absent, -⟩
        refine ⟨_, rfl, ?_⟩
        dsimp only
        rw [contentText_responseContent (contentText_of_converted converted), absent]
        rfl

/-- Of a refusal without content, the client of the whole answer gets the text exactly if the content
is absent; the client of the streamed answer never gets it. -/
theorem refusal_never_delivered (order : IterationOrder) (request : StreamRequest)
    {answer : RefusalAnswer} (wellFormed : answer.WellFormed) {chunks : List Bytes}
    (streams : StreamsRefusal crates answer chunks.flatten) (responseId model : String) :
    ¬ RefusalDelivered crates order request answer chunks responseId model ∧
      (WholeDelivers crates answer responseId model ↔
        answer.text = none ∧ answer.ArgumentsParse crates) :=
  ⟨fun delivered => stream_delivers_nothing order request wellFormed streams delivered.2,
    wholeDelivers_iff wellFormed responseId model⟩

end Refusal

/-! ### A refusal in one delta -/

def refusingAnswer : RefusalAnswer :=
  { text := none
    calls := []
    finishReason := "stop"
    usage := none
    refusal := "no" }

def refusingJson : String :=
  "\x7b\"choices\":[\x7b\"delta\":\x7b\"refusal\":\"no\"\x7d,\"finish_reason\":\"stop\"\x7d]\x7d"

def refusingChunk : Value :=
  .obj [("choices", .array [.obj
    [("delta", .obj [("refusal", .string "no")]), ("finish_reason", .string "stop")]])]

/-- The third-party entry points at the text of the chunk. -/
def refusingCrates : Crates where
  fromStr text :=
    if text = refusingJson then .ok refusingChunk
    else .error "expected value at line 1 column 1"
  toJson _ := "\x7b\x7d"
  base64Decode _ := none
  urlParse _ := .error "not called"

/-- The body that streams the refusal. -/
def refusingBody : Bytes :=
  utf8Bytes ("data: " ++ refusingJson) ++ lineFeed ::
    (utf8Bytes "data: [DONE]" ++ lineFeed :: [])

/-- The sample's refusal is a proper one. -/
theorem refusingAnswer_wellFormed : refusingAnswer.WellFormed where
  noText := rfl
  refuses := by decide
  known := by decide

theorem refusingLines_chunks : [utf8Bytes ("data: " ++ refusingJson)].map (lineChunk refusingCrates) =
    [refusingChunk].map some := by
  have line : lineChunk refusingCrates (utf8Bytes ("data: " ++ refusingJson)) =
      some refusingChunk := by
    refine lineChunk_of_data ?_ ?_ ?_ ?_ (by simp [refusingCrates])
    · decide +kernel
    · decide +kernel
    · decide +kernel
    · decide +kernel
  rw [List.map_singleton, line]
  rfl

theorem refusingBody_lines : lines lineFeed [refusingBody].flatten =
    [utf8Bytes ("data: " ++ refusingJson)] ++ utf8Bytes "data: [DONE]" :: [] := by
  unfold refusingBody
  rw [List.flatten_singleton, lines_append_delimiter, lines_append_delimiter]
  · rfl
  · decide +kernel
  · decide +kernel

/-- It is streamed in the sample's body. -/
theorem refusingBody_streams :
    StreamsRefusal refusingCrates refusingAnswer [refusingBody].flatten := by
  have streamed : refusingAnswer.Streamed [] [refusingChunk] := by
    constructor
    · decide +kernel
    · decide +kernel
    · rfl
    · exact .nil
    · intro entry member
      cases member
    · decide +kernel
    · decide +kernel
    · decide +kernel
  refine ⟨_, carriesChunks_of_chunks refusingLines_chunks, ⟨[], ?_⟩,
    .inr ⟨_, [], isDone_dataDone, refusingBody_lines⟩⟩
  rw [filterMap_of_chunks refusingLines_chunks]
  exact streamed

/-- The sample's refusal, a "no", is delivered neither way. -/
theorem refusal_never_delivered_no :
    ¬ RefusalDelivered refusingCrates insertionOrder default refusingAnswer [refusingBody] "r" "m" ∧
      (WholeDelivers refusingCrates refusingAnswer "r" "m" ↔
        refusingAnswer.text = none ∧ refusingAnswer.ArgumentsParse refusingCrates) :=
  refusal_never_delivered insertionOrder default refusingAnswer_wellFormed refusingBody_streams
    "r" "m"

/-- The whole answer says "no", and the stream of the same answer says nothing. -/
theorem streamed_refusal_lost :
    refusingAnswer.WellFormed ∧
    StreamsRefusal refusingCrates refusingAnswer [refusingBody].flatten ∧
    WholeDelivers refusingCrates refusingAnswer "r" "m" ∧
    streamedText (messageFrames refusingCrates insertionOrder default
      (responseBody [refusingBody] .complete)) = "" ∧
    ¬ RefusalDelivered refusingCrates insertionOrder default refusingAnswer [refusingBody] "r"
      "m" := by
  refine ⟨refusingAnswer_wellFormed, refusingBody_streams, ?_, ?_, ?_⟩
  · rw [wholeDelivers_iff refusingAnswer_wellFormed]
    refine ⟨rfl, ?_⟩
    intro call member
    cases member
  · obtain ⟨input, -, ⟨numbered, streamed⟩, ends⟩ := refusingBody_streams
    exact streamedText_of_contentless default streamed.contentless ends .complete
  · rintro ⟨-, streamDelivers⟩
    exact stream_delivers_nothing insertionOrder default refusingAnswer_wellFormed
      refusingBody_streams streamDelivers

end ClaudeProxy
