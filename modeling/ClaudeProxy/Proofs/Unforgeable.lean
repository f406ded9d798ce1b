/-
Module: ClaudeProxy.Proofs.Unforgeable
Layer: Proofs
Purpose: No content can forge a frame. Whatever texts, ids, names, arguments and messages go into the
  frames of a stream, a client that reads their bytes gets the name and the value of each frame, in
  their order, and nothing else. The names of the frames are the source's own, and each value is one
  line of JSON.
Trusted boundary: none
Main exports: BuiltFrame, SseFrame.Sound, encode_sound, BuiltFrame.sound, received_frames
-/
import ClaudeProxy.Client.EventSource
import ClaudeProxy.Server.BodyStream

namespace ClaudeProxy

open Library

/-! ### Sound frames -/

/-- A name that is one line of its own, and a value that its text determines. -/
structure SseFrame.Sound (frame : SseFrame) : Prop where
  present : frame.event ≠ ""
  oneLine : ∀ symbol ∈ frame.event.toList, symbol.toNat ≠ 10 ∧ symbol.toNat ≠ 13
  exact : frame.data.Exact

/-- An event with a name and a value that is exact is sound: no line of it can be taken for another.
-/
theorem sseEvent_sound {name : String} {data : Value} (present : name ≠ "")
    (oneLine : (name.toList.all fun symbol => symbol.toNat ≠ 10 ∧ symbol.toNat ≠ 13) = true)
    (exact : data.Exact) : (sseEvent name data).Sound :=
  ⟨present, List.all_iff_forall_prop.mp oneLine, exact⟩

/-- The values of a map are exact. -/
def Entries.AllExact (entries : Entries) : Prop := ∀ entry ∈ entries, entry.2.Exact

theorem Entries.AllExact.nil : Entries.AllExact [] := List.forall_mem_nil _

theorem Entries.AllExact.cons {key : String} {value : Value} {rest : Entries} (exact : value.Exact)
    (exactRest : rest.AllExact) : Entries.AllExact ((key, value) :: rest) :=
  List.forall_mem_cons.mpr ⟨exact, exactRest⟩

/-- An object is exact if its entries are, as its keys are put in order. -/
theorem Value.exact_obj {entries : Entries} (exact : entries.AllExact) :
    (Value.obj entries).Exact := by
  apply Value.Exact.object (Entries.collected_ascending entries)
  intro entry member
  exact exact entry (Entries.mem_collected member)

/-- A number within 64 bits is exact. -/
theorem Value.exact_num {value : Nat} (fits : value < 2 ^ 64) : (Value.num value).Exact :=
  .unsigned fits

namespace StreamEncoder

/-- The numbers of an encoder fit their types. -/
structure FitsTypes (encoder : StreamEncoder) : Prop where
  nextBlock : encoder.nextBlock < 2 ^ 64
  textBlock : ∀ index, encoder.textBlock = some index → index < 2 ^ 64
  outputTokens : encoder.outputTokens < 2 ^ 64

/-- The opening of a block is sound, as long as its number fits its type. -/
theorem contentBlockStart_sound {index : Nat} (fits : index < 2 ^ 64) {block : Value}
    (exact : block.Exact) : (contentBlockStart index block).Sound :=
  @sseEvent_sound "content_block_start" _ (by decide) rfl
    (Value.exact_obj (.cons (.string _) (.cons (Value.exact_num fits) (.cons exact .nil))))

/-- So is a part of a block. -/
theorem contentBlockDelta_sound {index : Nat} (fits : index < 2 ^ 64) {delta : Value}
    (exact : delta.Exact) : (contentBlockDelta index delta).Sound :=
  @sseEvent_sound "content_block_delta" _ (by decide) rfl
    (Value.exact_obj (.cons (.string _) (.cons (Value.exact_num fits) (.cons exact .nil))))

/-- So is the end of a block. -/
theorem contentBlockStop_sound {index : Nat} (fits : index < 2 ^ 64) :
    (contentBlockStop index).Sound :=
  @sseEvent_sound "content_block_stop" _ (by decide) rfl
    (Value.exact_obj (.cons (.string _) (.cons (Value.exact_num fits) .nil)))

/-- The opening of the message is sound, whatever id and model it names. -/
theorem messageStart_sound (messageId model : String) {inputTokens : Nat}
    (fits : inputTokens < 2 ^ 64) : (messageStart messageId model inputTokens).Sound := by
  have usage : (Value.obj [("input_tokens", .num inputTokens), ("output_tokens", .num 0)]).Exact :=
    Value.exact_obj (.cons (Value.exact_num fits) (.cons (Value.exact_num (by decide)) .nil))
  have noContent : (Value.array []).Exact := .array (List.forall_mem_nil _)
  refine @sseEvent_sound "message_start" _ (by decide) rfl
    (Value.exact_obj (.cons (.string _) (.cons (Value.exact_obj ?_) .nil)))
  exact .cons (.string messageId) (.cons (.string _) (.cons (.string _) (.cons (.string model)
    (.cons noContent (.cons .null (.cons .null (.cons usage .nil)))))))

theorem textBlockStart_sound {index : Nat} (fits : index < 2 ^ 64) : (textBlockStart index).Sound :=
  contentBlockStart_sound fits (Value.exact_obj (.cons (.string _) (.cons (.string _) .nil)))

theorem textDelta_sound {index : Nat} (fits : index < 2 ^ 64) (text : String) :
    (textDelta index text).Sound :=
  contentBlockDelta_sound fits (Value.exact_obj (.cons (.string _) (.cons (.string _) .nil)))

/-- The frames of a buffered tool are sound, whatever its name and arguments are. -/
theorem toolFrames_sound {index : Nat} (fits : index < 2 ^ 64) (tool : BufferedTool) :
    ∀ frame ∈ toolFrames index tool, frame.Sound := by
  have noInput : (Value.obj []).Exact := Value.exact_obj .nil
  have blockStart : (toolBlockStart index tool).Sound :=
    contentBlockStart_sound fits (Value.exact_obj (.cons (.string _) (.cons (.string _)
      (.cons (.string _) (.cons noInput .nil)))))
  have delta : (inputJsonDelta index tool.arguments).Sound :=
    contentBlockDelta_sound fits (Value.exact_obj (.cons (.string _) (.cons (.string _) .nil)))
  simp only [toolFrames, List.forall_mem_cons]
  exact ⟨blockStart, delta, contentBlockStop_sound fits, List.forall_mem_nil _⟩

/-- The frame with the stop reason and the usage is sound. -/
theorem messageDelta_sound (reason : StopReason) {outputTokens : Nat} (fits : outputTokens < 2 ^ 64) :
    (messageDelta reason outputTokens).Sound := by
  refine @sseEvent_sound "message_delta" _ (by decide) rfl (Value.exact_obj (.cons (.string _)
    (.cons (Value.exact_obj ?_) (.cons (Value.exact_obj ?_) .nil))))
  · exact .cons (.string reason.asStr) (.cons .null .nil)
  · exact .cons (Value.exact_num fits) .nil

/-- The last frame is sound. -/
theorem messageStop_sound : messageStop.Sound :=
  @sseEvent_sound "message_stop" _ (by decide) rfl
    (Value.exact_obj (.cons (.string _) .nil))

/-! ### The frames of an event -/

/-- All frames of a text event are sound. -/
theorem encodeText_sound {encoder : StreamEncoder} {text : String}
    (fits : (encoder.encodeText text).1.FitsTypes) :
    ∀ frame ∈ (encoder.encodeText text).2, frame.Sound := by
  unfold encodeText at fits ⊢
  split
  · rename_i index opened
    rw [opened] at fits
    have small := fits.textBlock index opened
    simp only [List.forall_mem_cons]
    exact ⟨textDelta_sound small text, List.forall_mem_nil _⟩
  · rename_i closed
    rw [closed] at fits
    have small := fits.textBlock encoder.nextBlock rfl
    simp only [List.forall_mem_cons]
    exact ⟨textBlockStart_sound small, textDelta_sound small text, List.forall_mem_nil _⟩

/-- The blocks of the tools are numbered below the number that follows the last. The induction is on
the tools. -/
theorem encodeTools_sound (tools : List BufferedTool) {next : Nat}
    (fits : (encodeTools next tools).1 < 2 ^ 64) :
    next < 2 ^ 64 ∧ ∀ frame ∈ (encodeTools next tools).2, frame.Sound := by
  induction tools generalizing next with
  | nil => exact ⟨fits, List.forall_mem_nil _⟩
  | cons tool rest inductionHypothesis =>
      obtain ⟨small, soundRest⟩ := inductionHypothesis fits
      have smaller : next < 2 ^ 64 := Nat.lt_of_succ_lt small
      refine ⟨smaller, ?_⟩
      intro frame member
      rcases List.mem_append.mp member with here | later
      · exact toolFrames_sound smaller tool frame here
      · exact soundRest frame later

/-- All frames of the last event are sound. -/
theorem encodeFinished_sound {encoder : StreamEncoder} {reason : StopReason} {usage : Option Usage}
    (fits : (encoder.encodeFinished reason usage).1.FitsTypes) :
    ∀ frame ∈ (encoder.encodeFinished reason usage).2, frame.Sound := by
  generalize recordedEq : encoder.recordFinalUsage usage = recorded
  unfold encodeFinished at fits ⊢
  rw [recordedEq] at fits ⊢
  dsimp only at fits ⊢
  obtain ⟨toolsStart, soundTools⟩ := encodeTools_sound recorded.bufferedTools fits.nextBlock
  have soundText : ∀ frame ∈ recorded.closeText, frame.Sound := by
    unfold closeText
    split
    · rename_i index opened
      simp only [List.forall_mem_cons]
      exact ⟨contentBlockStop_sound (fits.textBlock index opened), List.forall_mem_nil _⟩
    · exact List.forall_mem_nil _
  have soundPlaceholder : ∀ frame ∈ recorded.placeholder.2, frame.Sound := by
    unfold placeholder at toolsStart ⊢
    split
    · rename_i silent
      rw [if_pos silent] at toolsStart
      have small : recorded.nextBlock < 2 ^ 64 := Nat.lt_of_succ_lt toolsStart
      simp only [List.forall_mem_cons]
      exact ⟨textBlockStart_sound small, contentBlockStop_sound small, List.forall_mem_nil _⟩
    · exact List.forall_mem_nil _
  simp only [List.forall_mem_append, List.forall_mem_cons]
  exact ⟨soundText, soundPlaceholder, soundTools, messageDelta_sound reason fits.outputTokens,
    messageStop_sound, List.forall_mem_nil _⟩

/-- So the frames of any event are. -/
theorem encode_sound {encoder : StreamEncoder} {event : ProviderEvent}
    (fits : (encoder.encode event).1.FitsTypes) :
    ∀ frame ∈ (encoder.encode event).2, frame.Sound := by
  cases event with
  | text text => exact encodeText_sound fits
  | toolStart index id name => exact List.forall_mem_nil _
  | toolDelta index arguments =>
      unfold encode
      dsimp only
      split
      · exact List.forall_mem_nil _
      · exact List.forall_mem_nil _
  | usage usage => exact List.forall_mem_nil _
  | finished reason usage => exact encodeFinished_sound fits

end StreamEncoder

/-- The error frame is sound, whatever the error says. -/
theorem streamError_sound (error : ProxyError) (requestId : String) :
    (streamError error requestId).Sound := by
  refine @sseEvent_sound "error" _ (by decide) rfl (Value.exact_obj (.cons (.string _)
    (.cons (Value.exact_obj ?_) (.cons (.string requestId) .nil))))
  exact .cons (.string error.anthropicType) (.cons (.string error.message) .nil)

/-! ### What a client receives -/

/-- A frame as the source builds it: with `sse_event` under a name of one line, with an encoder in any
state, or with `stream_error`. Nothing is asked of the texts in it. -/
inductive BuiltFrame : SseFrame → Prop where
  | event {name : String} {data : Value} (present : name ≠ "")
      (oneLine : ∀ symbol ∈ name.toList, symbol.toNat ≠ 10 ∧ symbol.toNat ≠ 13)
      (exact : data.Exact) : BuiltFrame (sseEvent name data)
  | start (messageId model : String) {inputTokens : Nat} (fits : inputTokens < 2 ^ 64) :
      BuiltFrame (StreamEncoder.new messageId model inputTokens).2
  | encoded {encoder : StreamEncoder} {event : ProviderEvent}
      (fits : (encoder.encode event).1.FitsTypes) {frame : SseFrame}
      (member : frame ∈ (encoder.encode event).2) : BuiltFrame frame
  | failed (error : ProxyError) (requestId : String) : BuiltFrame (streamError error requestId)

/-- So every frame that is ever built is. -/
theorem BuiltFrame.sound {frame : SseFrame} (built : BuiltFrame frame) : frame.Sound := by
  cases built with
  | event present oneLine exact => exact ⟨present, oneLine, exact⟩
  | start messageId model fits => exact StreamEncoder.messageStart_sound messageId model fits
  | encoded fits member => exact StreamEncoder.encode_sound fits frame member
  | failed error requestId => exact streamError_sound error requestId

/-- The bytes of a frame. -/
def SseFrame.bytes (crates : Crates) (frame : SseFrame) : Bytes := utf8Bytes (frame.render crates)

/-- The text of a frame is an event in two lines. -/
theorem SseFrame.bytes_eq (crates : Crates) (frame : SseFrame) :
    frame.bytes crates =
      writeEvent (utf8Bytes frame.event) (utf8Bytes (crates.toJson frame.data)) := by
  have middle : utf8Bytes "\ndata: " = [10] ++ utf8Bytes "data: " := by decide
  have ending : utf8Bytes "\n\n" = [10] ++ [10] := by decide
  have text : frame.render crates =
      "event: " ++ frame.event ++ "\ndata: " ++ crates.toJson frame.data ++ "\n\n" := rfl
  unfold SseFrame.bytes writeEvent
  rw [text]
  simp only [utf8Bytes_append, middle, ending, List.append_assoc]

section Read

variable {crates : Crates} {parseJson : String → Option Value} {frame : SseFrame}

/-- The bytes of a sound frame are clean. -/
theorem SseFrame.Sound.clean (sound : frame.Sound)
    (escapes : ∀ symbol ∈ (crates.toJson frame.data).toList, 0x20 ≤ symbol.toNat) :
    OneLine (utf8Bytes frame.event) ∧ utf8Bytes frame.event ≠ [] ∧
      OneLine (utf8Bytes (crates.toJson frame.data)) := by
  refine ⟨oneLine_utf8Bytes sound.oneLine, ?_, oneLine_utf8Bytes ?_⟩
  · intro empty
    have same : fromUtf8 [] = some frame.event := fromUtf8_eq_some.mpr empty.symm
    rw [show fromUtf8 [] = some "" from fromUtf8_eq_some.mpr rfl, Option.some.injEq] at same
    exact sound.present same.symm
  · intro symbol member
    have escaped := escapes symbol member
    omega

/-- A client reads the value of a frame back, if its parser reads what the proxy's writer writes. -/
theorem clientEvent_eq (readsBack : parseJson (crates.toJson frame.data) = some frame.data) :
    clientEvent parseJson
        { type := utf8Bytes frame.event
          data := utf8Bytes (crates.toJson frame.data)
          lastId := [] } = some (frame.event, frame.data) := by
  unfold clientEvent
  rw [fromUtf8_utf8Bytes, fromUtf8_utf8Bytes]
  simp [readsBack]

end Read

/-- A client receives exactly the frames that were built, whatever is in them and in whatever chunks
their bytes arrive. -/
theorem received_frames {crates : Crates} {parseJson : String → Option Value}
    {frames : List SseFrame} (faithful : FaithfulJson crates parseJson (frames.map SseFrame.data))
    (built : ∀ frame ∈ frames, BuiltFrame frame) {chunks : List Bytes}
    (sent : chunks.flatten = frames.flatMap (SseFrame.bytes crates)) :
    received parseJson chunks = frames.map fun frame => some (frame.event, frame.data) := by
  have written : chunks.flatten =
      (frames.map fun frame => (utf8Bytes frame.event, utf8Bytes (crates.toJson frame.data))).flatMap
        fun event => writeEvent event.1 event.2 := by
    rw [sent, List.flatMap_map]
    exact congrArg (List.flatMap · frames) (funext (SseFrame.bytes_eq crates))
  have clean : ∀ event ∈ frames.map fun frame =>
      (utf8Bytes frame.event, utf8Bytes (crates.toJson frame.data)),
        OneLine event.1 ∧ event.1 ≠ [] ∧ OneLine event.2 := by
    intro event member
    obtain ⟨frame, isFrame, rfl⟩ := List.mem_map.mp member
    exact (built frame isFrame).sound.clean (faithful.escapes _ (List.mem_map_of_mem isFrame))
  unfold received
  rw [readEvents_write written clean, List.map_map, List.map_map]
  apply List.map_congr_left
  intro frame isFrame
  have sound := (built frame isFrame).sound
  exact clientEvent_eq (faithful.readsBack _ (List.mem_map_of_mem isFrame) sound.exact)

/-! ### Sample -/

/-- A text that looks like an event of its own. -/
def forgingText : String := "a\n\nevent: error\ndata: b\n\n"

def forgingDelta : SseFrame := StreamEncoder.textDelta 0 forgingText

def forgingError : SseFrame := streamError (.new .internal forgingText) "r"

def forgingDeltaJson : String :=
  "\x7b\"delta\":\x7b\"text\":\"a\\n\\nevent: error\\ndata: b\\n\\n\",\"type\":\"text_delta\"\x7d," ++
    "\"index\":0,\"type\":\"content_block_delta\"\x7d"

def forgingErrorJson : String :=
  "\x7b\"error\":\x7b\"message\":\"a\\n\\nevent: error\\ndata: b\\n\\n\"," ++
    "\"type\":\"api_error\"\x7d,\"request_id\":\"r\",\"type\":\"error\"\x7d"

def forgingCrates : Crates where
  fromStr _ := .error "no JSON"
  toJson value := if value.strAt "type" = some "error" then forgingErrorJson else forgingDeltaJson
  base64Decode _ := none
  urlParse _ := .error "no URL"

def forgingParse (text : String) : Option Value :=
  if text = forgingErrorJson then some forgingError.data
  else if text = forgingDeltaJson then some forgingDelta.data
  else none

def forgingEncoder : StreamEncoder := (StreamEncoder.new "m" "c" 0).1

/-- The bytes of both frames. -/
def forgingBytes : Bytes :=
  forgingDelta.bytes forgingCrates ++ forgingError.bytes forgingCrates

/-- A delta whose text looks like an error frame, and an error, cut in two: the client receives just
these two. -/
theorem received_frames_forging :
    received forgingParse [forgingBytes.take 12, forgingBytes.drop 12] =
      [some ("content_block_delta", forgingDelta.data), some ("error", forgingError.data)] := by
  have deltaText : forgingCrates.toJson forgingDelta.data = forgingDeltaJson := by rfl
  have errorText : forgingCrates.toJson forgingError.data = forgingErrorJson := by rfl
  have faithful : FaithfulJson forgingCrates forgingParse
      ([forgingDelta, forgingError].map SseFrame.data) := by
    simp only [List.map_cons, List.map_nil]
    constructor
    · simp only [List.forall_mem_cons, deltaText, errorText]
      exact ⟨List.all_iff_forall_prop.mp rfl, List.all_iff_forall_prop.mp rfl,
        List.forall_mem_nil _⟩
    · simp only [List.forall_mem_cons, deltaText, errorText]
      exact ⟨fun _ => rfl, fun _ => rfl, List.forall_mem_nil _⟩
  have built : ∀ frame ∈ [forgingDelta, forgingError], BuiltFrame frame := by
    have fits : (forgingEncoder.encode (.text forgingText)).1.FitsTypes := by
      refine ⟨by decide, ?_, by decide⟩
      rintro index ⟨⟩
      decide
    simp only [List.forall_mem_cons]
    refine ⟨.encoded fits ?_, .failed _ _, List.forall_mem_nil _⟩
    exact List.mem_cons_of_mem _ List.mem_cons_self
  exact received_frames faithful built (by simp [forgingBytes])

end ClaudeProxy
