/-
Module: ClaudeProxy.Proofs.Segments
Layer: Proofs
Purpose: What each message becomes on the wire. The translation sorts the blocks of a message into
  accumulators and collapses what it finds there; here is the segment of a message in terms of its
  blocks alone.
Trusted boundary: none
Main exports: blockPart, blockResult, blockCall, blockText, contentParts, UserSegment,
  AssistantSegment, SegmentFor, convertMessage_segmentFor, convertMessages_exact
-/
import ClaudeProxy.Proofs.SemanticLoss
import ClaudeProxy.Proofs.Translation

namespace ClaudeProxy

open Library

/-! ### What a block says -/

/-- The part of a block in the content of a message. -/
def blockPart : InputBlock → Option Value
  | .text text => some (textPart text)
  | .image mediaType data => some (imagePart mediaType data)
  | .toolUse _ _ _ => none
  | .toolResult _ _ _ => none

/-- The message of a tool result. -/
def blockResult : InputBlock → Option Value
  | .toolResult toolUseId (.string text) isError =>
      some (.obj [("role", .string "tool"), ("tool_call_id", .string toolUseId),
        ("content", .string (if isError = true then "Error: " ++ text else text))])
  | _ => none

/-- The call of a tool. -/
def blockCall (crates : Crates) : InputBlock → Option Value
  | .toolUse id name input =>
      some (.obj [("id", .string id), ("type", .string "function"),
        ("function", .obj [("name", .string name), ("arguments", .string (crates.toJson input))])])
  | _ => none

def blockText : InputBlock → Option String
  | .text text => some text
  | _ => none

/-- The parts of a content: a bare string counts as one text part. -/
def contentParts : Value → List Value
  | .string text => [textPart text]
  | .array parts => parts
  | _ => []

/-- The blocks that a message of the system or of the user can send. -/
def UserSends : InputBlock → Prop
  | .text _ => True
  | .image _ _ => True
  | .toolUse _ _ _ => False
  | .toolResult _ content _ => content.isString = true

/-- The blocks that a message of the assistant can send. -/
def AssistantSends : InputBlock → Prop
  | .text _ => True
  | .image _ _ => False
  | .toolUse _ _ _ => True
  | .toolResult _ _ _ => False

/-! ### Segments -/

/-- The results of a message come first, one message each; its texts and images follow in one message
of its role, if there are any. -/
structure UserSegment (role : String) (blocks : List InputBlock) (segment : List Value) :
    Prop where
  sends : ∀ block ∈ blocks, UserSends block
  silent : (∀ block ∈ blocks, blockPart block = none) → segment = blocks.filterMap blockResult
  speaks : (∃ block ∈ blocks, blockPart block ≠ none) →
    ∃ content,
      segment = blocks.filterMap blockResult ++
        [.obj [("role", .string role), ("content", content)]] ∧
      contentParts content = blocks.filterMap blockPart

/-- The text of a message of the assistant, or `null` where it has none. -/
def assistantContent (blocks : List InputBlock) : Value :=
  if String.join (blocks.filterMap blockText) = "" then .null
  else .string (String.join (blocks.filterMap blockText))

/-- The calls of a message of the assistant, if there are any. -/
def assistantCalls (crates : Crates) (blocks : List InputBlock) : Entries :=
  if blocks.filterMap (blockCall crates) = [] then []
  else [("tool_calls", .array (blocks.filterMap (blockCall crates)))]

/-- A message of the assistant stays one message. -/
structure AssistantSegment (crates : Crates) (blocks : List InputBlock) (segment : List Value) :
    Prop where
  sends : ∀ block ∈ blocks, AssistantSends block
  single : segment =
    [.obj ([("role", .string "assistant"), ("content", assistantContent blocks)] ++
      assistantCalls crates blocks)]

def SegmentFor (crates : Crates) (message : NormalizedMessage) (segment : List Value) : Prop :=
  match message.role with
  | .system => UserSegment "system" message.blocks segment
  | .user => UserSegment "user" message.blocks segment
  | .assistant => AssistantSegment crates message.blocks segment

/-! ### Messages of the system and of the user -/

/-- What the blocks seen so far have been sorted into. -/
structure UserParts.SortedFrom (parts : UserParts) (blocks : List InputBlock) : Prop where
  sends : ∀ block ∈ blocks, UserSends block
  content : parts.content = blocks.filterMap blockPart
  results : parts.toolResults = blocks.filterMap blockResult

theorem UserParts.SortedFrom.start : UserParts.SortedFrom {} [] := by
  constructor
  · simp
  · rfl
  · rfl

theorem UserParts.SortedFrom.add {parts next : UserParts} {block : InputBlock}
    {blocks : List InputBlock} (sorted : parts.SortedFrom blocks)
    (accepted : parts.add block = .ok next) : next.SortedFrom (blocks ++ [block]) := by
  cases block with
  | text text =>
      cases accepted
      constructor
      · simpa [UserSends, or_imp, forall_and] using sorted.sends
      · simp [sorted.content, blockPart]
      · simp [sorted.results, blockResult]
  | image mediaType data =>
      cases accepted
      constructor
      · simpa [UserSends, or_imp, forall_and] using sorted.sends
      · simp [sorted.content, blockPart]
      · simp [sorted.results, blockResult]
  | toolUse id name input => cases accepted
  | toolResult toolUseId content isError =>
      obtain ⟨text, isText, same⟩ := Except.bind_eq_ok.mp accepted
      cases same
      obtain rfl := Value.asStr_eq_some.mp (orReject_eq_ok.mp isText)
      constructor
      · simpa [UserSends, Value.isString, or_imp, forall_and] using sorted.sends
      · simp [sorted.content, blockPart]
      · simp [sorted.results, blockResult, toolMessage]

theorem UserParts.SortedFrom.run {blocks : List InputBlock} {final : UserParts}
    (accepted : blocks.foldlM UserParts.add {} = .ok final) : final.SortedFrom blocks := by
  have sorted : final.SortedFrom ([] ++ blocks.flatMap fun block => [block]) :=
    Except.foldlM_accumulates UserParts.SortedFrom.add UserParts.SortedFrom.start accepted
  simpa using sorted

/-- A part says of itself that it is a text exactly if it is one, and then shows which. -/
theorem contentParts_contentValue (blocks : List InputBlock) :
    contentParts (contentValue (blocks.filterMap blockPart)) = blocks.filterMap blockPart := by
  have partShape : ∀ part ∈ blocks.filterMap blockPart,
      (∃ text, part = textPart text) ∨ ∃ mediaType data, part = imagePart mediaType data := by
    intro part member
    obtain ⟨block, -, isPart⟩ := List.mem_filterMap.mp member
    cases block with
    | text text => exact .inl ⟨text, (Option.some.inj isPart).symm⟩
    | image mediaType data => exact .inr ⟨mediaType, data, (Option.some.inj isPart).symm⟩
    | toolUse id name input => cases isPart
    | toolResult toolUseId content isError => cases isPart
  cases parts : blocks.filterMap blockPart with
  | nil => rfl
  | cons part rest =>
      cases rest with
      | cons second others => rfl
      | nil =>
          have shape := partShape part (by simp [parts])
          rcases shape with ⟨text, rfl⟩ | ⟨mediaType, data, rfl⟩
          · simp [contentValue, textPart, Value.strAt, contentParts]
          · simp [contentValue, imagePart, Value.strAt, contentParts]

theorem UserParts.SortedFrom.segment {parts : UserParts} {blocks : List InputBlock}
    (sorted : parts.SortedFrom blocks) (role : String) :
    UserSegment role blocks (parts.messages role) := by
  unfold UserParts.messages
  rw [sorted.results, sorted.content]
  constructor
  · exact sorted.sends
  · intro silent
    have empty : blocks.filterMap blockPart = [] := List.filterMap_eq_nil_iff.mpr silent
    rw [empty]
    simp
  · rintro ⟨block, member, speaks⟩
    have nonempty : (blocks.filterMap blockPart).isEmpty = false := by
      rw [List.isEmpty_eq_false_iff]
      intro empty
      exact speaks (List.filterMap_eq_nil_iff.mp empty block member)
    refine ⟨contentValue (blocks.filterMap blockPart), ?_, contentParts_contentValue blocks⟩
    rw [nonempty]
    rfl

/-! ### Messages of the assistant -/

section Translation

variable {crates : Crates}

structure AssistantParts.SortedFrom (crates : Crates) (parts : AssistantParts)
    (blocks : List InputBlock) : Prop where
  sends : ∀ block ∈ blocks, AssistantSends block
  text : parts.text = String.join (blocks.filterMap blockText)
  calls : parts.calls = blocks.filterMap (blockCall crates)

theorem AssistantParts.SortedFrom.start : AssistantParts.SortedFrom crates {} [] := by
  constructor
  · simp
  · rfl
  · rfl

theorem AssistantParts.SortedFrom.add {parts next : AssistantParts} {block : InputBlock}
    {blocks : List InputBlock} (sorted : parts.SortedFrom crates blocks)
    (accepted : parts.add crates block = .ok next) : next.SortedFrom crates (blocks ++ [block]) := by
  cases block with
  | text text =>
      cases accepted
      constructor
      · simpa [AssistantSends, or_imp, forall_and] using sorted.sends
      · simp [sorted.text, blockText]
      · simp [sorted.calls, blockCall]
  | image mediaType data => cases accepted
  | toolUse id name input =>
      cases accepted
      constructor
      · simpa [AssistantSends, or_imp, forall_and] using sorted.sends
      · simp [sorted.text, blockText, List.filterMap_cons]
      · simp [sorted.calls, blockCall, callValue]
  | toolResult toolUseId content isError => cases accepted

theorem AssistantParts.SortedFrom.run {blocks : List InputBlock} {final : AssistantParts}
    (accepted : blocks.foldlM (AssistantParts.add crates) {} = .ok final) :
    final.SortedFrom crates blocks := by
  have sorted : final.SortedFrom crates ([] ++ blocks.flatMap fun block => [block]) :=
    Except.foldlM_accumulates AssistantParts.SortedFrom.add AssistantParts.SortedFrom.start accepted
  simpa using sorted

theorem AssistantParts.SortedFrom.segment {parts : AssistantParts} {blocks : List InputBlock}
    (sorted : parts.SortedFrom crates blocks) :
    AssistantSegment crates blocks [parts.message] := by
  constructor
  · exact sorted.sends
  · unfold AssistantParts.message assistantContent assistantCalls
    rw [sorted.text, sorted.calls]
    by_cases silent : blocks.filterMap (blockCall crates) = []
    · simp [silent]
    · simp [silent, Value.obj, Value.set]

/-! ### The conversation -/

/-- A message becomes the segment of its blocks. -/
theorem convertMessage_segmentFor {message : NormalizedMessage} {segment : List Value}
    (accepted : convertMessage crates message = .ok segment) : SegmentFor crates message segment := by
  obtain ⟨role, blocks⟩ := message
  cases role with
  | system =>
      obtain ⟨parts, partsEq, same⟩ := Except.bind_eq_ok.mp accepted
      cases same
      exact (UserParts.SortedFrom.run partsEq).segment "system"
  | user =>
      obtain ⟨parts, partsEq, same⟩ := Except.bind_eq_ok.mp accepted
      cases same
      exact (UserParts.SortedFrom.run partsEq).segment "user"
  | assistant =>
      obtain ⟨parts, partsEq, same⟩ := Except.bind_eq_ok.mp accepted
      cases same
      exact (AssistantParts.SortedFrom.run partsEq).segment

/-- What is sent for a message of the system or of the user: a result, or its content. -/
theorem UserSegment.sent_cases {role : String} {blocks : List InputBlock} {segment : List Value}
    (shape : UserSegment role blocks segment) {sent : Value} (isSent : sent ∈ segment) :
    (∃ block ∈ blocks, blockResult block = some sent) ∨
      ∃ content, sent = .obj [("role", .string role), ("content", content)] ∧
        contentParts content = blocks.filterMap blockPart := by
  by_cases speaks : ∃ block ∈ blocks, blockPart block ≠ none
  · obtain ⟨content, rfl, parts⟩ := shape.speaks speaks
    rcases List.mem_append.mp isSent with result | last
    · exact .inl (List.mem_filterMap.mp result)
    · exact .inr ⟨content, List.mem_singleton.mp last, parts⟩
  · have silent : ∀ block ∈ blocks, blockPart block = none := by
      intro block member
      by_contra part
      exact speaks ⟨block, member, part⟩
    rw [shape.silent silent] at isSent
    exact .inl (List.mem_filterMap.mp isSent)

/-- Every result of the message is sent. -/
theorem UserSegment.result_sent {role : String} {blocks : List InputBlock} {segment : List Value}
    (shape : UserSegment role blocks segment) {block : InputBlock} (member : block ∈ blocks)
    {sent : Value} (result : blockResult block = some sent) : sent ∈ segment := by
  have isResult : sent ∈ blocks.filterMap blockResult := List.mem_filterMap.mpr ⟨block, member, result⟩
  by_cases speaks : ∃ block ∈ blocks, blockPart block ≠ none
  · obtain ⟨content, rfl, -⟩ := shape.speaks speaks
    exact List.mem_append_left _ isResult
  · have silent : ∀ block ∈ blocks, blockPart block = none := by
      intro other otherMember
      by_contra part
      exact speaks ⟨other, otherMember, part⟩
    rw [shape.silent silent]
    exact isResult

/-- A result is sent by a message with the role `tool`, and its content is a string. -/
theorem blockResult_sent {block : InputBlock} {sent : Value}
    (result : blockResult block = some sent) :
    (∃ toolUseId content isError, block = .toolResult toolUseId content isError) ∧
      sent.strAt "role" = some "tool" ∧ ∃ text, sent.get "content" = some (.string text) := by
  unfold blockResult at result
  split at result
  case h_1 toolUseId text isError =>
    cases result
    exact ⟨⟨toolUseId, .string text, isError, rfl⟩, by simp [Value.strAt], _, by simp; rfl⟩
  case h_2 => cases result

/-- The message that an assistant's message becomes. -/
theorem AssistantSegment.sent_fields {blocks : List InputBlock} {segment : List Value}
    (shape : AssistantSegment crates blocks segment) {sent : Value} (isSent : sent ∈ segment) :
    sent.strAt "role" = some "assistant" ∧ sent.get "content" = some (assistantContent blocks) ∧
      sent.get "tool_calls" = if blocks.filterMap (blockCall crates) = [] then none
        else some (.array (blocks.filterMap (blockCall crates))) := by
  rw [shape.single] at isSent
  rw [List.mem_singleton.mp isSent]
  unfold assistantCalls
  by_cases silent : blocks.filterMap (blockCall crates) = []
  · simp [silent, Value.strAt]
  · simp [silent, Value.strAt]

/-- Every translated message belongs to the segment of a message of the request. -/
theorem exists_segment_of_mem {request : NormalizedRequest} {out : List Value}
    (accepted : convertMessages crates request = .ok out) {sent : Value} (member : sent ∈ out) :
    ∃ message ∈ request.messages, ∃ segment, SegmentFor crates message segment ∧ sent ∈ segment := by
  obtain ⟨segments, segmentsEq, same⟩ := Except.bind_eq_ok.mp accepted
  cases same
  obtain ⟨segment, isSegment, sentHere⟩ := List.mem_flatten.mp member
  obtain ⟨message, isMessage, converted⟩ :=
    Except.exists_of_mem_right (Except.mapM_eq_ok.mp segmentsEq) isSegment
  exact ⟨message, isMessage, segment, convertMessage_segmentFor converted, sentHere⟩

/-- The segment of every message of the request is sent. -/
theorem exists_segment_of_message {request : NormalizedRequest} {out : List Value}
    (accepted : convertMessages crates request = .ok out) {message : NormalizedMessage}
    (member : message ∈ request.messages) :
    ∃ segment, SegmentFor crates message segment ∧ ∀ sent ∈ segment, sent ∈ out := by
  obtain ⟨segments, segmentsEq, same⟩ := Except.bind_eq_ok.mp accepted
  cases same
  obtain ⟨segment, isSegment, converted⟩ :=
    Except.exists_of_mem_left (Except.mapM_eq_ok.mp segmentsEq) member
  exact ⟨segment, convertMessage_segmentFor converted, fun sent isSent =>
    List.mem_flatten.mpr ⟨segment, isSegment, isSent⟩⟩

/-- Nothing is lost, doubled or put in another message's place: the translated messages are the
segments of the messages of the request, in order. -/
theorem convertMessages_exact (request : NormalizedRequest) (out : List Value)
    (accepted : convertMessages crates request = .ok out) :
    ∃ segments, out = segments.flatten ∧
      List.Forall₂ (SegmentFor crates) request.messages segments := by
  obtain ⟨segments, segmentsEq, same⟩ := Except.bind_eq_ok.mp accepted
  cases same
  exact ⟨segments, rfl,
    (Except.mapM_eq_ok.mp segmentsEq).imp fun _ _ converted => convertMessage_segmentFor converted⟩

/-- A call with a word before it, and its failure with a remark and a picture after it. -/
def mixedConversation : NormalizedRequest :=
  { pictureNormalized .user with
    messages := [
      { role := .assistant
        blocks := [.text "look", .toolUse "a" "weather" (.object []), .text "ing"] },
      { role := .user
        blocks := [.text "see", .toolResult "a" (.string "down") true,
          .image "image/png" (.url "https://pictures/1")] }] }

def mixedOut : List Value :=
  [.obj [("role", .string "assistant"), ("content", .string "looking"),
      ("tool_calls", .array [callValue pictureCrates "a" "weather" (.object [])])],
    .obj [("role", .string "tool"), ("tool_call_id", .string "a"),
      ("content", .string "Error: down")],
    .obj [("role", .string "user"),
      ("content", .array [textPart "see", imagePart "image/png" (.url "https://pictures/1")])]]

/-- A conversation with text, an image, a call and its answer: its messages are those of its turns.
-/
theorem convertMessages_exact_mixed :
    ∃ segments, mixedOut = segments.flatten ∧
      List.Forall₂ (SegmentFor pictureCrates) mixedConversation.messages segments :=
  convertMessages_exact mixedConversation mixedOut rfl

end Translation

end ClaudeProxy
