/-
Module: ClaudeProxy.Proofs.ToolPairing
Layer: Proofs
Purpose: Tool calls and tool results on the wire. The translation keeps what happens to the ids of
  tool calls, in order, so that a paired history stays paired; and where the client answers each
  message with calls at once, so does the translation.
Trusted boundary: none
Main exports: callIds, answeredIds, wireMarks, Segment, convertMessage_segment, convertMessages_segments,
  AnsweredAtOnce, convertMessages_pairing
-/
import ClaudeProxy.Proofs.SemanticLoss
import ClaudeProxy.Proofs.Translation

namespace ClaudeProxy

open Library

/-! ### Ids on the wire -/

def isRole (role : String) (message : Value) : Prop := message.strAt "role" = some role

/-- The ids of the calls that a message of the assistant makes. -/
def callIds (message : Value) : List String :=
  if message.strAt "role" = some "assistant" then
    (((message.get "tool_calls").bind Value.asArray).getD []).filterMap (Value.strAt "id")
  else []

/-- The id that a message with the role `tool` answers. -/
def answeredIds (message : Value) : List String :=
  if message.strAt "role" = some "tool" then (message.strAt "tool_call_id").toList else []

/-- What a message does to the ids of tool calls. -/
def wireMarks (message : Value) : List (Mark String) :=
  (callIds message).map .opened ++ (answeredIds message).map .closed

@[simp] theorem opens_wireMarks (message : Value) : Mark.opens (wireMarks message) = callIds message := by
  simp [wireMarks]

@[simp] theorem closes_wireMarks (message : Value) :
    Mark.closes (wireMarks message) = answeredIds message := by
  simp [wireMarks]

/-- A message of another role makes no calls and answers none. -/
theorem wireMarks_other {role : String} {message : Value} (held : isRole role message)
    (notAssistant : role ≠ "assistant") (notTool : role ≠ "tool") : wireMarks message = [] := by
  unfold isRole at held
  simp [wireMarks, callIds, answeredIds, held, notAssistant, notTool]

/-! ### Segments -/

/-- The messages that one message becomes: results, and then messages of its own role. A message of
the assistant becomes one message. -/
structure Segment (role : MessageRole) (segment : List Value) : Prop where
  parts : ∃ results rest, segment = results ++ rest ∧
    (∀ message ∈ results, isRole "tool" message ∧ ∃ id, message.strAt "tool_call_id" = some id) ∧
    ∀ message ∈ rest, isRole (roleWord role) message
  single : role = .assistant → ∃ message, segment = [message]

theorem toolMessage_role (toolUseId value : String) (isError : Bool) :
    isRole "tool" (toolMessage toolUseId value isError) := by
  simp [isRole, toolMessage, Value.strAt]

theorem toolMessage_id (toolUseId value : String) (isError : Bool) :
    (toolMessage toolUseId value isError).strAt "tool_call_id" = some toolUseId := by
  simp [toolMessage, Value.strAt]

theorem toolMessage_marks (toolUseId value : String) (isError : Bool) :
    wireMarks (toolMessage toolUseId value isError) = [.closed toolUseId] := by
  have role := toolMessage_role toolUseId value isError
  unfold isRole at role
  simp [wireMarks, callIds, answeredIds, role, toolMessage_id]

/-- What the results collected so far do to the ids. -/
structure UserParts.Holds (parts : UserParts) (marks : List (Mark String)) : Prop where
  marks : parts.toolResults.flatMap wireMarks = marks
  answers : ∀ message ∈ parts.toolResults, isRole "tool" message ∧
    ∃ id, message.strAt "tool_call_id" = some id

theorem UserParts.Holds.add {parts next : UserParts} {marks : List (Mark String)}
    {block : InputBlock} (holds : parts.Holds marks) (accepted : parts.add block = .ok next) :
    next.Holds (marks ++ blockMarks block) := by
  cases block with
  | text text =>
      cases accepted
      simpa [blockMarks] using ⟨holds.marks, holds.answers⟩
  | image mediaType data =>
      cases accepted
      simpa [blockMarks] using ⟨holds.marks, holds.answers⟩
  | toolUse id name input => cases accepted
  | toolResult toolUseId content isError =>
      obtain ⟨value, -, same⟩ := Except.bind_eq_ok.mp accepted
      cases same
      constructor
      · rw [List.flatMap_append, holds.marks, List.flatMap_singleton, toolMessage_marks]
        rfl
      · intro message member
        rcases List.mem_append.mp member with earlier | last
        · exact holds.answers message earlier
        · obtain rfl := List.mem_singleton.mp last
          exact ⟨toolMessage_role toolUseId value isError, toolUseId,
            toolMessage_id toolUseId value isError⟩

theorem UserParts.Holds.run {blocks : List InputBlock} {parts final : UserParts}
    {marks : List (Mark String)} (holds : parts.Holds marks)
    (accepted : blocks.foldlM UserParts.add parts = .ok final) :
    final.Holds (marks ++ blocks.flatMap blockMarks) :=
  Except.foldlM_accumulates UserParts.Holds.add holds accepted

/-- The results of a message, and its content in a message of its role. -/
theorem userParts_segment {role : MessageRole} (notAssistant : role ≠ .assistant)
    {parts : UserParts} {marks : List (Mark String)} (holds : parts.Holds marks) :
    Segment role (parts.messages (roleWord role)) ∧
      (parts.messages (roleWord role)).flatMap wireMarks = marks := by
  have content : ∀ message ∈ (if parts.content.isEmpty = true then []
      else [Value.obj [("role", .string (roleWord role)), ("content", contentValue parts.content)]]),
      isRole (roleWord role) message := by
    intro message member
    split at member
    · cases member
    · obtain rfl := List.mem_singleton.mp member
      simp [isRole, Value.strAt]
  constructor
  · constructor
    · exact ⟨parts.toolResults, _, rfl, holds.answers, content⟩
    · intro isAssistant
      exact absurd isAssistant notAssistant
  · unfold UserParts.messages
    rw [List.flatMap_append, holds.marks]
    have silent : ∀ message ∈ (if parts.content.isEmpty = true then []
        else [Value.obj [("role", .string (roleWord role)),
          ("content", contentValue parts.content)]]), wireMarks message = [] := by
      intro message member
      have held := content message member
      cases role with
      | system => exact wireMarks_other held (by decide) (by decide)
      | user => exact wireMarks_other held (by decide) (by decide)
      | assistant => exact absurd rfl notAssistant
    rw [List.flatMap_eq_nil_iff.mpr silent, List.append_nil]

/-- What the calls collected so far do to the ids. -/
def AssistantParts.Holds (parts : AssistantParts) (marks : List (Mark String)) : Prop :=
  (parts.calls.filterMap (Value.strAt "id")).map .opened = marks

section Translation

variable {crates : Crates}

theorem callValue_id (id name : String) (input : Value) :
    (callValue crates id name input).strAt "id" = some id := by
  simp [callValue, Value.strAt]

theorem AssistantParts.Holds.add {parts next : AssistantParts} {marks : List (Mark String)}
    {block : InputBlock} (holds : parts.Holds marks)
    (accepted : parts.add crates block = .ok next) : next.Holds (marks ++ blockMarks block) := by
  cases block with
  | text text =>
      cases accepted
      rw [show blockMarks (.text text) = [] from rfl, List.append_nil]
      exact holds
  | image mediaType data => cases accepted
  | toolUse id name input =>
      cases accepted
      unfold AssistantParts.Holds at holds ⊢
      rw [List.filterMap_append, List.map_append, holds]
      simp [callValue_id, blockMarks]
  | toolResult toolUseId content isError => cases accepted

theorem AssistantParts.Holds.run {blocks : List InputBlock} {parts final : AssistantParts}
    {marks : List (Mark String)} (holds : parts.Holds marks)
    (accepted : blocks.foldlM (AssistantParts.add crates) parts = .ok final) :
    final.Holds (marks ++ blocks.flatMap blockMarks) :=
  Except.foldlM_accumulates AssistantParts.Holds.add holds accepted

/-- The message that is made of an assistant's parts is an assistant's. -/
theorem assistantMessage_role (parts : AssistantParts) : isRole "assistant" parts.message := by
  unfold AssistantParts.message isRole
  dsimp only
  split
  · simp [Value.strAt]
  · simp [Value.strAt, Value.obj, Entries.lookup_insert]

/-- It has the calls of the parts. -/
theorem assistantMessage_calls (parts : AssistantParts) :
    callIds parts.message = parts.calls.filterMap (Value.strAt "id") := by
  have role := assistantMessage_role parts
  unfold isRole at role
  unfold callIds
  rw [if_pos role]
  unfold AssistantParts.message
  dsimp only
  split
  · rename_i empty
    simp [List.isEmpty_iff.mp empty]
  · simp [Value.obj]

/-- So it opens just those calls. -/
theorem assistantMessage_marks {parts : AssistantParts} {marks : List (Mark String)}
    (holds : parts.Holds marks) : wireMarks parts.message = marks := by
  have role := assistantMessage_role parts
  unfold isRole at role
  unfold wireMarks
  rw [assistantMessage_calls, holds]
  simp [answeredIds, role]

/-- A message becomes a segment that does to the ids what the message does. -/
theorem convertMessage_segment {message : NormalizedMessage} {segment : List Value}
    (accepted : convertMessage crates message = .ok segment) :
    Segment message.role segment ∧ segment.flatMap wireMarks = messageMarks message := by
  obtain ⟨role, blocks⟩ := message
  have userStart : UserParts.Holds {} [] := by
    constructor
    · rfl
    · simp
  cases role with
  | system =>
      obtain ⟨parts, partsEq, same⟩ := Except.bind_eq_ok.mp accepted
      cases same
      exact @userParts_segment .system (by simp) _ _ (userStart.run partsEq)
  | user =>
      obtain ⟨parts, partsEq, same⟩ := Except.bind_eq_ok.mp accepted
      cases same
      exact @userParts_segment .user (by simp) _ _ (userStart.run partsEq)
  | assistant =>
      obtain ⟨parts, partsEq, same⟩ := Except.bind_eq_ok.mp accepted
      cases same
      have start : AssistantParts.Holds {} [] := rfl
      constructor
      · constructor
        · refine ⟨[], [parts.message], rfl, by simp, ?_⟩
          intro message member
          obtain rfl := List.mem_singleton.mp member
          exact assistantMessage_role parts
        · intro
          exact ⟨parts.message, rfl⟩
      · rw [List.flatMap_singleton]
        exact assistantMessage_marks (start.run partsEq)

/-- The translated messages, segment by segment. -/
theorem convertMessages_segments {request : NormalizedRequest} {out : List Value}
    (accepted : convertMessages crates request = .ok out) :
    ∃ segments, out = segments.flatten ∧
      List.Forall₂ (fun message segment => Segment message.role segment ∧
        segment.flatMap wireMarks = messageMarks message) request.messages segments := by
  obtain ⟨segments, segmentsEq, same⟩ := Except.bind_eq_ok.mp accepted
  cases same
  exact ⟨segments, rfl,
    (Except.mapM_eq_ok.mp segmentsEq).imp fun _ _ converted => convertMessage_segment converted⟩

end Translation

/-! ### Ids in the request -/

/-- The id of a `tool_use` block. -/
def toolUseId (block : Value) : Option String :=
  if block.strAt "type" = some "tool_use" then block.strAt "id" else none

/-- The id that a `tool_result` block answers. -/
def toolResultId (block : Value) : Option String :=
  if block.strAt "type" = some "tool_result" then block.strAt "tool_use_id" else none

def toolUseIds (message : InputMessage) : List String :=
  (contentBlocks message.content).filterMap toolUseId

def toolResultIds (message : InputMessage) : List String :=
  (contentBlocks message.content).filterMap toolResultId

/-- What a parsed block does to the ids is what the JSON block says. -/
structure SameIds (block : Value) (parsed : InputBlock) : Prop where
  uses : Mark.opens (blockMarks parsed) = (toolUseId block).toList
  results : Mark.closes (blockMarks parsed) = (toolResultId block).toList

section Request

variable {crates : Crates} {strict : Bool}

theorem sameIds_of_other {block : Value} {kind : String} (atType : block.strAt "type" = some kind)
    (notUse : kind ≠ "tool_use") (notResult : kind ≠ "tool_result") {parsed : InputBlock}
    (silent : blockMarks parsed = []) : SameIds block parsed := by
  constructor
  · simp [silent, toolUseId, atType, notUse, Mark.opens]
  · simp [silent, toolResultId, atType, notResult, Mark.closes]

/-- Text is about no tool. -/
theorem parseText_silent {block : Value} {path : String} {parsed : InputBlock}
    (accepted : parseText block path strict = .ok parsed) : blockMarks parsed = [] := by
  obtain ⟨text, _, _, _, rfl⟩ := parseText_accepted accepted
  rfl

/-- Neither is an image. -/
theorem parseImage_silent {block : Value} {path : String} {parsed : InputBlock}
    (accepted : parseImage crates block path strict = .ok parsed) : blockMarks parsed = [] := by
  obtain ⟨source, _, _, bySource⟩ := parseImage_cases accepted
  rcases bySource with ⟨_, base64⟩ | ⟨_, url⟩
  · obtain ⟨mediaType, data, _, _, _, rfl⟩ := parseBase64Source_accepted base64
    rfl
  · obtain ⟨address, _, _, rfl⟩ := parseUrlSource_accepted url
    rfl

/-- A call keeps its id. -/
theorem parseToolUse_ids {block : Value} {path : String} {parsed : InputBlock}
    (atType : block.strAt "type" = some "tool_use")
    (accepted : parseToolUse block path strict = .ok parsed) : SameIds block parsed := by
  obtain ⟨id, name, input, _, held, _, _, rfl⟩ := parseToolUse_accepted accepted
  constructor
  · simp [toolUseId, atType, held, blockMarks, Mark.opens]
  · simp [toolResultId, atType, blockMarks, Mark.closes]

/-- An answer keeps the id of its call. -/
theorem parseToolResult_ids {block : Value} {path : String} {parsed : InputBlock}
    (atType : block.strAt "type" = some "tool_result")
    (accepted : parseToolResult block path strict = .ok parsed) : SameIds block parsed := by
  obtain ⟨id, _, held, rfl⟩ := parseToolResult_accepted accepted
  constructor
  · simp [toolUseId, atType, blockMarks, Mark.opens]
  · simp [toolResultId, atType, held, blockMarks, Mark.closes]

/-- So any block keeps the ids that it has. -/
theorem parseBlock_ids {block : Value} {path : String} {parsed : InputBlock}
    (accepted : parseBlock crates block path strict = .ok parsed) : SameIds block parsed := by
  rcases parseBlock_cases accepted with ⟨kind, text⟩ | ⟨kind, image⟩ | ⟨kind, use⟩ | ⟨kind, result⟩
  · exact sameIds_of_other kind (by decide) (by decide) (parseText_silent text)
  · exact sameIds_of_other kind (by decide) (by decide) (parseImage_silent image)
  · exact parseToolUse_ids kind use
  · exact parseToolResult_ids kind result

/-- Content keeps its ids block by block. -/
theorem parseContent_ids {content : Value} {index : Nat} {blocks : List InputBlock}
    (accepted : parseContent crates content index strict = .ok blocks) :
    List.Forall₂ SameIds (contentBlocks content) blocks := by
  rcases parseContent_cases accepted with ⟨text, rfl, rfl⟩ | ⟨items, rfl, parsed⟩
  · refine .cons ?_ .nil
    exact @sameIds_of_other _ "text" rfl (by decide) (by decide) _ rfl
  · apply Except.forall₂_of_zipIdx
    exact (Except.mapM_eq_ok.mp parsed).imp fun _ _ read => parseBlock_ids read

end Request

/-! ### Calls that are answered at once -/

/-- Each message of the assistant with `tool_use` blocks is directly followed by a message of the
user whose `tool_result` blocks answer exactly those ids. -/
def AnsweredAtOnce (messages : List InputMessage) : Prop :=
  ∀ before message after, messages = before ++ message :: after → message.role = "assistant" →
    toolUseIds message ≠ [] → ∃ next rest, after = next :: rest ∧ next.role = "user" ∧
      ∀ id, id ∈ toolResultIds next ↔ id ∈ toolUseIds message

/-- A message with calls is followed by the answers to exactly those calls. -/
def FollowedByAnswers (message : Value) (after : List Value) : Prop :=
  ∃ answers rest, after = answers ++ rest ∧ (∀ answer ∈ answers, isRole "tool" answer) ∧
    (answers.flatMap answeredIds).Perm (callIds message)

/-- What is true of all turns is true of the later ones. -/
theorem AnsweredAtOnce.tail {message : InputMessage} {rest : List InputMessage}
    (answered : AnsweredAtOnce (message :: rest)) : AnsweredAtOnce rest := by
  intro before other after split
  apply answered (message :: before) other after
  rw [split, List.cons_append]

/-- The segment of a message of the request. -/
structure Carries (message : InputMessage) (segment : List Value) : Prop where
  shape : ∃ role, message.role = roleWord role ∧ Segment role segment
  uses : segment.flatMap callIds = toolUseIds message
  results : segment.flatMap answeredIds = toolResultIds message

/-- The role of a message is the one it names. -/
theorem role_of_roleWord {role : MessageRole} {word : String} (same : word = roleWord role) :
    (word = "assistant" → role = .assistant) ∧ (word = "user" → role = .user) := by
  subst same
  cases role <;> simp [roleWord]

/-- Only the segment of a message of the assistant has a message of the assistant. -/
theorem Segment.assistant {role : MessageRole} {segment : List Value} (shape : Segment role segment)
    {call : Value} (member : call ∈ segment) (isCall : isRole "assistant" call) :
    role = .assistant := by
  obtain ⟨results, rest, rfl, answers, others⟩ := shape.parts
  unfold isRole at isCall
  rcases List.mem_append.mp member with answer | other
  · have role := (answers call answer).1
    unfold isRole at role
    rw [isCall] at role
    simp at role
  · have word := others call other
    unfold isRole at word
    rw [isCall] at word
    cases role with
    | assistant => rfl
    | user => simp [roleWord] at word
    | system => simp [roleWord] at word

/-- The segment of a message of the user starts with its answers. -/
theorem Carries.answers {message : InputMessage} {segment : List Value}
    (carries : Carries message segment) (isUser : message.role = "user") :
    ∃ answers rest, segment = answers ++ rest ∧ (∀ answer ∈ answers, isRole "tool" answer) ∧
      answers.flatMap answeredIds = toolResultIds message := by
  obtain ⟨role, word, shape⟩ := carries.shape
  obtain rfl := (role_of_roleWord word).2 isUser
  obtain ⟨answers, rest, rfl, areAnswers, others⟩ := shape.parts
  refine ⟨answers, rest, rfl, fun answer member => (areAnswers answer member).1, ?_⟩
  have silent : ∀ other ∈ rest, answeredIds other = [] := by
    intro other member
    have held := others other member
    unfold isRole at held
    simp [answeredIds, held, roleWord]
  rw [← carries.results, List.flatMap_append, List.flatMap_eq_nil_iff.mpr silent, List.append_nil]

/-- Calls that the client answers at once are answered at once on the wire. The induction goes
through the messages; a message with calls is alone in its segment, and the answers open the next. -/
theorem answeredAtOnce_of_carries {messages : List InputMessage} {segments : List (List Value)}
    (carried : List.Forall₂ Carries messages segments) (answered : AnsweredAtOnce messages)
    (usesOnce : (segments.flatten.flatMap callIds).Nodup)
    (resultsOnce : (segments.flatten.flatMap answeredIds).Nodup) {before after : List Value}
    {call : Value} (split : segments.flatten = before ++ call :: after)
    (isCall : isRole "assistant" call) (calls : callIds call ≠ []) :
    FollowedByAnswers call after := by
  induction carried generalizing before with
  | nil =>
      cases before <;> cases split
  | @cons message segment messages segments here later inductionHypothesis =>
      rw [List.flatten_cons, List.flatMap_append] at usesOnce resultsOnce
      rw [List.flatten_cons] at split
      rcases Except.append_eq_append_cons split with ⟨middle, segmentEq, afterEq⟩ |
        ⟨middle, beforeEq, restEq⟩
      · obtain ⟨role, word, shape⟩ := here.shape
        have member : call ∈ segment := by
          rw [segmentEq]
          exact List.mem_append_right before List.mem_cons_self
        obtain rfl := shape.assistant member isCall
        obtain ⟨only, onlyEq⟩ := shape.single rfl
        obtain ⟨rfl, rfl, rfl⟩ : before = [] ∧ call = only ∧ middle = [] := by
          rw [segmentEq] at onlyEq
          simpa [List.append_eq_singleton_iff] using onlyEq
        have uses : callIds call = toolUseIds message := by
          rw [← here.uses, segmentEq]
          simp
        rw [uses] at calls
        obtain ⟨next, rest, messagesEq, isUser, sameIds⟩ :=
          answered [] message messages rfl word calls
        subst messagesEq
        cases later with
        | @cons _ segment' _ segments' there further =>
            obtain ⟨answers, others, segmentEq', areAnswers, results⟩ := there.answers isUser
            refine ⟨answers, others ++ segments'.flatten, ?_, areAnswers, ?_⟩
            · rw [afterEq, List.flatten_cons, segmentEq', List.nil_append, List.append_assoc]
            · rw [results, uses]
              have resultsNodup : (toolResultIds next).Nodup := by
                rw [← there.results]
                rw [List.flatten_cons, List.flatMap_append] at resultsOnce
                exact resultsOnce.of_append_right.of_append_left
              have usesNodup : (toolUseIds message).Nodup := by
                rw [← here.uses]
                exact usesOnce.of_append_left
              exact (List.perm_ext_iff_of_nodup resultsNodup usesNodup).mpr sameIds
      · exact inductionHypothesis answered.tail usesOnce.of_append_right
          resultsOnce.of_append_right restEq

/-! ### The whole translation -/

/-- What a message of the request and its normal form have in common. -/
structure SameTurnIds (message : InputMessage) (normalized : NormalizedMessage) : Prop where
  role : message.role = roleWord normalized.role
  uses : Mark.opens (messageMarks normalized) = toolUseIds message
  results : Mark.closes (messageMarks normalized) = toolResultIds message

section Whole

variable {crates : Crates} {capabilities : CapabilityProfile}

/-- So a message that is accepted has the ids that the client gave it. -/
theorem normalizeMessage_ids {message : InputMessage} {index : Nat} {strict : Bool}
    {normalized : NormalizedMessage}
    (accepted : normalizeMessage crates message index strict = .ok normalized) :
    SameTurnIds message normalized := by
  unfold normalizeMessage at accepted
  simp only [Except.bind_eq_ok] at accepted
  obtain ⟨role, roleEq, blocks, blocksEq, same⟩ := accepted
  cases same
  have ids := parseContent_ids blocksEq
  constructor
  · exact parseRole_reads roleEq
  · unfold messageMarks toolUseIds
    rw [Mark.opens_flatMap, List.filterMap_eq_flatMap_toList]
    exact Except.flatMap_eq_of_forall₂ (fun _ _ same => same.uses) ids
  · unfold messageMarks toolResultIds
    rw [Mark.closes_flatMap, List.filterMap_eq_flatMap_toList]
    exact Except.flatMap_eq_of_forall₂ (fun _ _ same => same.results) ids

/-- The adaptation to a target takes no tool away. -/
theorem adaptedMessage_marks {message adapted : NormalizedMessage}
    (adaptedMessage : AdaptedMessage message adapted) :
    messageMarks adapted = messageMarks message :=
  Except.flatMap_eq_of_forall₂ (fun _ _ same => same.marks) adaptedMessage.2

/-- The segment of a normalized message, after the adaptation. -/
def SegmentOf (message : NormalizedMessage) (segment : List Value) : Prop :=
  Segment message.role segment ∧ segment.flatMap wireMarks = messageMarks message

/-- The messages to the provider come one segment after the other, each made of one turn. -/
theorem segments_of_converted {normalized adapted : NormalizedRequest} {out : List Value}
    (fits : adaptRequest crates capabilities normalized = .ok adapted)
    (converted : convertMessages crates adapted = .ok out) :
    ∃ segments, out = segments.flatten ∧ List.Forall₂ SegmentOf normalized.messages segments := by
  obtain ⟨segments, outEq, shapes⟩ := convertMessages_segments converted
  refine ⟨segments, outEq, ?_⟩
  apply Except.forall₂_of_common _ (adaptRequest_messages fits) shapes.flip
  intro message segment adaptedMessage same shape
  exact ⟨same.1 ▸ shape.1, shape.2.trans (adaptedMessage_marks same)⟩

/-- Such a segment carries the calls and answers of its turn. -/
theorem carries_of_segment {message : InputMessage} {normalized : NormalizedMessage}
    {segment : List Value} (same : SameTurnIds message normalized)
    (shape : SegmentOf normalized segment) : Carries message segment := by
  constructor
  · exact ⟨normalized.role, same.role, shape.1⟩
  · have opens := congrArg Mark.opens shape.2
    rw [Mark.opens_flatMap, same.uses] at opens
    simpa using opens
  · have closes := congrArg Mark.closes shape.2
    rw [Mark.closes_flatMap, same.results] at closes
    simpa using closes

/-- No message of the system speaks for the assistant. -/
theorem normalizeSystem_role {system : Option Value} {strict : Bool}
    {messages : List NormalizedMessage}
    (accepted : normalizeSystem system strict = .ok messages) :
    ∀ message ∈ messages, message.role = .system := by
  cases system with
  | none =>
      cases accepted
      simp
  | some prompt =>
      obtain ⟨blocks, -, same⟩ := Except.bind_eq_ok.mp accepted
      cases same
      intro message member
      split at member
      · cases member
      · obtain rfl := List.mem_singleton.mp member
        rfl

/-- The ids on the wire are those of the normalized request, in order. -/
theorem marks_of_segments {messages : List NormalizedMessage} {segments : List (List Value)}
    (shapes : List.Forall₂ SegmentOf messages segments) :
    segments.flatten.flatMap wireMarks = messages.flatMap messageMarks := by
  rw [List.flatten_eq_flatMap, List.flatMap_assoc]
  exact Except.flatMap_eq_of_forall₂ (fun _ _ shape => shape.2) shapes

/-- What the messages open are their calls. -/
theorem calls_of_marks (out : List Value) :
    Mark.opens (out.flatMap wireMarks) = out.flatMap callIds := by
  rw [Mark.opens_flatMap]
  simp

/-- What they close are their answers. -/
theorem answers_of_marks (out : List Value) :
    Mark.closes (out.flatMap wireMarks) = out.flatMap answeredIds := by
  rw [Mark.closes_flatMap]
  simp

/-- A message with the role `tool` names an id. -/
theorem Segment.tool_id {role : MessageRole} {segment : List Value} (shape : Segment role segment)
    {message : Value} (member : message ∈ segment) (isTool : isRole "tool" message) :
    ∃ id, message.strAt "tool_call_id" = some id := by
  obtain ⟨results, rest, rfl, answers, others⟩ := shape.parts
  rcases List.mem_append.mp member with answer | other
  · exact (answers message answer).2
  · have word := others message other
    unfold isRole at isTool word
    rw [isTool] at word
    cases role <;> simp [roleWord] at word

/-- In a paired list of messages each answer comes after its call. -/
theorem call_before_answer {out before after : List Value} {message : Value} {id : String}
    (paired : Paired (out.flatMap wireMarks)) (split : out = before ++ message :: after)
    (isTool : isRole "tool" message) (held : message.strAt "tool_call_id" = some id) :
    ∃ call ∈ before, id ∈ callIds call := by
  unfold isRole at isTool
  have marks : wireMarks message = [.closed id] := by
    simp [wireMarks, callIds, answeredIds, isTool, held]
  have history : out.flatMap wireMarks =
      before.flatMap wireMarks ++ .closed id :: after.flatMap wireMarks := by
    rw [split, List.flatMap_append, List.flatMap_cons, marks, List.singleton_append]
  have called := paired.openedFirst _ _ _ history
  rw [calls_of_marks] at called
  exact List.mem_flatMap.mp called

/-- The segments of an accepted request: those of the prompt, which call nothing, and those of its
messages. -/
theorem segments_of_accepted {request : AnthropicRequest} {loose : Bool}
    {normalized : NormalizedRequest} {segments : List (List Value)}
    (accepted : normalize crates request loose = .ok normalized)
    (shapes : List.Forall₂ SegmentOf normalized.messages segments) :
    ∃ prompt turns, segments = prompt ++ turns ∧
      (∀ message ∈ prompt.flatten, ¬ isRole "assistant" message) ∧
      List.Forall₂ Carries request.messages turns := by
  obtain ⟨-, system, messages, _, _, choice, systemEq, messagesEq, -, -, -, -, rfl⟩ :=
    normalize_eq_ok.mp accepted
  have flipped := shapes.flip
  have promptShapes := (List.forall₂_take_append segments system messages flipped).flip
  have turnShapes := (List.forall₂_drop_append segments system messages flipped).flip
  refine ⟨segments.take system.length, segments.drop system.length,
    (List.take_append_drop system.length segments).symm, ?_, ?_⟩
  · intro message member isCall
    obtain ⟨segment, segmentMember, inSegment⟩ := List.mem_flatten.mp member
    obtain ⟨source, sourceMember, shape⟩ :=
      Except.exists_of_mem_right promptShapes segmentMember
    have isSystem := normalizeSystem_role systemEq source sourceMember
    rw [shape.1.assistant inSegment isCall] at isSystem
    cases isSystem
  · have ids : List.Forall₂ SameTurnIds request.messages messages := by
      apply Except.forall₂_of_zipIdx
      exact (Except.mapM_eq_ok.mp messagesEq).imp fun _ _ read => normalizeMessage_ids read
    apply Except.forall₂_of_common _ ids turnShapes.flip
    intro message segment normalized same shape
    exact carries_of_segment same shape

/-- Tool calls and results stay paired. Every id is called once over all messages of the assistant
and answered at most once, by a message after the one with the call; and where the client answers
each message with calls at once, each is followed by the answers to exactly its calls. -/
theorem convertMessages_pairing {request : AnthropicRequest} {loose : Bool}
    {normalized adapted : NormalizedRequest} {out : List Value}
    (accepted : normalize crates request loose = .ok normalized)
    (fits : adaptRequest crates capabilities normalized = .ok adapted)
    (converted : convertMessages crates adapted = .ok out) :
    (out.flatMap callIds).Nodup ∧
    (∀ before message after, out = before ++ message :: after → isRole "tool" message →
      ∃ id, message.strAt "tool_call_id" = some id ∧ ∃ call ∈ before, id ∈ callIds call) ∧
    (out.flatMap answeredIds).Nodup ∧
    (AnsweredAtOnce request.messages → ∀ before message after, out = before ++ message :: after →
      isRole "assistant" message → callIds message ≠ [] → FollowedByAnswers message after) := by
  obtain ⟨segments, rfl, shapes⟩ := segments_of_converted fits converted
  have paired : Paired (segments.flatten.flatMap wireMarks) := by
    rw [marks_of_segments shapes]
    exact (toolHistory_of_normalize accepted).2
  have usesOnce := paired.openedOnce
  have resultsOnce := paired.closedOnce
  rw [calls_of_marks] at usesOnce
  rw [answers_of_marks] at resultsOnce
  refine ⟨usesOnce, ?_, resultsOnce, ?_⟩
  · intro before message after split isTool
    have member : message ∈ segments.flatten := by
      rw [split]
      exact List.mem_append_right before List.mem_cons_self
    obtain ⟨segment, segmentMember, inSegment⟩ := List.mem_flatten.mp member
    obtain ⟨source, -, shape⟩ := Except.exists_of_mem_right shapes segmentMember
    obtain ⟨id, held⟩ := shape.1.tool_id inSegment isTool
    exact ⟨id, held, call_before_answer paired split isTool held⟩
  · intro answered before message after split isCall calls
    obtain ⟨prompt, turns, rfl, silent, carried⟩ := segments_of_accepted accepted shapes
    rw [List.flatten_append] at split
    rw [List.flatten_append, List.flatMap_append] at usesOnce resultsOnce
    rcases Except.append_eq_append_cons split with ⟨middle, promptEq, -⟩ | ⟨middle, -, turnsEq⟩
    · have member : message ∈ prompt.flatten := by
        rw [promptEq]
        exact List.mem_append_right before List.mem_cons_self
      exact absurd isCall (silent message member)
    · exact answeredAtOnce_of_carries carried answered usesOnce.of_append_right
        resultsOnce.of_append_right turnsEq isCall calls

end Whole

/-! ### Sample -/

/-- A call of a shell, as the assistant makes it, and its answer before a text of the user. -/
def shellTurns : List InputMessage := [
  { role := "assistant"
    content := .array [.obj [("type", .string "tool_use"), ("id", .string "call_1"),
      ("name", .string "shell"), ("input", .obj [])]] },
  { role := "user"
    content := .array [.obj [("type", .string "text"), ("text", .string "and?")],
      .obj [("type", .string "tool_result"), ("tool_use_id", .string "call_1"),
        ("content", .string "/tmp")]] }]

def shellRequest : AnthropicRequest where
  model := "m"
  maxTokens := 1
  messages := shellTurns

def shellNormalized : NormalizedRequest where
  originalModel := "m"
  maxTokens := 1
  messages := [
    { role := .assistant, blocks := [.toolUse "call_1" "shell" (.obj [])] },
    { role := .user, blocks := [.text "and?", .toolResult "call_1" (.string "/tmp") false] }]
  temperature := none
  topP := none
  stopSequences := []
  tools := []
  toolChoice := none
  stream := false

def shellCall : Value :=
  AssistantParts.message { calls := [callValue pictureCrates "call_1" "shell" (.obj [])] }

/-- The answer goes first on the wire. -/
def shellAnswer : List Value := [
  toolMessage "call_1" "/tmp" false,
  .obj [("role", .string "user"), ("content", .string "and?")]]

/-- The sample's call is answered in the next turn. -/
theorem shellTurns_answered : AnsweredAtOnce shellTurns := by
  intro before message after split isAssistant uses
  cases before with
  | nil =>
      cases split
      refine ⟨_, [], rfl, rfl, ?_⟩
      intro id
      exact Iff.rfl
  | cons first rest =>
      cases rest with
      | nil =>
          cases split
          exact absurd isAssistant (by decide)
      | cons second rest =>
          cases rest <;> cases split

/-- A call and its answer, as they are sent. -/
theorem convertMessages_pairing_shell :
    ((shellCall :: shellAnswer).flatMap callIds).Nodup ∧ FollowedByAnswers shellCall shellAnswer := by
  have pairing := @convertMessages_pairing pictureCrates {} shellRequest false shellNormalized
    shellNormalized (shellCall :: shellAnswer) rfl rfl rfl
  refine ⟨pairing.1, ?_⟩
  exact pairing.2.2.2 shellTurns_answered [] shellCall shellAnswer rfl rfl (by decide)

end ClaudeProxy
