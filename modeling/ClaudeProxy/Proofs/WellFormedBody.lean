/-
Module: ClaudeProxy.Proofs.WellFormedBody
Layer: Proofs
Purpose: Which requests become a body that the Chat Completions API takes. A choice that names a tool
  names one of the tools of the body, always; the other conditions fail on requests that no check
  turns away: a choice without tools, a profile whose token limit is zero, and a message of the
  assistant that says nothing.
Trusted boundary: none
Main exports: WellFormedBody, Speaks, checkTools_names, choiceWithTools_iff, choiceNamed_of_normalize,
  tokenField_iff, allContent_iff, wellFormedBody_iff
-/
import ClaudeProxy.Proofs.ToolPairing
import ClaudeProxy.Proofs.ToolTraffic

namespace ClaudeProxy

open Library

/-! ### Well-formed bodies -/

/-- The values of an array field, none where there is no such field. -/
def Value.elements (body : Value) (key : String) : List Value :=
  ((body.get key).bind Value.asArray).getD []

/-- A message has a content that is not `null`, or calls. -/
def HasContent (message : Value) : Prop :=
  (∃ content, message.get "content" = some content ∧ content.isNull = false) ∨
    message.elements "tool_calls" ≠ []

/-- The body's one token limit is at least one. -/
def PositiveTokens (body : Value) : Prop :=
  ∃ limit, 1 ≤ limit ∧
    (body.get "max_tokens" = some (.num limit) ∧ body.get "max_completion_tokens" = none ∨
      body.get "max_completion_tokens" = some (.num limit) ∧ body.get "max_tokens" = none)

structure WellFormedBody (body : Value) : Prop where
  choiceWithTools : body.get "tool_choice" ≠ none ∨ body.get "parallel_tool_calls" ≠ none →
    OffersTools body
  choiceNamed : ∀ name, body.pointer ["tool_choice", "function", "name"] = some (.string name) →
    ∃ tool ∈ body.elements "tools", tool.pointer ["function", "name"] = some (.string name)
  tokens : PositiveTokens body
  assistant : ∀ message ∈ body.elements "messages", isRole "assistant" message → HasContent message

/-! ### Choices -/

section Choices

variable {crates : Crates} {capabilities : CapabilityProfile} {request : AnthropicRequest}
  {loose : Bool} {normalized adapted : NormalizedRequest} {messages : List Value} {body : Value}

/-- The names that the check of the tools collects are names of tools. -/
theorem checkTools_names {strict : Bool} {tools : List ToolDefinition} {seen names : List String}
    (accepted : tools.foldlM (checkTool strict) seen = .ok names) :
    ∀ name ∈ names, name ∈ seen ∨ ∃ tool ∈ tools, tool.name = name := by
  induction tools generalizing seen with
  | nil =>
      cases accepted
      exact fun name member => .inl member
  | cons tool rest inductionHypothesis =>
      rw [List.foldlM_cons] at accepted
      obtain ⟨middle, checked, later⟩ := Except.bind_eq_ok.mp accepted
      have middleEq : middle = tool.name :: seen := by
        unfold checkTool at checked
        simp only [Except.bind_eq_ok] at checked
        obtain ⟨-, -, -, -, -, -, same⟩ := checked
        exact (Except.ok.inj same).symm
      intro name member
      rcases inductionHypothesis later name member with known | ⟨other, otherMember, isName⟩
      · rw [middleEq] at known
        rcases List.mem_cons.mp known with rfl | before
        · exact .inr ⟨tool, List.mem_cons_self, rfl⟩
        · exact .inl before
      · exact .inr ⟨other, List.mem_cons_of_mem _ otherMember, isName⟩

/-- A choice that names a tool names one of the request. -/
theorem choice_names_tool (accepted : normalize crates request loose = .ok normalized) {name : String}
    {disableParallel : Bool} (chosen : normalized.toolChoice = some (.tool name disableParallel)) :
    ∃ tool ∈ normalized.tools, tool.name = name := by
  obtain ⟨-, system, turns, history, names, choice, -, -, -, namesEq, -, fits, rfl⟩ :=
    normalize_eq_ok.mp accepted
  dsimp only at chosen
  rw [chosen] at fits
  obtain ⟨_, checked, -⟩ := Except.bind_eq_ok.mp fits
  have known : name ∈ names := not_not.mp (rejectIf_eq_ok.mp checked)
  rcases checkTools_names namesEq name known with none | found
  · cases none
  · exact found

/-- A choice or a word on parallel calls is sent exactly where the request has a choice. -/
theorem choice_sent_iff (fields : BodyOf capabilities adapted messages body) :
    body.get "tool_choice" ≠ none ∨ body.get "parallel_tool_calls" ≠ none ↔
      adapted.toolChoice ≠ none := by
  rw [fields.toolChoice, fields.parallelToolCalls]
  cases adapted.toolChoice <;> simp

theorem choiceWithTools_iff (accepted : normalize crates request loose = .ok normalized)
    (fits : adaptRequest crates capabilities normalized = .ok adapted)
    (fields : BodyOf capabilities adapted messages body) :
    (body.get "tool_choice" ≠ none ∨ body.get "parallel_tool_calls" ≠ none → OffersTools body) ↔
      request.toolChoice = none ∨ request.tools ≠ [] := by
  have frame := frame_of_adapted fits
  have sameChoice : adapted.toolChoice ≠ none ↔ request.toolChoice ≠ none := by
    rw [Ne, Ne, ← toolChoice_of_normalize accepted, frame.toolChoice]
    split <;> simp
  rw [choice_sent_iff fields, offersTools_iff fields, sameChoice, frame.tools,
    tools_of_normalize accepted, imp_iff_not_or, not_not]

/-- Only the choice of a tool names a function. -/
theorem choiceValue_named {choice : ToolChoice} {name : String} :
    (choiceValue choice).1.pointer ["function", "name"] = some (.string name) ↔
      ∃ disableParallel, choice = .tool name disableParallel := by
  cases choice with
  | tool other disableParallel => simp [choiceValue, Value.pointer]
  | auto => simp [choiceValue, Value.pointer, Value.get]
  | any => simp [choiceValue, Value.pointer, Value.get]
  | none => simp [choiceValue, Value.pointer, Value.get]

/-- The function that a choice names is one of the tools of the body. -/
theorem choiceNamed_of_normalize (accepted : normalize crates request loose = .ok normalized)
    (fits : adaptRequest crates capabilities normalized = .ok adapted)
    (fields : BodyOf capabilities adapted messages body) (name : String)
    (named : body.pointer ["tool_choice", "function", "name"] = some (.string name)) :
    ∃ tool ∈ body.elements "tools", tool.pointer ["function", "name"] = some (.string name) := by
  have frame := frame_of_adapted fits
  have chosen : ∃ disableParallel, adapted.toolChoice = some (.tool name disableParallel) := by
    rw [Value.pointer, fields.toolChoice] at named
    cases isChoice : adapted.toolChoice with
    | none =>
        rw [isChoice] at named
        cases named
    | some choice =>
        rw [isChoice] at named
        obtain ⟨disableParallel, rfl⟩ := choiceValue_named.mp named
        exact ⟨disableParallel, rfl⟩
  -- the adaptation may close a choice for parallel calls, and leaves its tool as it is
  obtain ⟨disableParallel, chosenBefore⟩ : ∃ disableParallel,
      normalized.toolChoice = some (.tool name disableParallel) := by
    obtain ⟨disableParallel, isChosen⟩ := chosen
    rw [frame.toolChoice] at isChosen
    split at isChosen
    · exact ⟨disableParallel, isChosen⟩
    · obtain ⟨choice, isChoice, closed⟩ := Option.map_eq_some_iff.mp isChosen
      cases choice with
      | tool other held =>
          cases closed
          exact ⟨held, isChoice⟩
      | auto => cases closed
      | any => cases closed
      | none => cases closed
  obtain ⟨tool, member, isName⟩ := choice_names_tool accepted chosenBefore
  have present : adapted.tools ≠ [] := by
    rw [frame.tools]
    exact List.ne_nil_of_mem member
  have toolsEq : body.elements "tools" = adapted.tools.map toolValue := by
    unfold Value.elements
    rw [fields.tools, if_neg present]
    rfl
  rw [toolsEq, frame.tools]
  refine ⟨toolValue tool, List.mem_map_of_mem member, ?_⟩
  rw [← isName]
  simp [toolValue, Value.pointer]

/-- The token limit is the request's, or that of the profile where this is lower. -/
theorem tokenField_iff (accepted : normalize crates request loose = .ok normalized)
    (fits : adaptRequest crates capabilities normalized = .ok adapted)
    (fields : BodyOf capabilities adapted messages body) :
    PositiveTokens body ↔ 0 < capabilities.maxOutputTokens := by
  have frame := frame_of_adapted fits
  have asked : 0 < normalized.maxTokens := by
    obtain ⟨checked, system, turns, history, names, choice, -, -, -, -, -, -, rfl⟩ :=
      normalize_eq_ok.mp accepted
    unfold checkFields at checked
    simp only [Except.bind_eq_ok, rejectIf_eq_ok] at checked
    obtain ⟨-, -, -, -, -, -, -, -, -, -, -, positive, -⟩ := checked
    exact Nat.pos_of_ne_zero positive
  have sent : PositiveTokens body ↔ 1 ≤ adapted.maxTokens := by
    have sameLimit : ∀ limit, Value.num adapted.maxTokens = .num limit ↔ limit = adapted.maxTokens := by
      intro limit
      constructor
      · intro same
        have read := congrArg Value.asU64 same
        simpa [eq_comm] using read
      · rintro rfl
        rfl
    unfold PositiveTokens
    rw [fields.maxTokens, fields.maxCompletionTokens]
    cases capabilities.useMaxCompletionTokens <;> simp [sameLimit]
  rw [sent, frame.maxTokens]
  omega

end Choices

/-! ### Messages of the assistant -/

/-- A block of a message says something: it is a call or a text that is not empty. -/
def SpeakingBlock (block : Value) : Prop :=
  block.strAt "type" = some "tool_use" ∨
    block.strAt "type" = some "text" ∧ block.strAt "text" ≠ some ""

/-- A message says something. -/
def Speaks (message : InputMessage) : Prop :=
  ∃ block ∈ contentBlocks message.content, SpeakingBlock block

def InputBlock.Speaking : InputBlock → Prop
  | .text words => words ≠ ""
  | .image _ _ => False
  | .toolUse _ _ _ => True
  | .toolResult _ _ _ => False

section Speech

variable {crates : Crates} {strict : Bool}

theorem parseBlock_speaking {block : Value} {path : String} {parsed : InputBlock}
    (accepted : parseBlock crates block path strict = .ok parsed) :
    SpeakingBlock block ↔ parsed.Speaking := by
  unfold SpeakingBlock
  rcases parseBlock_cases accepted with ⟨kind, byKind⟩ | ⟨kind, byKind⟩ | ⟨kind, byKind⟩ | ⟨kind, byKind⟩
  · obtain ⟨text, -, -, held, rfl⟩ := parseText_accepted byKind
    simp [kind, held, InputBlock.Speaking]
  · obtain ⟨source, -, -, bySource⟩ := parseImage_cases byKind
    have isImage : ∃ mediaType data, parsed = .image mediaType data := by
      rcases bySource with ⟨-, base64⟩ | ⟨-, url⟩
      · obtain ⟨mediaType, data, -, -, -, rfl⟩ := parseBase64Source_accepted base64
        exact ⟨_, _, rfl⟩
      · obtain ⟨url, -, -, rfl⟩ := parseUrlSource_accepted url
        exact ⟨_, _, rfl⟩
    obtain ⟨mediaType, data, rfl⟩ := isImage
    simp [kind, InputBlock.Speaking]
  · obtain ⟨id, name, input, -, -, -, -, rfl⟩ := parseToolUse_accepted byKind
    simp [kind, InputBlock.Speaking]
  · obtain ⟨id, -, -, rfl⟩ := parseToolResult_accepted byKind
    simp [kind, InputBlock.Speaking]

theorem parseContent_speaking {content : Value} {index : Nat} {blocks : List InputBlock}
    (accepted : parseContent crates content index strict = .ok blocks) :
    (∃ block ∈ contentBlocks content, SpeakingBlock block) ↔ ∃ block ∈ blocks, block.Speaking := by
  rcases parseContent_cases accepted with ⟨text, rfl, rfl⟩ | ⟨items, rfl, parsed⟩
  · simp [contentBlocks, SpeakingBlock, InputBlock.Speaking, Value.strAt]
  · have each : List.Forall₂ (fun block parsed => SpeakingBlock block ↔ parsed.Speaking) items blocks := by
      apply Except.forall₂_of_zipIdx
      exact (Except.mapM_eq_ok.mp parsed).imp fun _ _ read => parseBlock_speaking read
    exact Except.exists_iff_of_forall₂ each fun _ _ same => same

theorem FittedAs.speaking {block fitted : InputBlock} (fittedAs : FittedAs crates block fitted) :
    block.Speaking ↔ fitted.Speaking := by
  cases fittedAs <;> exact Iff.rfl

/-- The text of a message is empty exactly if all of its texts are. -/
theorem assistantContent_isNull {blocks : List InputBlock} :
    (assistantContent blocks).isNull = false ↔ ∃ text, InputBlock.text text ∈ blocks ∧ text ≠ "" := by
  have null : (assistantContent blocks).isNull = false ↔
      String.join (blocks.filterMap blockText) ≠ "" := by
    unfold assistantContent
    split
    · next empty => simp [empty, Value.isNull]
    · next spoken => simp [spoken, Value.isNull]
  rw [null, Ne, join_eq_empty]
  push Not
  constructor
  · rintro ⟨text, member, spoken⟩
    obtain ⟨block, isBlock, isText⟩ := List.mem_filterMap.mp member
    cases block with
    | text other =>
        cases isText
        exact ⟨_, isBlock, spoken⟩
    | image => cases isText
    | toolUse => cases isText
    | toolResult => cases isText
  · rintro ⟨text, member, spoken⟩
    exact ⟨text, List.mem_filterMap.mpr ⟨_, member, rfl⟩, spoken⟩

theorem blockCalls_eq_nil {blocks : List InputBlock} :
    blocks.filterMap (blockCall crates) = [] ↔
      ¬ ∃ id name input, InputBlock.toolUse id name input ∈ blocks := by
  rw [List.filterMap_eq_nil_iff]
  constructor
  · rintro none ⟨id, name, input, member⟩
    cases none _ member
  · intro silent block member
    cases block with
    | toolUse id name input => exact absurd ⟨id, name, input, member⟩ silent
    | text => rfl
    | image => rfl
    | toolResult => rfl

/-- A message of the assistant has content exactly if one of its blocks says something. -/
theorem AssistantSegment.hasContent_iff {blocks : List InputBlock} {segment : List Value}
    (shape : AssistantSegment crates blocks segment) {sent : Value} (isSent : sent ∈ segment) :
    HasContent sent ↔ ∃ block ∈ blocks, block.Speaking := by
  obtain ⟨-, content, calls⟩ := shape.sent_fields isSent
  have speaks : (∃ content, sent.get "content" = some content ∧ content.isNull = false) ↔
      ∃ text, InputBlock.text text ∈ blocks ∧ text ≠ "" := by
    rw [← assistantContent_isNull, content]
    simp
  have asks : sent.elements "tool_calls" ≠ [] ↔
      ∃ id name input, InputBlock.toolUse id name input ∈ blocks := by
    rw [← not_iff_not, ← @blockCalls_eq_nil crates, not_not]
    unfold Value.elements
    rw [calls]
    split
    · next none => simp [none]
    · next some => simp [some]
  unfold HasContent
  rw [speaks, asks]
  constructor
  · rintro (⟨text, member, spoken⟩ | ⟨id, name, input, member⟩)
    · exact ⟨_, member, spoken⟩
    · exact ⟨_, member, trivial⟩
  · rintro ⟨block, member, speaking⟩
    cases block with
    | text text => exact .inl ⟨text, member, speaking⟩
    | toolUse id name input => exact .inr ⟨id, name, input, member⟩
    | image => cases speaking
    | toolResult => cases speaking

end Speech

/-! ### The whole body -/

section Whole

variable {crates : Crates} {capabilities : CapabilityProfile} {request : AnthropicRequest}
  {loose : Bool} {normalized adapted : NormalizedRequest} {messages : List Value}

/-- A turn of the assistant, and what it says, are the same before and after it is normalized. -/
theorem normalizeMessage_speaking {message : InputMessage} {index : Nat} {strict : Bool}
    {turn : NormalizedMessage} (accepted : normalizeMessage crates message index strict = .ok turn) :
    (message.role = "assistant" ↔ turn.role = .assistant) ∧
      (Speaks message ↔ ∃ block ∈ turn.blocks, block.Speaking) := by
  unfold normalizeMessage at accepted
  simp only [Except.bind_eq_ok] at accepted
  obtain ⟨role, roleEq, blocks, blocksEq, same⟩ := accepted
  cases same
  refine ⟨?_, parseContent_speaking blocksEq⟩
  rw [parseRole_reads roleEq]
  cases role <;> simp [roleWord]

/-- Every message of the assistant says something, in the request and in its normal form. -/
theorem allSpeak_normalize (accepted : normalize crates request loose = .ok normalized) :
    (∀ message ∈ request.messages, message.role = "assistant" → Speaks message) ↔
      ∀ message ∈ normalized.messages, message.role = .assistant →
        ∃ block ∈ message.blocks, block.Speaking := by
  obtain ⟨-, system, turns, history, names, choice, systemEq, turnsEq, -, -, -, -, rfl⟩ :=
    normalize_eq_ok.mp accepted
  have each : List.Forall₂ (fun (message : InputMessage) (turn : NormalizedMessage) =>
      (message.role = "assistant" ↔ turn.role = .assistant) ∧
        (Speaks message ↔ ∃ block ∈ turn.blocks, block.Speaking)) request.messages turns := by
    apply Except.forall₂_of_zipIdx
    exact (Except.mapM_eq_ok.mp turnsEq).imp fun _ _ read => normalizeMessage_speaking read
  have silent : ∀ message ∈ system, message.role = .assistant →
      ∃ block ∈ message.blocks, block.Speaking := by
    intro message member isAssistant
    rw [normalizeSystem_role systemEq message member] at isAssistant
    cases isAssistant
  dsimp only
  rw [List.forall_mem_append, and_iff_right silent]
  exact Except.forall_iff_of_forall₂ each fun _ _ same => imp_congr same.1 same.2

/-- That each assistant message says something is the same of its adapted form. -/
theorem allSpeak_adapt (fits : adaptRequest crates capabilities normalized = .ok adapted) :
    (∀ message ∈ normalized.messages, message.role = .assistant →
        ∃ block ∈ message.blocks, block.Speaking) ↔
      ∀ message ∈ adapted.messages, message.role = .assistant →
        ∃ block ∈ message.blocks, block.Speaking := by
  apply Except.forall_iff_of_forall₂ (frame_of_adapted fits).messages
  rintro before after ⟨sameRole, fitted⟩
  rw [sameRole]
  exact imp_congr Iff.rfl (Except.exists_iff_of_forall₂ fitted fun _ _ fittedAs => fittedAs.speaking)

/-- A message of the system or of the user becomes no message of the assistant. -/
theorem UserSegment.not_assistant {role : String} {blocks : List InputBlock} {segment : List Value}
    (shape : UserSegment role blocks segment) (other : role ≠ "assistant") {sent : Value}
    (isSent : sent ∈ segment) : ¬ isRole "assistant" sent := by
  unfold isRole
  rcases shape.sent_cases isSent with ⟨block, -, result⟩ | ⟨content, rfl, -⟩
  · rw [(blockResult_sent result).2.1]
    decide
  · simpa [Value.strAt] using other

/-- The messages of the assistant on the wire have content exactly if those of the request say
something. -/
theorem allContent_iff (converted : convertMessages crates adapted = .ok messages) :
    (∀ message ∈ messages, isRole "assistant" message → HasContent message) ↔
      ∀ message ∈ adapted.messages, message.role = .assistant →
        ∃ block ∈ message.blocks, block.Speaking := by
  constructor
  · intro content message member isAssistant
    obtain ⟨segment, shape, areSent⟩ := exists_segment_of_message converted member
    unfold SegmentFor at shape
    rw [isAssistant] at shape
    obtain ⟨sent, isSent⟩ : ∃ sent, sent ∈ segment := by
      rw [shape.single]
      exact ⟨_, List.mem_singleton_self _⟩
    exact (shape.hasContent_iff isSent).mp
      (content _ (areSent _ isSent) (shape.sent_fields isSent).1)
  · intro speaking sent isSent isAssistant
    obtain ⟨message, member, segment, shape, inSegment⟩ := exists_segment_of_mem converted isSent
    unfold SegmentFor at shape
    cases role : message.role with
    | system =>
        rw [role] at shape
        exact absurd isAssistant (shape.not_assistant (by decide) inSegment)
    | user =>
        rw [role] at shape
        exact absurd isAssistant (shape.not_assistant (by decide) inSegment)
    | assistant =>
        rw [role] at shape
        exact (shape.hasContent_iff inSegment).mpr (speaking message member role)

/-- What a request and a profile must meet for a well-formed body. -/
structure SendsWellFormed (capabilities : CapabilityProfile) (request : AnthropicRequest) : Prop where
  choice : request.toolChoice = none ∨ request.tools ≠ []
  tokens : 0 < capabilities.maxOutputTokens
  assistant : ∀ message ∈ request.messages, message.role = "assistant" → Speaks message

theorem wellFormed_iff_sends (accepted : normalize crates request loose = .ok normalized)
    (fits : adaptRequest crates capabilities normalized = .ok adapted) {model : String}
    {stream : Bool} {body : Value}
    (built : buildRequest crates capabilities adapted model stream = .ok body) :
    WellFormedBody body ↔ SendsWellFormed capabilities request := by
  obtain ⟨messages, converted, fields⟩ := buildRequest_body built
  have messagesEq : body.elements "messages" = messages := by
    unfold Value.elements
    rw [fields.messages]
    rfl
  have choice := choiceWithTools_iff accepted fits fields
  have tokens := tokenField_iff accepted fits fields
  have assistant := (allContent_iff converted).trans
    ((allSpeak_adapt fits).symm.trans (allSpeak_normalize accepted).symm)
  constructor
  · intro wellFormed
    have content := wellFormed.assistant
    rw [messagesEq] at content
    exact ⟨choice.mp wellFormed.choiceWithTools, tokens.mp wellFormed.tokens, assistant.mp content⟩
  · intro sends
    refine ⟨choice.mpr sends.choice, choiceNamed_of_normalize accepted fits fields,
      tokens.mpr sends.tokens, ?_⟩
    rw [messagesEq]
    exact assistant.mpr sends.assistant

/-- The body of an accepted request is well formed exactly if the request has tools wherever it has a
choice, the profile allows at least one token, and every message of the assistant says something. -/
theorem wellFormedBody_iff (crates : Crates) (capabilities : CapabilityProfile)
    (request : AnthropicRequest) (loose : Bool) (normalized adapted : NormalizedRequest)
    (accepted : normalize crates request loose = .ok normalized)
    (fits : adaptRequest crates capabilities normalized = .ok adapted) (model : String)
    (stream : Bool) (body : Value)
    (built : buildRequest crates capabilities adapted model stream = .ok body) :
    WellFormedBody body ↔
      (request.toolChoice = none ∨ request.tools ≠ []) ∧ 0 < capabilities.maxOutputTokens ∧
        ∀ message ∈ request.messages, message.role = "assistant" → Speaks message := by
  rw [wellFormed_iff_sends accepted fits built]
  constructor
  · intro sends
    exact ⟨sends.choice, sends.tokens, sends.assistant⟩
  · rintro ⟨choice, tokens, assistant⟩
    exact ⟨choice, tokens, assistant⟩

end Whole

/-- A question, and a choice among no tools. -/
def idleChoice : AnthropicRequest where
  model := "m"
  maxTokens := 1
  messages := [{ role := "user", content := .string "weather?" }]
  toolChoice := some (.obj [("type", .string "auto")])

def idleChoiceNormalized : NormalizedRequest :=
  { weatherNormalized (some (.auto false)) with tools := [] }

/-- A message of the assistant that is empty. -/
def emptyTurn : AnthropicRequest where
  model := "m"
  maxTokens := 1
  messages := [{ role := "assistant", content := .string "" }]

def emptyTurnNormalized : NormalizedRequest :=
  { weatherNormalized none with
    tools := []
    messages := [{ role := .assistant, blocks := [.text ""] }] }

/-- A profile that clamps every request to nothing. -/
def muteProfile : CapabilityProfile :=
  { maxOutputTokens := 0, allowMaxTokensClamping := true }

/-- A question about the weather, with a tool and no choice of one. -/
theorem wellFormedBody_iff_weather :
    WellFormedBody (bodyOf pictureCrates {} (weatherNormalized none)) ↔
      ((weatherRequest none).toolChoice = none ∨ (weatherRequest none).tools ≠ []) ∧
        0 < ({} : CapabilityProfile).maxOutputTokens ∧
        ∀ message ∈ (weatherRequest none).messages, message.role = "assistant" → Speaks message :=
  wellFormedBody_iff pictureCrates {} (weatherRequest none) false (weatherNormalized none)
    (weatherNormalized none) rfl rfl "m" false _ rfl

/-- Three requests are accepted, adapted and translated into bodies that are not well formed: a choice
without tools, a limit of zero tokens, and a message of the assistant without content. -/
theorem malformed_bodies :
    (normalize pictureCrates idleChoice false = .ok idleChoiceNormalized ∧
      adaptRequest pictureCrates {} idleChoiceNormalized = .ok idleChoiceNormalized ∧
      buildRequest pictureCrates {} idleChoiceNormalized "m" false =
        .ok (bodyOf pictureCrates {} idleChoiceNormalized) ∧
      ¬ WellFormedBody (bodyOf pictureCrates {} idleChoiceNormalized)) ∧
    (normalize pictureCrates (weatherRequest none) false = .ok (weatherNormalized none) ∧
      adaptRequest pictureCrates muteProfile (weatherNormalized none) =
        .ok { weatherNormalized none with maxTokens := 0 } ∧
      buildRequest pictureCrates muteProfile { weatherNormalized none with maxTokens := 0 } "m" false =
        .ok (bodyOf pictureCrates muteProfile { weatherNormalized none with maxTokens := 0 }) ∧
      ¬ WellFormedBody
        (bodyOf pictureCrates muteProfile { weatherNormalized none with maxTokens := 0 })) ∧
    (normalize pictureCrates emptyTurn false = .ok emptyTurnNormalized ∧
      adaptRequest pictureCrates {} emptyTurnNormalized = .ok emptyTurnNormalized ∧
      buildRequest pictureCrates {} emptyTurnNormalized "m" false =
        .ok (bodyOf pictureCrates {} emptyTurnNormalized) ∧
      ¬ WellFormedBody (bodyOf pictureCrates {} emptyTurnNormalized)) := by
  refine ⟨⟨rfl, rfl, rfl, ?_⟩, ⟨rfl, rfl, rfl, ?_⟩, ⟨rfl, rfl, rfl, ?_⟩⟩
  · intro wellFormed
    have sends := (@wellFormed_iff_sends pictureCrates {} idleChoice false idleChoiceNormalized
      idleChoiceNormalized rfl rfl "m" false _ rfl).mp wellFormed
    simpa [idleChoice] using sends.choice
  · intro wellFormed
    have sends := (@wellFormed_iff_sends pictureCrates muteProfile (weatherRequest none) false
      (weatherNormalized none) { weatherNormalized none with maxTokens := 0 } rfl rfl "m" false _
      rfl).mp wellFormed
    exact absurd sends.tokens (by decide)
  · intro wellFormed
    have sends := (@wellFormed_iff_sends pictureCrates {} emptyTurn false emptyTurnNormalized
      emptyTurnNormalized rfl rfl "m" false _ rfl).mp wellFormed
    have speaks := sends.assistant _ (List.mem_singleton_self _) rfl
    simp [Speaks, contentBlocks, SpeakingBlock, Value.strAt] at speaks

end ClaudeProxy
