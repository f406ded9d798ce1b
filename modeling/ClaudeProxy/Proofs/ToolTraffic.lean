/-
Module: ClaudeProxy.Proofs.ToolTraffic
Layer: Proofs
Purpose: What a target without parallel tools, or without tools, is asked for. Tools reach the wire as
  definitions, as a choice, as calls in the history and as results in the history; the profile is
  checked against a choice that leaves parallel calls open and against definitions, and against
  nothing else.
Trusted boundary: none
Main exports: OffersTools, ForbidsParallel, parallel_forbidden_iff, NoToolTraffic, ToolFree,
  noToolTraffic_iff
-/
import ClaudeProxy.Proofs.Fitting

namespace ClaudeProxy

open Library

/-! ### Parallel calls -/

/-- The body has tools to call. -/
def OffersTools (body : Value) : Prop :=
  ∃ tools, body.get "tools" = some (.array tools) ∧ tools ≠ []

/-- The body asks for no calls or for one call at a time. Where it says nothing, parallel calls are
allowed. -/
def ForbidsParallel (body : Value) : Prop :=
  body.get "tool_choice" = some (.string "none") ∨
    body.get "parallel_tool_calls" = some (.bool false)

theorem offersTools_iff {capabilities : CapabilityProfile} {request : NormalizedRequest}
    {messages : List Value} {body : Value} (fields : BodyOf capabilities request messages body) :
    OffersTools body ↔ request.tools ≠ [] := by
  unfold OffersTools
  rw [fields.tools]
  by_cases empty : request.tools = []
  · simp [empty]
  · simp [empty]

/-- A choice that has been closed for parallel calls says so on the wire. -/
theorem forbidsParallel_of_choice {capabilities : CapabilityProfile} {request : NormalizedRequest}
    {messages : List Value} {body : Value} (fields : BodyOf capabilities request messages body)
    {choice : ToolChoice} (chosen : request.toolChoice = some choice.withoutParallel) :
    ForbidsParallel body := by
  unfold ForbidsParallel
  rw [fields.toolChoice, fields.parallelToolCalls, chosen]
  cases choice with
  | none => exact .inl rfl
  | auto disableParallel => exact .inr rfl
  | any disableParallel => exact .inr rfl
  | tool name disableParallel => exact .inr rfl

theorem not_forbidsParallel_of_silent {capabilities : CapabilityProfile}
    {request : NormalizedRequest} {messages : List Value} {body : Value}
    (fields : BodyOf capabilities request messages body) (silent : request.toolChoice = none) :
    ¬ ForbidsParallel body := by
  unfold ForbidsParallel
  rw [fields.toolChoice, fields.parallelToolCalls, silent]
  simp

section Choice

variable {crates : Crates} {capabilities : CapabilityProfile} {request : AnthropicRequest}
  {loose : Bool} {normalized : NormalizedRequest}

/-- The normal form has a choice exactly if the request has one. -/
theorem toolChoice_of_normalize (accepted : normalize crates request loose = .ok normalized) :
    normalized.toolChoice = none ↔ request.toolChoice = none := by
  obtain ⟨-, system, turns, history, names, choice, -, -, -, -, choiceEq, -, rfl⟩ :=
    normalize_eq_ok.mp accepted
  change choice = none ↔ request.toolChoice = none
  cases written : request.toolChoice with
  | none =>
      rw [written] at choiceEq
      cases choiceEq
      simp
  | some value =>
      rw [written] at choiceEq
      obtain ⟨kind, -, choiceEq⟩ := Except.bind_eq_ok.mp choiceEq
      obtain ⟨parsed, -, same⟩ := Except.bind_eq_ok.mp choiceEq
      cases same
      simp

theorem tools_of_normalize (accepted : normalize crates request loose = .ok normalized) :
    normalized.tools = request.tools := by
  obtain ⟨-, system, turns, history, names, choice, -, -, -, -, -, -, rfl⟩ :=
    normalize_eq_ok.mp accepted
  rfl

/-- A target without parallel tools is told so exactly if the request has a choice; a request that
has tools and says nothing of a choice leaves parallel calls open. -/
theorem parallel_forbidden_iff (model : String) (stream : Bool) (adapted : NormalizedRequest)
    (body : Value) (lacks : capabilities.parallelTools = false)
    (accepted : normalize crates request loose = .ok normalized)
    (fits : adaptRequest crates capabilities normalized = .ok adapted)
    (built : buildRequest crates capabilities adapted model stream = .ok body) :
    (OffersTools body → ForbidsParallel body) ↔
      request.tools = [] ∨ request.toolChoice ≠ none := by
  have frame := frame_of_adapted fits
  obtain ⟨messages, -, fields⟩ := buildRequest_body built
  rw [offersTools_iff fields, frame.tools, tools_of_normalize accepted]
  have adaptedChoice : adapted.toolChoice =
      normalized.toolChoice.map ToolChoice.withoutParallel := by
    simp [frame.toolChoice, lacks]
  cases chosen : normalized.toolChoice with
  | none =>
      have silent : request.toolChoice = none := (toolChoice_of_normalize accepted).mp chosen
      have open' : ¬ ForbidsParallel body :=
        not_forbidsParallel_of_silent fields (by rw [adaptedChoice, chosen]; rfl)
      simp [silent, open']
  | some choice =>
      have written : request.toolChoice ≠ none := by
        rw [Ne, ← toolChoice_of_normalize accepted, chosen]
        simp
      have forbids : ForbidsParallel body :=
        forbidsParallel_of_choice fields (by rw [adaptedChoice, chosen]; rfl)
      simp [written, forbids]

end Choice

/-- One question and one tool. -/
def weatherRequest (choice : Option Value) : AnthropicRequest where
  model := "m"
  maxTokens := 1
  messages := [{ role := "user", content := .string "weather?" }]
  tools := [{ name := "weather", inputSchema := .object [] }]
  toolChoice := choice

def weatherNormalized (choice : Option ToolChoice) : NormalizedRequest where
  originalModel := "m"
  maxTokens := 1
  messages := [{ role := .user, blocks := [.text "weather?"] }]
  temperature := none
  topP := none
  stopSequences := []
  tools := [{ name := "weather", inputSchema := .object [] }]
  toolChoice := choice
  stream := false

/-- A profile that calls one tool at a time. -/
def serialProfile : CapabilityProfile :=
  { parallelTools := false, allowParallelToolFallback := true }

/-- The body that a request has, or `null` if there is none. -/
def bodyOf (crates : Crates) (capabilities : CapabilityProfile) (request : NormalizedRequest) :
    Value :=
  (buildRequest crates capabilities request "m" false).toOption.getD .null

/-- The client says `auto`, which the profile turns into one call at a time. -/
theorem parallel_forbidden_iff_auto :
    (OffersTools (bodyOf pictureCrates serialProfile (weatherNormalized (some (.auto true)))) →
      ForbidsParallel
        (bodyOf pictureCrates serialProfile (weatherNormalized (some (.auto true))))) ↔
      (weatherRequest (some (.obj [("type", .string "auto")]))).tools = [] ∨
        (weatherRequest (some (.obj [("type", .string "auto")]))).toolChoice ≠ none :=
  @parallel_forbidden_iff pictureCrates serialProfile
    (weatherRequest (some (.obj [("type", .string "auto")]))) false
    (weatherNormalized (some (.auto false))) "m" false (weatherNormalized (some (.auto true)))
    (bodyOf pictureCrates serialProfile (weatherNormalized (some (.auto true)))) rfl rfl rfl rfl

/-- Asked for the weather without a word about the choice, the target may call its tool in parallel. -/
theorem parallel_left_open :
    serialProfile.parallelTools = false ∧
      normalize pictureCrates (weatherRequest none) false = .ok (weatherNormalized none) ∧
      adaptRequest pictureCrates serialProfile (weatherNormalized none) =
        .ok (weatherNormalized none) ∧
      buildRequest pictureCrates serialProfile (weatherNormalized none) "m" false =
        .ok (bodyOf pictureCrates serialProfile (weatherNormalized none)) ∧
      OffersTools (bodyOf pictureCrates serialProfile (weatherNormalized none)) ∧
      ¬ ForbidsParallel (bodyOf pictureCrates serialProfile (weatherNormalized none)) := by
  refine ⟨rfl, rfl, rfl, rfl, ?_, ?_⟩
  · exact ⟨[toolValue { name := "weather", inputSchema := .object [] }], rfl, by simp⟩
  · obtain ⟨messages, -, fields⟩ := @buildRequest_body pictureCrates serialProfile
      (weatherNormalized none) "m" false _ rfl
    exact not_forbidsParallel_of_silent fields rfl

/-! ### No tools at all -/

/-- A body in which no tools occur. -/
structure NoToolTraffic (body : Value) : Prop where
  tools : body.get "tools" = none
  toolChoice : body.get "tool_choice" = none
  parallelToolCalls : body.get "parallel_tool_calls" = none
  messages : ∃ messages, body.get "messages" = some (.array messages) ∧
    ∀ message ∈ messages, message.strAt "role" ≠ some "tool" ∧
      (message.strAt "role" = some "assistant" → message.get "tool_calls" = none)

def InputBlock.isTool : InputBlock → Bool
  | .toolUse _ _ _ => true
  | .toolResult _ _ _ => true
  | _ => false

/-- A request that says nothing of tools outside of their definitions. -/
structure ToolFree (request : NormalizedRequest) : Prop where
  choice : request.toolChoice = none
  history : ∀ message ∈ request.messages, ∀ block ∈ message.blocks, block.isTool = false

theorem FittedAs.isTool {crates : Crates} {before after : InputBlock}
    (fitted : FittedAs crates before after) : after.isTool = before.isTool := by
  cases fitted <;> rfl

/-- No tool block, no trace of tools in what is sent. -/
theorem SegmentFor.toolFree {crates : Crates} {message : NormalizedMessage} {segment : List Value}
    (segmentFor : SegmentFor crates message segment)
    (free : ∀ block ∈ message.blocks, block.isTool = false) {sent : Value}
    (isSent : sent ∈ segment) : sent.strAt "role" ≠ some "tool" ∧
      (sent.strAt "role" = some "assistant" → sent.get "tool_calls" = none) := by
  have fromUser {role : String} (notTool : role ≠ "tool") (notAssistant : role ≠ "assistant")
      (shape : UserSegment role message.blocks segment) : sent.strAt "role" ≠ some "tool" ∧
        (sent.strAt "role" = some "assistant" → sent.get "tool_calls" = none) := by
    rcases shape.sent_cases isSent with ⟨block, isBlock, result⟩ | ⟨held, rfl, -⟩
    · obtain ⟨⟨toolUseId, content, isError, rfl⟩, -⟩ := blockResult_sent result
      cases free _ isBlock
    · simp [Value.strAt, notTool, notAssistant]
  unfold SegmentFor at segmentFor
  split at segmentFor
  case h_1 => exact fromUser (by decide) (by decide) segmentFor
  case h_2 => exact fromUser (by decide) (by decide) segmentFor
  case h_3 =>
    obtain ⟨role, -, calls⟩ := segmentFor.sent_fields isSent
    have noCalls : message.blocks.filterMap (blockCall crates) = [] := by
      rw [List.filterMap_eq_nil_iff]
      intro block isBlock
      have notTool := free block isBlock
      cases block with
      | toolUse id name input => cases notTool
      | text text => rfl
      | image mediaType data => rfl
      | toolResult toolUseId content isError => rfl
    rw [if_pos noCalls] at calls
    simp [role, calls]

/-- A tool block that is sent leaves a trace. -/
theorem SegmentFor.tool_trace {crates : Crates} {message : NormalizedMessage} {segment : List Value}
    (segmentFor : SegmentFor crates message segment) {block : InputBlock}
    (isBlock : block ∈ message.blocks) (isTool : block.isTool = true) :
    ∃ sent ∈ segment, sent.strAt "role" = some "tool" ∨
      sent.strAt "role" = some "assistant" ∧ sent.get "tool_calls" ≠ none := by
  have fromUser {role : String} (shape : UserSegment role message.blocks segment) :
      ∃ sent ∈ segment, sent.strAt "role" = some "tool" := by
    have sends := shape.sends block isBlock
    cases block with
    | text text => cases isTool
    | image mediaType data => cases isTool
    | toolUse id name input => exact sends.elim
    | toolResult toolUseId content isError =>
        cases content with
        | string text =>
            have result := shape.result_sent isBlock rfl
            exact ⟨_, result, by simp [Value.strAt]⟩
        | null => cases sends
        | bool => cases sends
        | number => cases sends
        | array => cases sends
        | object => cases sends
  unfold SegmentFor at segmentFor
  split at segmentFor
  case h_1 =>
    obtain ⟨sent, isSent, role⟩ := fromUser segmentFor
    exact ⟨sent, isSent, .inl role⟩
  case h_2 =>
    obtain ⟨sent, isSent, role⟩ := fromUser segmentFor
    exact ⟨sent, isSent, .inl role⟩
  case h_3 =>
    have single := segmentFor.single
    obtain ⟨sent, segmentEq⟩ : ∃ sent, segment = [sent] := ⟨_, single⟩
    subst segmentEq
    obtain ⟨role, -, calls⟩ := segmentFor.sent_fields List.mem_cons_self
    have called : message.blocks.filterMap (blockCall crates) ≠ [] := by
      intro empty
      have silent := List.filterMap_eq_nil_iff.mp empty block isBlock
      have sends := segmentFor.sends block isBlock
      cases block with
      | text text => cases isTool
      | image mediaType data => cases isTool
      | toolUse id name input => cases silent
      | toolResult toolUseId content isError => exact sends.elim
    refine ⟨sent, List.mem_cons_self, .inr ⟨role, ?_⟩⟩
    rw [calls, if_neg called]
    simp

section Free

variable {crates : Crates} {capabilities : CapabilityProfile}

/-- An adapted request is free of tools where the request is. -/
theorem toolFree_adapted {request adapted : NormalizedRequest}
    (frame : Frame crates capabilities request adapted) : ToolFree adapted ↔ ToolFree request := by
  have choice : adapted.toolChoice = none ↔ request.toolChoice = none := by
    rw [frame.toolChoice]
    split <;> simp
  constructor
  · intro free
    constructor
    · exact choice.mp free.choice
    · intro message isMessage block isBlock
      obtain ⟨after, isAfter, -, blocks⟩ := Except.exists_of_mem_left frame.messages isMessage
      obtain ⟨fitted, isFitted, same⟩ := Except.exists_of_mem_left blocks isBlock
      rw [← same.isTool]
      exact free.history after isAfter fitted isFitted
  · intro free
    constructor
    · exact choice.mpr free.choice
    · intro message isMessage block isBlock
      obtain ⟨before, isBefore, -, blocks⟩ := Except.exists_of_mem_right frame.messages isMessage
      obtain ⟨original, isOriginal, same⟩ := Except.exists_of_mem_right blocks isBlock
      rw [same.isTool]
      exact free.history before isBefore original isOriginal

/-- A body without definitions shows tools exactly if the request has a choice or a tool block. -/
theorem noToolTraffic_body {request : NormalizedRequest} (noTools : request.tools = [])
    {model : String} {stream : Bool} {body : Value}
    (built : buildRequest crates capabilities request model stream = .ok body) :
    NoToolTraffic body ↔ ToolFree request := by
  obtain ⟨messages, converted, fields⟩ := buildRequest_body built
  constructor
  · intro clean
    constructor
    · have choice := clean.toolChoice
      rw [fields.toolChoice] at choice
      simpa using choice
    · intro message isMessage block isBlock
      obtain ⟨held, heldEq, silent⟩ := clean.messages
      obtain rfl : messages = held := by simpa [fields.messages] using heldEq
      obtain ⟨segment, segmentFor, isSent⟩ := exists_segment_of_message converted isMessage
      by_contra isTool
      obtain ⟨sent, inSegment, trace⟩ := segmentFor.tool_trace isBlock (by simpa using isTool)
      obtain ⟨notTool, noCalls⟩ := silent sent (isSent sent inSegment)
      rcases trace with role | ⟨role, calls⟩
      · exact notTool role
      · exact calls (noCalls role)
  · intro free
    constructor
    · simp [fields.tools, noTools]
    · simp [fields.toolChoice, free.choice]
    · simp [fields.parallelToolCalls, free.choice]
    · refine ⟨messages, fields.messages, ?_⟩
      intro sent isSent
      obtain ⟨message, isMessage, segment, segmentFor, inSegment⟩ :=
        exists_segment_of_mem converted isSent
      exact segmentFor.toolFree (free.history message isMessage) inSegment

/-- A target without tools sees no trace of them exactly if the request is rejected or says nothing of
tools: definitions are rejected, but a choice and a history with tools pass. -/
theorem noToolTraffic_iff {request : AnthropicRequest} {loose : Bool}
    {normalized : NormalizedRequest} (lacks : capabilities.tools = false)
    (accepted : normalize crates request loose = .ok normalized) :
    (∀ adapted, adaptRequest crates capabilities normalized = .ok adapted → ∀ model stream body,
      buildRequest crates capabilities adapted model stream = .ok body → NoToolTraffic body) ↔
      Exceeds capabilities normalized ∨ (∃ message ∈ normalized.messages, ShowsImage message) ∨
        ToolFree normalized := by
  constructor
  · intro clean
    by_cases exceeds : Exceeds capabilities normalized
    · exact .inl exceeds
    · by_cases shows : ∃ message ∈ normalized.messages, ShowsImage message
      · exact .inr (.inl shows)
      · have fits := (@adaptRequest_eq_ok crates capabilities normalized _).mpr
          ⟨fits_of_not_exceeds exceeds, rfl⟩
        have noImages : ∀ message ∈ normalized.messages, ¬ ShowsImage message :=
          fun message isMessage image => shows ⟨message, isMessage, image⟩
        obtain ⟨body, built⟩ := (buildRequest_accepts accepted fits "" false).1 noImages
        have noTools : (fittedRequest crates capabilities normalized).tools = [] := by
          by_contra present
          exact exceeds (.tools present lacks)
        have free := (noToolTraffic_body noTools built).mp (clean _ fits "" false body built)
        exact .inr (.inr ((toolFree_adapted (frame_of_adapted fits)).mp free))
  · rintro (exceeds | shows | free) adapted fits model stream body built
    · exact absurd (adaptRequest_eq_ok.mp fits).1 exceeds.not_fits
    · rw [(buildRequest_accepts accepted fits model stream).2 shows] at built
      cases built
    · have noTools : adapted.tools = [] := by
        by_contra present
        have has := (adaptRequest_eq_ok.mp (adaptRequest_again fits)).1.tools present
        rw [lacks] at has
        cases has
      exact (noToolTraffic_body noTools built).mpr
        ((toolFree_adapted (frame_of_adapted fits)).mpr free)

end Free

/-- A profile that knows no tools. -/
def toollessProfile : CapabilityProfile := { tools := false, parallelTools := false }

/-- A call and its answer, without the definition of the tool. -/
def answeredRequest : AnthropicRequest where
  model := "m"
  maxTokens := 1
  messages := [
    { role := "assistant"
      content := .array [.obj [("type", .string "tool_use"), ("id", .string "a"),
        ("name", .string "weather"), ("input", .obj [])]] },
    { role := "user"
      content := .array [.obj [("type", .string "tool_result"), ("tool_use_id", .string "a"),
        ("content", .string "rain")]] }]

def answeredNormalized : NormalizedRequest :=
  { weatherNormalized none with
    messages := [
      { role := .assistant, blocks := [.toolUse "a" "weather" (.object [])] },
      { role := .user, blocks := [.toolResult "a" (.string "rain") false] }]
    tools := [] }

/-- A history with a call and its answer goes through a profile without tools, if no tools are
defined. -/
theorem noToolTraffic_iff_answered :
    (∀ adapted, adaptRequest pictureCrates toollessProfile answeredNormalized = .ok adapted →
      ∀ model stream body,
        buildRequest pictureCrates toollessProfile adapted model stream = .ok body →
        NoToolTraffic body) ↔
      Exceeds toollessProfile answeredNormalized ∨
        (∃ message ∈ answeredNormalized.messages, ShowsImage message) ∨
        ToolFree answeredNormalized :=
  @noToolTraffic_iff pictureCrates toollessProfile answeredRequest false answeredNormalized rfl rfl

/-- The history of a conversation with tools is sent to a target without tools. -/
theorem tool_history_sent :
    toollessProfile.tools = false ∧
      normalize pictureCrates answeredRequest false = .ok answeredNormalized ∧
      adaptRequest pictureCrates toollessProfile answeredNormalized = .ok answeredNormalized ∧
      buildRequest pictureCrates toollessProfile answeredNormalized "m" false =
        .ok (bodyOf pictureCrates toollessProfile answeredNormalized) ∧
      ¬ NoToolTraffic (bodyOf pictureCrates toollessProfile answeredNormalized) := by
  refine ⟨rfl, rfl, rfl, rfl, ?_⟩
  intro clean
  have free := (@noToolTraffic_body pictureCrates toollessProfile answeredNormalized rfl "m" false
    _ rfl).mp clean
  have traced := free.history _ List.mem_cons_self _ List.mem_cons_self
  cases traced

end ClaudeProxy
