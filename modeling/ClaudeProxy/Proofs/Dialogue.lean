/-
Module: ClaudeProxy.Proofs.Dialogue
Layer: Proofs
Purpose: Conversations that the proxy makes with a client round by round. What `convert_response` gives
  out comes back as part of the next request; here is when `normalize` takes it back, and what the
  provider then sees of its own answers.
Trusted boundary: none
Main exports: AnsweredRound, AnsweredRound.Proper, GoesOn, dialogue_accepted_iff, sentBack,
  dialogue_sent
-/
import ClaudeProxy.Proofs.Rounds
import ClaudeProxy.Provider.Response

namespace ClaudeProxy

open Library

/-! ### Rounds with answers of a provider -/

/-- An answer of the provider, the proxy's translation of it, and what the client replies to that. -/
structure AnsweredRound where
  provided : OpenAiResponse
  response : AnthropicResponse
  reply : ToolReply
deriving Inhabited

structure AnsweredRound.Proper (crates : Crates) (model : String) (exchange : AnsweredRound) : Prop where
  converted : convertResponse crates exchange.provided model = .ok exchange.response
  followsUp : exchange.reply.FollowsUp exchange.response.content

def AnsweredRound.round (exchange : AnsweredRound) : Round where
  answer := exchange.response.toValue
  reply := exchange.reply

/-- The messages of an exchange in normal form. -/
def AnsweredRound.turns (exchange : AnsweredRound) : List NormalizedMessage :=
  [{ role := .assistant, blocks := exchange.response.content.map OutputBlock.toInput },
    { role := .user, blocks := exchange.reply.blocks }]

/-- Every translated answer has a role and blocks. -/
theorem convertResponse_shape {crates : Crates} {provided : OpenAiResponse} {model : String}
    {response : AnthropicResponse} (converted : convertResponse crates provided model = .ok response) :
    response.role = "assistant" ∧ response.content ≠ [] := by
  unfold convertResponse at converted
  split at converted
  case h_1 => cases converted
  case h_2 choice _ _ =>
    simp only [Except.bind_eq_ok] at converted
    obtain ⟨tools, _, reason, _, same⟩ := converted
    cases same
    refine ⟨rfl, ?_⟩
    simp only [responseContent]
    split
    · simp
    · rename_i nonempty
      simpa using nonempty

/-- A whole answer is echoed as the turn that it was. -/
theorem echoed_toValue (response : AnthropicResponse) :
    echoed response.toValue =
      { role := response.role, content := .array (response.content.map OutputBlock.toValue) } := by
  simp [echoed, AnthropicResponse.toValue, Value.strAt]

/-- An exchange, as the client reads its answer. -/
def AnsweredRound.read (exchange : AnsweredRound) : ReadRound where
  answer := exchange.response.toValue
  content := exchange.response.content
  reply := exchange.reply

theorem proper_read {crates : Crates} {model : String} {exchanges : List AnsweredRound}
    (proper : ∀ exchange ∈ exchanges, exchange.Proper crates model) :
    ∀ round ∈ exchanges.map AnsweredRound.read, round.Proper := by
  intro round member
  obtain ⟨exchange, isExchange, rfl⟩ := List.mem_map.mp member
  obtain ⟨converted, followsUp⟩ := proper exchange isExchange
  obtain ⟨role, speaks⟩ := convertResponse_shape converted
  refine ⟨?_, speaks, followsUp⟩
  rw [AnsweredRound.read, echoed_toValue, role]

theorem rounds_read (exchanges : List AnsweredRound) :
    exchanges.map AnsweredRound.round = (exchanges.map AnsweredRound.read).map ReadRound.round := by
  rw [List.map_map]
  rfl

theorem turns_read (exchanges : List AnsweredRound) :
    exchanges.flatMap AnsweredRound.turns =
      (exchanges.map AnsweredRound.read).flatMap ReadRound.turns := by
  rw [List.flatMap_map]
  rfl

/-! ### The calls of a conversation -/

/-- The calls that the proxy reads off an answer. -/
def OpenAiResponse.calls (provided : OpenAiResponse) : List OpenAiToolCall :=
  (provided.choices.head?.map fun choice => choice.message.toolCalls).getD []

/-- The text of an answer, or else its refusal; an empty one is none. -/
def OpenAiResponse.said (provided : OpenAiResponse) : Option String :=
  (provided.choices.head?.bind fun choice =>
    choice.message.content.or choice.message.refusal).filter (· ≠ "")

/-- What a conversation must keep to. Every call of the provider has an id of its own and arguments
that are a JSON object. -/
structure GoesOn (crates : Crates) (request : AnthropicRequest) (exchanges : List AnsweredRound) :
    Prop where
  short : request.messages.length + 2 * exchanges.length ≤ 10000
  objects : ∀ exchange ∈ exchanges, ∀ call ∈ exchange.provided.calls,
    ∃ entries, crates.fromStr call.function.arguments = .ok (.object entries)
  named : ∀ exchange ∈ exchanges, ∀ call ∈ exchange.provided.calls, call.id ≠ ""
  once : (request.messages.flatMap toolUseIds ++
    exchanges.flatMap fun exchange => exchange.provided.calls.map (·.id)).Nodup

section Calls

variable {crates : Crates} {model : String}

/-- What the translation of an answer makes of its text and its calls. -/
theorem convertResponse_content {provided : OpenAiResponse} {response : AnthropicResponse}
    (converted : convertResponse crates provided model = .ok response) :
    ∃ text tools, text.filter (· ≠ "") = provided.said ∧
      provided.calls.mapM (convertToolCall crates) = .ok tools ∧
      response.content = responseContent text tools := by
  unfold convertResponse at converted
  split at converted
  case h_1 => cases converted
  case h_2 choice rest choicesEq =>
    simp only [Except.bind_eq_ok] at converted
    obtain ⟨tools, toolsEq, reason, _, same⟩ := converted
    refine ⟨choice.message.content.or choice.message.refusal, tools, ?_, ?_, ?_⟩
    · unfold OpenAiResponse.said
      rw [choicesEq]
      rfl
    · unfold OpenAiResponse.calls
      rw [choicesEq]
      exact toolsEq
    · rw [← Except.ok.inj same]

/-- A call is translated exactly if its arguments parse. -/
theorem convertToolCall_eq_ok {call : OpenAiToolCall} {block : OutputBlock} :
    convertToolCall crates call = .ok block ↔ ∃ input,
      crates.fromStr call.function.arguments = .ok input ∧
        block = .toolUse call.id call.function.name input := by
  unfold convertToolCall
  cases crates.fromStr call.function.arguments with
  | ok input => simp [eq_comm]
  | error message => simp

/-- The blocks of an answer: its text, of which there may be none, and its calls. -/
theorem responseContent_texts (text : Option String) (tools : List OutputBlock) :
    ∃ texts : List String, responseContent text tools = texts.map OutputBlock.text ++ tools ∧
      String.join texts = (text.filter (· ≠ "")).getD "" := by
  unfold responseContent
  dsimp only
  split
  · rename_i empty
    rw [List.isEmpty_iff, List.append_eq_nil_iff] at empty
    obtain ⟨silent, none⟩ := empty
    refine ⟨[""], by rw [none]; rfl, ?_⟩
    rw [Option.toList_eq_nil_iff, Option.map_eq_none_iff] at silent
    rw [silent]
    rfl
  · refine ⟨(text.filter (· ≠ "")).toList, ?_, ?_⟩
    · rw [Option.toList_map]
    · cases text.filter (· ≠ "") with
      | none => rfl
      | some shown => simp

/-- The ids of the calls, in the answer and in its translation. -/
theorem calledIds_of_converted {provided : OpenAiResponse} {response : AnthropicResponse}
    (converted : convertResponse crates provided model = .ok response) :
    calledIds response.content = provided.calls.map (·.id) := by
  obtain ⟨text, tools, -, toolsEq, contentEq⟩ := convertResponse_content converted
  obtain ⟨texts, written, -⟩ := responseContent_texts text tools
  have silent : calledIds (texts.map OutputBlock.text) = [] := by
    unfold calledIds
    rw [List.filterMap_map]
    exact List.filterMap_eq_nil_iff.mpr fun _ _ => rfl
  rw [contentEq, written, calledIds_append, silent, List.nil_append]
  have each := Except.mapM_eq_ok.mp toolsEq
  generalize provided.calls = calls at each ⊢
  clear written contentEq toolsEq
  induction each with
  | nil => rfl
  | cons here _ inductionHypothesis =>
      obtain ⟨input, -, rfl⟩ := convertToolCall_eq_ok.mp here
      rw [List.map_cons, ← inductionHypothesis]
      rfl

/-- The translation can be sent back where the arguments are objects. -/
theorem returnable_of_converted {provided : OpenAiResponse} {response : AnthropicResponse}
    (converted : convertResponse crates provided model = .ok response) :
    (∀ block ∈ response.content, Returnable block) ↔ ∀ call ∈ provided.calls,
      ∃ entries, crates.fromStr call.function.arguments = .ok (.object entries) := by
  obtain ⟨text, tools, -, toolsEq, contentEq⟩ := convertResponse_content converted
  obtain ⟨texts, written, -⟩ := responseContent_texts text tools
  have silent : ∀ block ∈ texts.map OutputBlock.text, Returnable block := by
    intro block member
    obtain ⟨shown, -, rfl⟩ := List.mem_map.mp member
    trivial
  have beside : (∀ block ∈ response.content, Returnable block) ↔
      ∀ block ∈ tools, Returnable block := by
    rw [contentEq, written, List.forall_mem_append]
    exact and_iff_right silent
  rw [beside]
  have each := Except.mapM_eq_ok.mp toolsEq
  symm
  refine Except.forall_iff_of_forall₂ each ?_
  intro call block made
  obtain ⟨input, parsed, rfl⟩ := convertToolCall_eq_ok.mp made
  rw [parsed]
  cases input <;> simp [Returnable, Value.isObject]

end Calls

/-! ### When a conversation goes on -/

section Conversation

variable {crates : Crates} {request : AnthropicRequest} {loose : Bool}
  {normalized : NormalizedRequest} {exchanges : List AnsweredRound}

/-- A conversation that the proxy makes with a client. Whatever was answered, the next request, with
all of it, is accepted exactly when the conversation is not too long, and each call of the provider
came with a JSON object as its arguments, an id, and one that was not used before. -/
theorem dialogue_accepted_iff (accepted : normalize crates request loose = .ok normalized)
    (proper : ∀ exchange ∈ exchanges, exchange.Proper crates request.model) :
    (∃ continued, normalize crates (dialogue request (exchanges.map AnsweredRound.round)) loose =
        .ok continued) ↔ GoesOn crates request exchanges := by
  have sameIds : ∀ exchange ∈ exchanges,
      calledIds exchange.read.content = exchange.provided.calls.map (·.id) :=
    fun exchange member => calledIds_of_converted (proper exchange member).converted
  have returnable : (∀ exchange ∈ exchanges, ∀ block ∈ exchange.read.content,
      Returnable block) ↔ ∀ exchange ∈ exchanges, ∀ call ∈ exchange.provided.calls,
        ∃ entries, crates.fromStr call.function.arguments = .ok (.object entries) :=
    forall₂_congr fun exchange member => returnable_of_converted (proper exchange member).converted
  have named : (∀ exchange ∈ exchanges, "" ∉ calledIds exchange.read.content) ↔
      ∀ exchange ∈ exchanges, ∀ call ∈ exchange.provided.calls, call.id ≠ "" := by
    refine forall₂_congr fun exchange member => ?_
    rw [sameIds exchange member]
    simp
  rw [rounds_read, rounds_accepted_iff accepted (proper_read proper), List.length_map,
    List.forall_mem_map, List.forall_mem_map, List.flatMap_map, returnable, named,
    List.flatMap_congr sameIds]
  constructor
  · rintro ⟨short, objects, haveIds, once⟩
    exact ⟨short, objects, haveIds, once⟩
  · rintro ⟨short, objects, haveIds, once⟩
    exact ⟨short, objects, haveIds, once⟩

end Conversation

/-! ### What the provider sees again -/

/-- The arguments of a call, printed anew. -/
def reprinted (crates : Crates) (arguments : String) : String :=
  ((crates.fromStr arguments).toOption.map crates.toJson).getD arguments

def ownCall (crates : Crates) (call : OpenAiToolCall) : Value :=
  .obj [("id", .string call.id), ("type", .string "function"),
    ("function", .obj [("name", .string call.function.name),
      ("arguments", .string (reprinted crates call.function.arguments))])]

/-- An answer of the provider as a message of the conversation: its text, or `null`, and its calls. -/
def ownAnswer (crates : Crates) (provided : OpenAiResponse) : Value :=
  .obj ([("role", .string "assistant"),
      ("content", (provided.said.map Value.string).getD .null)] ++
    if provided.calls = [] then []
    else [("tool_calls", .array (provided.calls.map (ownCall crates)))])

/-- The result of a tool, as a message. What is no string is printed. -/
def resultMessage (crates : Crates) (result : CallResult) : Value :=
  let text := match result.content with
    | .string text => text
    | content => crates.toJson content
  .obj [("role", .string "tool"), ("tool_call_id", .string result.toolUseId),
    ("content", .string (if result.isError = true then "Error: " ++ text else text))]

/-- What the user says beside the results: one text is a bare string. -/
def spoken : List String → List Value
  | [] => []
  | [text] => [.obj [("role", .string "user"), ("content", .string text)]]
  | texts => [.obj [("role", .string "user"), ("content", .array (texts.map textPart))]]

/-- The messages of one exchange on the wire. -/
def sentBack (crates : Crates) (exchange : AnsweredRound) : List Value :=
  ownAnswer crates exchange.provided ::
    (exchange.reply.results.map (resultMessage crates) ++ spoken exchange.reply.texts)

section Sent

variable {crates : Crates} {model : String}

/-- The calls of an answer, as the next request says them. -/
theorem inputs_of_tools {calls : List OpenAiToolCall} {tools : List OutputBlock}
    (each : List.Forall₂ (fun call block => convertToolCall crates call = .ok block) calls tools) :
    (tools.map OutputBlock.toInput).filterMap blockText = [] ∧
      (tools.map OutputBlock.toInput).filterMap (blockCall crates) = calls.map (ownCall crates) := by
  induction each with
  | nil => exact ⟨rfl, rfl⟩
  | @cons call block calls tools here _ inductionHypothesis =>
      obtain ⟨input, parsed, rfl⟩ := convertToolCall_eq_ok.mp here
      obtain ⟨noText, sameCalls⟩ := inductionHypothesis
      have printed : reprinted crates call.function.arguments = crates.toJson input := by
        simp [reprinted, parsed, Except.toOption]
      constructor
      · rw [List.map_cons, List.filterMap_cons_none rfl]
        exact noText
      · rw [List.map_cons, List.map_cons, ← sameCalls]
        apply List.filterMap_cons_some
        simp only [OutputBlock.toInput, blockCall, ownCall, printed]

/-- The text and the calls of an answer, as the next request says them. -/
theorem inputs_of_converted {provided : OpenAiResponse} {response : AnthropicResponse}
    (converted : convertResponse crates provided model = .ok response) :
    String.join ((response.content.map OutputBlock.toInput).filterMap blockText) =
        provided.said.getD "" ∧
      (response.content.map OutputBlock.toInput).filterMap (blockCall crates) =
        provided.calls.map (ownCall crates) := by
  obtain ⟨text, tools, saidEq, toolsEq, contentEq⟩ := convertResponse_content converted
  obtain ⟨texts, written, joined⟩ := responseContent_texts text tools
  obtain ⟨noText, sameCalls⟩ := inputs_of_tools (Except.mapM_eq_ok.mp toolsEq)
  have allTexts : ((texts.map OutputBlock.text).map OutputBlock.toInput).filterMap blockText =
      texts := by
    rw [List.map_map, List.filterMap_map]
    exact List.filterMap_some
  have noCalls : ((texts.map OutputBlock.text).map OutputBlock.toInput).filterMap
      (blockCall crates) = [] := by
    rw [List.map_map, List.filterMap_map]
    exact List.filterMap_eq_nil_iff.mpr fun _ _ => rfl
  rw [contentEq, written, List.map_append, List.filterMap_append, List.filterMap_append, noText,
    sameCalls, allTexts, noCalls, List.append_nil, List.nil_append, joined, saidEq]
  exact ⟨rfl, rfl⟩

theorem fittedBlock_toInput (block : OutputBlock) :
    fittedBlock crates block.toInput = block.toInput := by
  cases block <;> rfl

/-- The message of an answer is translated into the answer itself. -/
theorem convertMessage_answer {provided : OpenAiResponse} {response : AnthropicResponse}
    (converted : convertResponse crates provided model = .ok response) :
    convertMessage crates (fittedMessage crates
        { role := .assistant, blocks := response.content.map OutputBlock.toInput }) =
      .ok [ownAnswer crates provided] := by
  have fitted : (response.content.map OutputBlock.toInput).map (fittedBlock crates) =
      response.content.map OutputBlock.toInput := by
    rw [List.map_map]
    exact List.map_congr_left fun block _ => fittedBlock_toInput block
  have added : ∃ parts, (response.content.map OutputBlock.toInput).foldlM
      (AssistantParts.add crates) {} = .ok parts := by
    apply Except.exists_foldlM_eq_ok
    intro block member parts
    obtain ⟨output, -, rfl⟩ := List.mem_map.mp member
    cases output with
    | text written => exact ⟨_, rfl⟩
    | toolUse id name input => exact ⟨_, rfl⟩
  obtain ⟨parts, partsEq⟩ := added
  obtain ⟨joined, sameCalls⟩ := inputs_of_converted converted
  have segment := (AssistantParts.SortedFrom.run partsEq).segment.single
  unfold convertMessage fittedMessage
  dsimp only
  rw [fitted, partsEq]
  change Except.ok [parts.message] = _
  rw [segment]
  unfold assistantContent assistantCalls ownAnswer
  rw [joined, sameCalls]
  simp only [List.map_eq_nil_iff]
  cases saidEq : provided.said with
  | none => rfl
  | some text =>
      have shown : text ≠ "" := by
        have kept := (Option.filter_eq_some_iff.mp saidEq).2
        simpa using kept
      rw [Option.getD_some, if_neg shown]
      rfl

/-- What the adaptation makes of the results and the texts of a reply, and how they are sorted. -/
theorem sorted_reply (reply : ToolReply) :
    (reply.blocks.map (fittedBlock crates)).filterMap blockResult =
        reply.results.map (resultMessage crates) ∧
      (reply.blocks.map (fittedBlock crates)).filterMap blockPart = reply.texts.map textPart := by
  have results : ((reply.results.map CallResult.toInput).map (fittedBlock crates)).filterMap
      blockResult = reply.results.map (resultMessage crates) := by
    rw [List.map_map, List.filterMap_map, ← List.filterMap_eq_map]
    congr 1
    funext result
    obtain ⟨id, content, isError⟩ := result
    cases content <;> rfl
  have noParts : ((reply.results.map CallResult.toInput).map (fittedBlock crates)).filterMap
      blockPart = [] := by
    rw [List.map_map, List.filterMap_map]
    exact List.filterMap_eq_nil_iff.mpr fun _ _ => rfl
  have noResults : ((reply.texts.map InputBlock.text).map (fittedBlock crates)).filterMap
      blockResult = [] := by
    rw [List.map_map, List.filterMap_map]
    exact List.filterMap_eq_nil_iff.mpr fun _ _ => rfl
  have parts : ((reply.texts.map InputBlock.text).map (fittedBlock crates)).filterMap blockPart =
      reply.texts.map textPart := by
    rw [List.map_map, List.filterMap_map, ← List.filterMap_eq_map]
    rfl
  unfold ToolReply.blocks
  rw [List.map_append, List.filterMap_append, List.filterMap_append, results, noParts, noResults,
    parts, List.append_nil, List.nil_append]
  exact ⟨rfl, rfl⟩

theorem spoken_eq (texts : List String) :
    (if (texts.map textPart).isEmpty = true then []
      else [Value.obj [("role", .string "user"), ("content", contentValue (texts.map textPart))]]) =
      spoken texts := by
  match texts with
  | [] => rfl
  | [text] =>
      have bare : contentValue [textPart text] = .string text := by
        simp [contentValue, textPart, Value.strAt]
      rw [List.map_singleton, bare]
      rfl
  | first :: second :: rest => rfl

/-- The message of a reply is translated into its results and its texts. -/
theorem convertMessage_reply (reply : ToolReply) :
    convertMessage crates (fittedMessage crates { role := .user, blocks := reply.blocks }) =
      .ok (reply.results.map (resultMessage crates) ++ spoken reply.texts) := by
  have added : ∃ parts, (reply.blocks.map (fittedBlock crates)).foldlM UserParts.add {} =
      .ok parts := by
    apply Except.exists_foldlM_eq_ok
    intro block member parts
    obtain ⟨given, givenMember, rfl⟩ := List.mem_map.mp member
    rcases List.mem_append.mp givenMember with result | text
    · obtain ⟨⟨id, content, isError⟩, -, rfl⟩ := List.mem_map.mp result
      cases content <;> exact ⟨_, rfl⟩
    · obtain ⟨written, -, rfl⟩ := List.mem_map.mp text
      exact ⟨_, rfl⟩
  obtain ⟨parts, partsEq⟩ := added
  obtain ⟨results, texts⟩ := @sorted_reply crates reply
  have sorted := UserParts.SortedFrom.run partsEq
  unfold convertMessage fittedMessage
  dsimp only
  rw [partsEq]
  change Except.ok (parts.messages "user") = _
  unfold UserParts.messages
  rw [sorted.results, sorted.content, results, texts, spoken_eq]

end Sent

section Conversation

variable {crates : Crates} {capabilities : CapabilityProfile} {request : AnthropicRequest}
  {loose : Bool} {normalized continued adapted : NormalizedRequest} {exchanges : List AnsweredRound}

/-- The exchanges are translated one by one. -/
theorem convert_exchanges (proper : ∀ exchange ∈ exchanges, exchange.Proper crates request.model) :
    ((exchanges.flatMap AnsweredRound.turns).map (fittedMessage crates)).mapM (convertMessage crates) =
      .ok (exchanges.flatMap fun exchange => [[ownAnswer crates exchange.provided],
        exchange.reply.results.map (resultMessage crates) ++ spoken exchange.reply.texts]) := by
  induction exchanges with
  | nil => rfl
  | cons exchange rest inductionHypothesis =>
      rw [List.forall_mem_cons] at proper
      rw [List.flatMap_cons, AnsweredRound.turns, List.map_append, List.map_cons, List.map_cons,
        List.map_nil, List.cons_append, List.cons_append, List.nil_append, List.mapM_cons,
        List.mapM_cons, convertMessage_answer proper.1.converted, convertMessage_reply,
        inductionHypothesis proper.2]
      rfl

/-- What the target must accept of the replies. -/
theorem fits_extended (fits : Fits capabilities normalized)
    (strings : ∀ exchange ∈ exchanges, ∀ result ∈ exchange.reply.results,
      result.content.isString = false → capabilities.allowStructuredToolResultsToString = true) :
    Fits capabilities { normalized with
      messages := normalized.messages ++ exchanges.flatMap AnsweredRound.turns } := by
  obtain ⟨maxTokens, temperature, topP, stop, tools, toolChoice, blocks⟩ := fits
  refine ⟨maxTokens, temperature, topP, stop, tools, toolChoice, ?_⟩
  intro message member block inside
  rcases List.mem_append.mp member with before | after
  · exact blocks message before block inside
  · obtain ⟨exchange, exchangeMember, turn⟩ := List.mem_flatMap.mp after
    simp only [AnsweredRound.turns, List.mem_cons, List.not_mem_nil, or_false] at turn
    rcases turn with rfl | rfl
    · obtain ⟨output, -, rfl⟩ := List.mem_map.mp inside
      cases output <;> trivial
    · rcases List.mem_append.mp inside with result | text
      · obtain ⟨given, givenMember, rfl⟩ := List.mem_map.mp result
        exact strings exchange exchangeMember given givenMember
      · obtain ⟨written, -, rfl⟩ := List.mem_map.mp text
        trivial

/-- What a target is sent of a conversation. Where it was sent the request, it can be sent all that
follows: after the messages of the request come, exchange by exchange, its own answer with its text
and its calls in their order, the results in the order of the client, and the user's texts. -/
theorem dialogue_sent {opening : List Value}
    (accepted : normalize crates request loose = .ok normalized)
    (fits : adaptRequest crates capabilities normalized = .ok adapted)
    (sent : convertMessages crates adapted = .ok opening)
    (proper : ∀ exchange ∈ exchanges, exchange.Proper crates request.model)
    (strings : ∀ exchange ∈ exchanges, ∀ result ∈ exchange.reply.results,
      result.content.isString = false → capabilities.allowStructuredToolResultsToString = true)
    (goesOn : normalize crates (dialogue request (exchanges.map AnsweredRound.round)) loose =
      .ok continued) :
    ∃ adaptedNext, adaptRequest crates capabilities continued = .ok adaptedNext ∧
      convertMessages crates adaptedNext = .ok (opening ++ exchanges.flatMap (sentBack crates)) := by
  rw [rounds_read] at goesOn
  obtain ⟨-, turns, _, turnsEq, -, rfl⟩ := (normalize_extended accepted _).mp goesOn
  obtain ⟨-, isTurns⟩ := (normalize_rounds (proper_read proper)).mp turnsEq
  rw [← turns_read] at isTurns
  subst isTurns
  obtain ⟨fitsBefore, rfl⟩ := adaptRequest_eq_ok.mp fits
  obtain ⟨segments, segmentsEq, same⟩ := Except.bind_eq_ok.mp sent
  cases same
  refine ⟨_, adaptRequest_eq_ok.mpr ⟨fits_extended fitsBefore strings, rfl⟩, ?_⟩
  apply Except.bind_eq_ok.mpr
  refine ⟨segments ++ exchanges.flatMap fun exchange => [[ownAnswer crates exchange.provided],
    exchange.reply.results.map (resultMessage crates) ++ spoken exchange.reply.texts], ?_, ?_⟩
  · have before : (normalized.messages.map (fittedMessage crates)).mapM (convertMessage crates) =
        .ok segments := segmentsEq
    unfold fittedRequest
    dsimp only
    rw [List.map_append, List.mapM_append, before, convert_exchanges proper]
    rfl
  · have joined : (exchanges.flatMap fun exchange => [[ownAnswer crates exchange.provided],
        exchange.reply.results.map (resultMessage crates) ++ spoken exchange.reply.texts]).flatten =
          exchanges.flatMap (sentBack crates) := by
      rw [List.flatten_eq_flatMap, List.flatMap_assoc]
      congr 1
      funext exchange
      simp [sentBack]
    rw [List.flatten_append, joined]
    rfl

end Conversation

/-! ### Samples -/

/-- The one JSON text of the samples is an empty object. -/
def emptyObjectCrates : Crates where
  fromStr text := if text = "\x7b\x7d" then .ok (.object []) else .error "not called"
  toJson _ := "\x7b\x7d"
  base64Decode _ := none
  urlParse _ := .error "not called"

def helloRequest : AnthropicRequest where
  model := "m"
  maxTokens := 1
  messages := [{ role := "user", content := .string "hello" }]

def helloNormalized : NormalizedRequest where
  originalModel := "m"
  maxTokens := 1
  messages := [{ role := .user, blocks := [.text "hello"] }]
  temperature := none
  topP := none
  stopSequences := []
  tools := []
  toolChoice := none
  stream := false

/-- The provider calls a tool, and the client reports what it gave. -/
def clockExchange : AnsweredRound where
  provided :=
    { id := "r"
      choices := [{
        message := { toolCalls := [{ id := "a", function := ⟨"clock", "\x7b\x7d"⟩ }] }
        finishReason := some "tool_calls" }] }
  response :=
    { id := "r"
      kind := "message"
      role := "assistant"
      model := "m"
      content := [.toolUse "a" "clock" (.object [])]
      stopReason := some "tool_use"
      stopSequence := none
      usage := ⟨0, 0⟩ }
  reply := { results := [{ toolUseId := "a", content := .string "noon", isError := false }], texts := [] }

/-- The exchange of the sample is a proper one. -/
theorem clockExchange_proper :
    ∀ exchange ∈ [clockExchange], exchange.Proper emptyObjectCrates helloRequest.model := by
  rw [List.forall_mem_singleton]
  exact ⟨rfl, .refl _, by simp [ToolReply.content, clockExchange]⟩

/-- A greeting is answered by a call for the time, which the client answers. -/
theorem dialogue_accepted_clock :
    (∃ continued, normalize emptyObjectCrates
        (dialogue helloRequest ([clockExchange].map AnsweredRound.round)) false = .ok continued) ↔
      GoesOn emptyObjectCrates helloRequest [clockExchange] :=
  @dialogue_accepted_iff emptyObjectCrates helloRequest false helloNormalized [clockExchange] rfl
    clockExchange_proper

/-- What is sent of it in the end. -/
theorem dialogue_sent_clock :
    ∃ adaptedNext, adaptRequest emptyObjectCrates {}
        { helloNormalized with messages :=
            helloNormalized.messages ++ [clockExchange].flatMap AnsweredRound.turns } =
          .ok adaptedNext ∧
      convertMessages emptyObjectCrates adaptedNext =
        .ok ([.obj [("role", .string "user"), ("content", .string "hello")]] ++
          [clockExchange].flatMap (sentBack emptyObjectCrates)) :=
  @dialogue_sent emptyObjectCrates {} helloRequest false helloNormalized _ helloNormalized
    [clockExchange] [.obj [("role", .string "user"), ("content", .string "hello")]] rfl rfl rfl
    clockExchange_proper (by simp [clockExchange, Value.isString]) rfl

end ClaudeProxy
