/-
Module: ClaudeProxy.Proofs.SemanticLoss
Layer: Proofs
Purpose: What the strict mode keeps of a request. A request is read as a list of turns, each a role
  and a list of blocks; two requests with the same normal form have the same turns, fields and tool
  choice, up to the ways in which the format lets one thing be written twice.
Trusted boundary: none
Main exports: SameField, SameObject, requestTurns, SameRequest, ReadsBlock, normalize_faithful
-/
import ClaudeProxy.Proofs.Validation

namespace ClaudeProxy

open Library

/-! ### Requests that say the same -/

/-- The flag that an optional field denotes: absent and `null` are `false`. A value of another type
denotes no flag. -/
def flagReading : Option Value → Option Bool
  | none => some false
  | some .null => some false
  | some (.bool flag) => some flag
  | some _ => none

/-- Two flags agree wherever both fields denote one. -/
def SameFlag (first second : Option Value) : Prop :=
  ∀ flag flag', flagReading first = some flag → flagReading second = some flag' → flag = flag'

/-- Two values of one field say the same. Cache hints do not count; an absent `citations` is `null`,
an absent `content` of a tool result is the empty string, an absent flag is `false`; the members of
an image source are compared one by one. -/
def SameField (key : String) (first second : Option Value) : Prop :=
  if key = "cache_control" then True
  else if key = "citations" then first.getD .null = second.getD .null
  else if key = "content" then first.getD (.string "") = second.getD (.string "")
  else if key = "is_error" ∨ key = "disable_parallel_tool_use" then SameFlag first second
  else if key = "source" then
    ∀ member, first.bind (Value.get member) = second.bind (Value.get member)
  else first = second

/-- Two objects say the same, field by field. -/
def SameObject (first second : Value) : Prop :=
  ∀ key, SameField key (first.get key) (second.get key)

/-- The blocks of a content: a string is one text block. -/
def contentBlocks : Value → List Value
  | .string text => [.object [("text", .string text), ("type", .string "text")]]
  | .array blocks => blocks
  | _ => []

/-- A turn of the conversation: who speaks, and what. -/
abbrev Turn := String × Value

def SameTurn (first second : Turn) : Prop :=
  first.1 = second.1 ∧ List.Forall₂ SameObject (contentBlocks first.2) (contentBlocks second.2)

/-- The system prompt is a first turn with the role `system`; an empty array is no prompt. -/
def systemTurn : Option Value → List Turn
  | none => []
  | some (.array []) => []
  | some prompt => [("system", prompt)]

/-- The turns of a request. -/
def requestTurns (request : AnthropicRequest) : List Turn :=
  systemTurn request.system ++ request.messages.map fun message => (message.role, message.content)

def SameChoice : Option Value → Option Value → Prop
  | none, none => True
  | some first, some second => SameObject first second
  | _, _ => False

/-- Two requests that ask for the same. Metadata is not compared, nor are the fields outside the
format, of which the strict mode lets only cache hints pass, nor is `thinking`, which `normalize`
does not look at. -/
structure SameRequest (first second : AnthropicRequest) : Prop where
  model : first.model = second.model
  maxTokens : first.maxTokens = second.maxTokens
  stream : first.stream = second.stream
  temperature : first.temperature = second.temperature
  topP : first.topP = second.topP
  topK : first.topK = second.topK
  stopSequences : first.stopSequences.getD [] = second.stopSequences.getD []
  tools : first.tools = second.tools
  toolChoice : SameChoice first.toolChoice second.toolChoice
  turns : List.Forall₂ SameTurn (requestTurns first) (requestTurns second)

/-! ### Objects with known keys -/

/-- A field says the same as itself. -/
theorem SameField.refl (key : String) (value : Option Value) : SameField key value value := by
  unfold SameField
  split
  · trivial
  · split
    · rfl
    · split
      · rfl
      · split
        · intro flag flag' first second
          rw [first] at second
          exact Option.some.inj second
        · split
          · intro member
            rfl
          · rfl

/-- A key that is not on the allow-list of an object is absent. -/
theorem get_of_hasOnly {allowed : List String} {value : Value} (only : HasOnly allowed value)
    {key : String} (unknown : key ∉ allowed) : value.get key = none := by
  cases value with
  | object entries =>
      have absent : key ∉ entries.map Prod.fst := fun member => unknown (only key member)
      rw [Value.get_object, List.lookup_eq_none_iff]
      intro entry member
      have differs : key ≠ entry.1 := by
        rintro rfl
        exact absent (List.mem_map_of_mem member)
      simpa using differs
  | null => rfl
  | bool => rfl
  | number => rfl
  | string => rfl
  | array => rfl

/-- Objects with the same known keys are compared on those. -/
theorem sameObject_of_known {allowed : List String} {first second : Value}
    (onlyFirst : HasOnly allowed first) (onlySecond : HasOnly allowed second)
    (known : ∀ key ∈ allowed, SameField key (first.get key) (second.get key)) :
    SameObject first second := by
  intro key
  by_cases member : key ∈ allowed
  · exact known key member
  · rw [get_of_hasOnly onlyFirst member, get_of_hasOnly onlySecond member]
    exact SameField.refl key none

/-- A field that is compared as it is. -/
theorem sameField_of_eq {key : String} {first second : Option Value} (same : first = second) :
    SameField key first second := by
  subst same
  exact SameField.refl key first

/-- A string that is read at a key stands there. -/
theorem get_of_strAt {value : Value} {key text : String} (found : value.strAt key = some text) :
    value.get key = some (.string text) := by
  obtain ⟨held, heldEq, isText⟩ := Option.bind_eq_some_iff.mp found
  rw [heldEq, Value.asStr_eq_some.mp isText]

/-- A text that is read as itself is the same in both. -/
theorem sameField_of_strAt {key text : String} {first second : Value}
    (firstEq : first.strAt key = some text) (secondEq : second.strAt key = some text) :
    SameField key (first.get key) (second.get key) := by
  apply sameField_of_eq
  rw [get_of_strAt firstEq, get_of_strAt secondEq]

/-- What is said about caching makes no difference. -/
theorem sameField_cacheControl (first second : Option Value) :
    SameField "cache_control" first second := by
  unfold SameField
  rw [if_pos rfl]
  trivial

/-- A flag is read from what it denotes. -/
theorem flagAt_of_reading {value : Value} {key : String} {flag : Bool}
    (reading : flagReading (value.get key) = some flag) : flagAt value key = flag := by
  unfold flagAt
  cases held : value.get key with
  | none =>
      rw [held] at reading
      cases reading
      rfl
  | some inner =>
      rw [held] at reading
      cases inner <;> cases reading <;> rfl

/-- A flag that is no boolean says nothing, whatever it is read as. -/
theorem sameFlag_of_flagAt {first second : Value} {key : String}
    (same : flagAt first key = flagAt second key) : SameFlag (first.get key) (second.get key) := by
  intro flag flag' reading reading'
  rw [← flagAt_of_reading reading, ← flagAt_of_reading reading', same]

/-! ### What a block says -/

/-- A JSON block says what an input block holds, and has no keys beyond that. -/
inductive ReadsBlock : Value → InputBlock → Prop
  | text {block : Value} {text : String}
      (only : HasOnly ["type", "text", "cache_control", "citations"] block)
      (kind : block.strAt "type" = some "text")
      (citations : (block.get "citations").getD .null = .null)
      (held : block.strAt "text" = some text) :
      ReadsBlock block (.text text)
  | base64 {block source : Value} {mediaType data : String}
      (only : HasOnly ["type", "source", "cache_control"] block)
      (kind : block.strAt "type" = some "image")
      (held : block.get "source" = some source)
      (sourceOnly : HasOnly ["type", "media_type", "data"] source)
      (sourceKind : source.strAt "type" = some "base64")
      (mediaTypeHeld : source.strAt "media_type" = some mediaType)
      (dataHeld : source.strAt "data" = some data) :
      ReadsBlock block (.image mediaType (.base64 data))
  | url {block source : Value} {mediaType url : String}
      (only : HasOnly ["type", "source", "cache_control"] block)
      (kind : block.strAt "type" = some "image")
      (held : block.get "source" = some source)
      (sourceOnly : HasOnly ["type", "url"] source)
      (sourceKind : source.strAt "type" = some "url")
      (urlHeld : source.strAt "url" = some url) :
      ReadsBlock block (.image mediaType (.url url))
  | toolUse {block : Value} {id name : String} {input : Value}
      (only : HasOnly ["type", "id", "name", "input", "cache_control"] block)
      (kind : block.strAt "type" = some "tool_use")
      (idHeld : block.strAt "id" = some id)
      (nameHeld : block.strAt "name" = some name)
      (inputHeld : block.get "input" = some input) :
      ReadsBlock block (.toolUse id name input)
  | toolResult {block : Value} {toolUseId : String} {content : Value} {isError : Bool}
      (only : HasOnly ["type", "tool_use_id", "content", "is_error", "cache_control"] block)
      (kind : block.strAt "type" = some "tool_result")
      (idHeld : block.strAt "tool_use_id" = some toolUseId)
      (contentHeld : (block.get "content").getD (.string "") = content)
      (errorHeld : flagAt block "is_error" = isError) :
      ReadsBlock block (.toolResult toolUseId content isError)

/-- No citations and missing ones are the same. -/
theorem sameField_citations {first second : Option Value}
    (same : first.getD .null = second.getD .null) : SameField "citations" first second := by
  unfold SameField
  rw [if_neg (by decide), if_pos rfl]
  exact same

/-- No content and the empty one are the same. -/
theorem sameField_content {first second : Option Value}
    (same : first.getD (.string "") = second.getD (.string "")) :
    SameField "content" first second := by
  unfold SameField
  rw [if_neg (by decide), if_neg (by decide), if_pos rfl]
  exact same

theorem sameField_flag {key : String} (isFlag : key = "is_error" ∨ key = "disable_parallel_tool_use")
    {first second : Option Value} (same : SameFlag first second) : SameField key first second := by
  unfold SameField
  rcases isFlag with rfl | rfl
  · rw [if_neg (by decide), if_neg (by decide), if_neg (by decide), if_pos (by decide)]
    exact same
  · rw [if_neg (by decide), if_neg (by decide), if_neg (by decide), if_pos (by decide)]
    exact same

/-- The source of an image is told by its members. -/
theorem sameField_source {first second : Option Value}
    (same : ∀ member, first.bind (Value.get member) = second.bind (Value.get member)) :
    SameField "source" first second := by
  unfold SameField
  rw [if_neg (by decide), if_neg (by decide), if_neg (by decide), if_neg (by decide), if_pos rfl]
  exact same

/-- Image sources with the same known strings have the same members. -/
theorem sameSource {allowed : List String} {first second : Value}
    (onlyFirst : HasOnly allowed first) (onlySecond : HasOnly allowed second)
    (known : ∀ key ∈ allowed, ∃ text,
      first.strAt key = some text ∧ second.strAt key = some text) (member : String) :
    first.get member = second.get member := by
  by_cases listed : member ∈ allowed
  · obtain ⟨text, firstEq, secondEq⟩ := known member listed
    rw [get_of_strAt firstEq, get_of_strAt secondEq]
  · rw [get_of_hasOnly onlyFirst listed, get_of_hasOnly onlySecond listed]

/-- Two JSON blocks that are read as one input block say the same. -/
theorem ReadsBlock.sameObject {first second : Value} {block : InputBlock}
    (readsFirst : ReadsBlock first block) (readsSecond : ReadsBlock second block) :
    SameObject first second := by
  cases readsFirst with
  | text only kind citations held =>
      cases readsSecond with
      | text only' kind' citations' held' =>
          apply sameObject_of_known only only'
          simp only [List.forall_mem_cons]
          exact ⟨sameField_of_strAt kind kind', sameField_of_strAt held held',
            sameField_cacheControl _ _, sameField_citations (citations.trans citations'.symm), by simp⟩
  | base64 only kind held sourceOnly sourceKind mediaTypeHeld dataHeld =>
      cases readsSecond with
      | base64 only' kind' held' sourceOnly' sourceKind' mediaTypeHeld' dataHeld' =>
          have sources : SameField "source" (first.get "source") (second.get "source") := by
            apply sameField_source
            rw [held, held']
            apply sameSource sourceOnly sourceOnly'
            simp only [List.forall_mem_cons]
            exact ⟨⟨_, sourceKind, sourceKind'⟩, ⟨_, mediaTypeHeld, mediaTypeHeld'⟩,
              ⟨_, dataHeld, dataHeld'⟩, by simp⟩
          apply sameObject_of_known only only'
          simp only [List.forall_mem_cons]
          exact ⟨sameField_of_strAt kind kind', sources, sameField_cacheControl _ _, by simp⟩
  | url only kind held sourceOnly sourceKind urlHeld =>
      cases readsSecond with
      | url only' kind' held' sourceOnly' sourceKind' urlHeld' =>
          have sources : SameField "source" (first.get "source") (second.get "source") := by
            apply sameField_source
            rw [held, held']
            apply sameSource sourceOnly sourceOnly'
            simp only [List.forall_mem_cons]
            exact ⟨⟨_, sourceKind, sourceKind'⟩, ⟨_, urlHeld, urlHeld'⟩, by simp⟩
          apply sameObject_of_known only only'
          simp only [List.forall_mem_cons]
          exact ⟨sameField_of_strAt kind kind', sources, sameField_cacheControl _ _, by simp⟩
  | toolUse only kind idHeld nameHeld inputHeld =>
      cases readsSecond with
      | toolUse only' kind' idHeld' nameHeld' inputHeld' =>
          apply sameObject_of_known only only'
          simp only [List.forall_mem_cons]
          exact ⟨sameField_of_strAt kind kind', sameField_of_strAt idHeld idHeld',
            sameField_of_strAt nameHeld nameHeld', sameField_of_eq (inputHeld.trans inputHeld'.symm),
            sameField_cacheControl _ _, by simp⟩
  | toolResult only kind idHeld contentHeld errorHeld =>
      cases readsSecond with
      | toolResult only' kind' idHeld' contentHeld' errorHeld' =>
          have flags := sameFlag_of_flagAt (errorHeld.trans errorHeld'.symm)
          apply sameObject_of_known only only'
          simp only [List.forall_mem_cons]
          exact ⟨sameField_of_strAt kind kind', sameField_of_strAt idHeld idHeld',
            sameField_content (contentHeld.trans contentHeld'.symm),
            sameField_flag (.inl rfl) flags, sameField_cacheControl _ _, by simp⟩

/-! ### What the strict mode reads -/

section Reading

variable {crates : Crates}

/-- A string is the block that it stands for. -/
theorem readsBlock_textLiteral (text : String) :
    ReadsBlock (.object [("text", .string text), ("type", .string "text")]) (.text text) := by
  apply ReadsBlock.text
  · intro key member
    simp only [Value.keys, Value.asObject, Option.getD_some, List.map_cons, List.map_nil,
      List.mem_cons, List.not_mem_nil, or_false] at member
    rcases member with rfl | rfl <;> decide
  · rfl
  · rfl
  · rfl

theorem eq_null_of_isNull {value : Value} (isNull : value.isNull = true) : value = .null := by
  cases value with
  | null => rfl
  | bool => cases isNull
  | number => cases isNull
  | string => cases isNull
  | array => cases isNull
  | object => cases isNull

/-- In strict mode a text block is read with all that it says. -/
theorem parseText_reads {block : Value} {path : String} {parsed : InputBlock}
    (kind : block.strAt "type" = some "text") (accepted : parseText block path true = .ok parsed) :
    ReadsBlock block parsed := by
  obtain ⟨text, only, citations, held, rfl⟩ := parseText_accepted accepted
  exact .text (ensureOnly_strict.mp only).2 kind (eq_null_of_isNull citations) held

/-- So is an image. -/
theorem parseImage_reads {block : Value} {path : String} {parsed : InputBlock}
    (kind : block.strAt "type" = some "image")
    (accepted : parseImage crates block path true = .ok parsed) : ReadsBlock block parsed := by
  obtain ⟨source, only, held, bySource⟩ := parseImage_cases accepted
  have onlyBlock := (ensureOnly_strict.mp only).2
  rcases bySource with ⟨atType, base64⟩ | ⟨atType, url⟩
  · obtain ⟨mediaType, data, onlySource, mediaTypeEq, dataEq, rfl⟩ :=
      parseBase64Source_accepted base64
    exact .base64 onlyBlock kind held (onlyKeys_eq_ok.mp onlySource) atType mediaTypeEq dataEq
  · obtain ⟨address, onlySource, urlEq, rfl⟩ := parseUrlSource_accepted url
    exact .url onlyBlock kind held (onlyKeys_eq_ok.mp onlySource) atType urlEq

/-- So is a call. -/
theorem parseToolUse_reads {block : Value} {path : String} {parsed : InputBlock}
    (kind : block.strAt "type" = some "tool_use")
    (accepted : parseToolUse block path true = .ok parsed) : ReadsBlock block parsed := by
  obtain ⟨id, name, input, only, idEq, nameEq, inputEq, rfl⟩ := parseToolUse_accepted accepted
  exact .toolUse (ensureOnly_strict.mp only).2 kind idEq nameEq inputEq

/-- So is an answer to one, but for a flag of an error that is no boolean. -/
theorem parseToolResult_reads {block : Value} {path : String} {parsed : InputBlock}
    (kind : block.strAt "type" = some "tool_result")
    (accepted : parseToolResult block path true = .ok parsed) : ReadsBlock block parsed := by
  obtain ⟨id, only, idEq, rfl⟩ := parseToolResult_accepted accepted
  exact .toolResult (ensureOnly_strict.mp only).2 kind idEq rfl rfl

/-- A content block that the strict mode accepts says what it is read as, and no more. -/
theorem parseBlock_reads {block : Value} {path : String} {parsed : InputBlock}
    (accepted : parseBlock crates block path true = .ok parsed) : ReadsBlock block parsed := by
  rcases parseBlock_cases accepted with ⟨kind, text⟩ | ⟨kind, image⟩ | ⟨kind, use⟩ | ⟨kind, result⟩
  · exact parseText_reads kind text
  · exact parseImage_reads kind image
  · exact parseToolUse_reads kind use
  · exact parseToolResult_reads kind result

/-- A block of the system prompt is read as its text. -/
theorem parseSystemBlock_reads {block : Value} {index : Nat} {parsed : InputBlock}
    (accepted : parseSystemBlock block index true = .ok parsed) : ReadsBlock block parsed := by
  unfold parseSystemBlock at accepted
  simp only [Except.bind_eq_ok] at accepted
  obtain ⟨_, isText, text, textEq, _, only, same⟩ := accepted
  cases same
  have known := (ensureOnly_strict.mp only).2
  have kind : block.strAt "type" = some "text" := not_not.mp (rejectIf_eq_ok.mp isText)
  apply ReadsBlock.text _ kind _ (orReject_eq_ok.mp textEq)
  · intro key member
    have listed := known key member
    simp only [List.mem_cons, List.not_mem_nil, or_false] at listed ⊢
    tauto
  · rw [get_of_hasOnly known (by decide)]
    rfl

/-- The content of a message is read block by block. -/
theorem parseContent_reads {content : Value} {index : Nat} {blocks : List InputBlock}
    (accepted : parseContent crates content index true = .ok blocks) :
    List.Forall₂ ReadsBlock (contentBlocks content) blocks := by
  rcases parseContent_cases accepted with ⟨text, rfl, rfl⟩ | ⟨items, rfl, parsed⟩
  · exact .cons (readsBlock_textLiteral text) .nil
  · apply Except.forall₂_of_zipIdx
    exact (Except.mapM_eq_ok.mp parsed).imp fun _ _ read => parseBlock_reads read

/-- So is a system prompt. -/
theorem parseSystem_reads {prompt : Value} {blocks : List InputBlock}
    (accepted : parseSystem prompt true = .ok blocks) :
    List.Forall₂ ReadsBlock (contentBlocks prompt) blocks := by
  cases prompt with
  | string text =>
      cases accepted
      exact .cons (readsBlock_textLiteral text) .nil
  | array items =>
      apply Except.forall₂_of_zipIdx
      exact (Except.mapM_eq_ok.mp accepted).imp fun _ _ read => parseSystemBlock_reads read
  | null => cases accepted
  | bool => cases accepted
  | number => cases accepted
  | object => cases accepted

/-- The word for a role. -/
def roleWord : MessageRole → String
  | .system => "system"
  | .user => "user"
  | .assistant => "assistant"

/-- A turn says what a message holds. -/
def ReadsTurn (turn : Turn) (message : NormalizedMessage) : Prop :=
  turn.1 = roleWord message.role ∧ List.Forall₂ ReadsBlock (contentBlocks turn.2) message.blocks

/-- A role is read as the word for it. -/
theorem parseRole_reads {word : String} {index : Nat} {role : MessageRole}
    (accepted : parseRole word index = .ok role) : word = roleWord role := by
  unfold parseRole at accepted
  by_cases isUser : word = "user"
  · rw [if_pos isUser] at accepted
    cases accepted
    exact isUser
  · rw [if_neg isUser] at accepted
    by_cases isAssistant : word = "assistant"
    · rw [if_pos isAssistant] at accepted
      cases accepted
      exact isAssistant
    · rw [if_neg isAssistant] at accepted
      by_cases isSystem : word = "system"
      · rw [if_pos isSystem] at accepted
        cases accepted
        exact isSystem
      · rw [if_neg isSystem] at accepted
        cases accepted

/-- A message is read as one turn, with all that it says. -/
theorem normalizeMessage_reads {message : InputMessage} {index : Nat}
    {normalized : NormalizedMessage}
    (accepted : normalizeMessage crates message index true = .ok normalized) :
    ReadsTurn (message.role, message.content) normalized := by
  unfold normalizeMessage at accepted
  simp only [Except.bind_eq_ok] at accepted
  obtain ⟨role, roleEq, blocks, blocksEq, same⟩ := accepted
  cases same
  exact ⟨parseRole_reads roleEq, parseContent_reads blocksEq⟩

/-- Only the empty array is a prompt without blocks. -/
theorem systemTurn_of_parsed {prompt : Value} {blocks : List InputBlock}
    (accepted : parseSystem prompt true = .ok blocks) :
    systemTurn (some prompt) = if blocks = [] then [] else [("system", prompt)] := by
  have reads := parseSystem_reads accepted
  cases prompt with
  | string text =>
      cases accepted
      rfl
  | array items =>
      cases reads with
      | nil => rfl
      | cons head tail => rfl
  | null => cases accepted
  | bool => cases accepted
  | number => cases accepted
  | object => cases accepted

/-- A system prompt is read as a turn before the others, or as none. -/
theorem normalizeSystem_reads {system : Option Value} {messages : List NormalizedMessage}
    (accepted : normalizeSystem system true = .ok messages) :
    List.Forall₂ ReadsTurn (systemTurn system) messages := by
  cases system with
  | none =>
      cases accepted
      exact .nil
  | some prompt =>
      obtain ⟨blocks, blocksEq, same⟩ := Except.bind_eq_ok.mp accepted
      cases same
      rw [systemTurn_of_parsed blocksEq]
      by_cases empty : blocks = []
      · rw [if_pos empty, if_pos empty]
        exact .nil
      · rw [if_neg empty, if_neg empty]
        exact .cons ⟨rfl, parseSystem_reads blocksEq⟩ .nil

/-- A JSON tool choice says what a tool choice holds, and has no keys beyond that. -/
inductive ReadsChoice : Value → ToolChoice → Prop
  | auto {value : Value} {disableParallel : Bool}
      (only : HasOnly ["type", "disable_parallel_tool_use"] value)
      (kind : value.strAt "type" = some "auto")
      (flag : flagAt value "disable_parallel_tool_use" = disableParallel) :
      ReadsChoice value (.auto disableParallel)
  | any {value : Value} {disableParallel : Bool}
      (only : HasOnly ["type", "disable_parallel_tool_use"] value)
      (kind : value.strAt "type" = some "any")
      (flag : flagAt value "disable_parallel_tool_use" = disableParallel) :
      ReadsChoice value (.any disableParallel)
  | none {value : Value}
      (only : HasOnly ["type"] value)
      (kind : value.strAt "type" = some "none") :
      ReadsChoice value .none
  | tool {value : Value} {name : String} {disableParallel : Bool}
      (only : HasOnly ["type", "name", "disable_parallel_tool_use"] value)
      (kind : value.strAt "type" = some "tool")
      (nameHeld : value.strAt "name" = some name)
      (flag : flagAt value "disable_parallel_tool_use" = disableParallel) :
      ReadsChoice value (.tool name disableParallel)

/-- Each of the four choices of tools is read with what it says. -/
theorem parseChoiceOf_reads {value : Value} {kind : String} {choice : ToolChoice}
    (atType : value.strAt "type" = some kind)
    (accepted : parseChoiceOf kind value (flagAt value "disable_parallel_tool_use") true =
      .ok choice) : ReadsChoice value choice := by
  unfold parseChoiceOf at accepted
  by_cases isAuto : kind = "auto"
  · subst isAuto
    obtain ⟨_, only, same⟩ := Except.bind_eq_ok.mp accepted
    cases same
    exact .auto (ensureOnly_strict.mp only).2 atType rfl
  · rw [if_neg isAuto] at accepted
    by_cases isAny : kind = "any"
    · subst isAny
      obtain ⟨_, only, same⟩ := Except.bind_eq_ok.mp accepted
      cases same
      exact .any (ensureOnly_strict.mp only).2 atType rfl
    · rw [if_neg isAny] at accepted
      by_cases isNone : kind = "none"
      · subst isNone
        obtain ⟨_, only, same⟩ := Except.bind_eq_ok.mp accepted
        cases same
        exact .none (ensureOnly_strict.mp only).2 atType
      · rw [if_neg isNone] at accepted
        by_cases isTool : kind = "tool"
        · subst isTool
          rw [if_pos rfl] at accepted
          simp only [Except.bind_eq_ok] at accepted
          obtain ⟨_, only, name, nameEq, same⟩ := accepted
          cases same
          exact .tool (ensureOnly_strict.mp only).2 atType (orReject_eq_ok.mp nameEq) rfl
        · rw [if_neg isTool] at accepted
          cases accepted

/-- Two JSON tool choices that are read as one say the same. -/
theorem ReadsChoice.sameObject {first second : Value} {choice : ToolChoice}
    (readsFirst : ReadsChoice first choice) (readsSecond : ReadsChoice second choice) :
    SameObject first second := by
  cases readsFirst with
  | auto only kind flag =>
      cases readsSecond with
      | auto only' kind' flag' =>
          apply sameObject_of_known only only'
          simp only [List.forall_mem_cons]
          exact ⟨sameField_of_strAt kind kind',
            sameField_flag (.inr rfl) (sameFlag_of_flagAt (flag.trans flag'.symm)), by simp⟩
  | any only kind flag =>
      cases readsSecond with
      | any only' kind' flag' =>
          apply sameObject_of_known only only'
          simp only [List.forall_mem_cons]
          exact ⟨sameField_of_strAt kind kind',
            sameField_flag (.inr rfl) (sameFlag_of_flagAt (flag.trans flag'.symm)), by simp⟩
  | none only kind =>
      cases readsSecond with
      | none only' kind' =>
          apply sameObject_of_known only only'
          simp only [List.forall_mem_cons]
          exact ⟨sameField_of_strAt kind kind', by simp⟩
  | tool only kind nameHeld flag =>
      cases readsSecond with
      | tool only' kind' nameHeld' flag' =>
          apply sameObject_of_known only only'
          simp only [List.forall_mem_cons]
          exact ⟨sameField_of_strAt kind kind', sameField_of_strAt nameHeld nameHeld',
            sameField_flag (.inr rfl) (sameFlag_of_flagAt (flag.trans flag'.symm)), by simp⟩

/-- A choice of tools that is accepted is one of the four. -/
theorem parseToolChoice_reads {value : Value} {choice : Option ToolChoice}
    (accepted : parseToolChoice (some value) true = .ok choice) :
    ∃ parsed, choice = some parsed ∧ ReadsChoice value parsed := by
  unfold parseToolChoice at accepted
  dsimp only at accepted
  simp only [Except.bind_eq_ok] at accepted
  obtain ⟨kind, kindEq, parsed, parsedEq, same⟩ := accepted
  cases same
  exact ⟨parsed, rfl, parseChoiceOf_reads (orReject_eq_ok.mp kindEq) parsedEq⟩

/-- Two choices that are read alike say the same. -/
theorem parseToolChoice_same {first second : Option Value} {choice : Option ToolChoice}
    (acceptedFirst : parseToolChoice first true = .ok choice)
    (acceptedSecond : parseToolChoice second true = .ok choice) : SameChoice first second := by
  cases first with
  | none =>
      cases acceptedFirst
      cases second with
      | none => trivial
      | some value =>
          obtain ⟨parsed, impossible, -⟩ := parseToolChoice_reads acceptedSecond
          cases impossible
  | some value =>
      obtain ⟨parsed, rfl, reads⟩ := parseToolChoice_reads acceptedFirst
      cases second with
      | none => cases acceptedSecond
      | some value' =>
          obtain ⟨parsed', same, reads'⟩ := parseToolChoice_reads acceptedSecond
          cases same
          exact reads.sameObject reads'

/-- An accepted request has no `top_k`. -/
theorem topK_of_checkFields {request : AnthropicRequest} {strict : Bool}
    (accepted : checkFields request strict = .ok ()) : request.topK = none := by
  unfold checkFields at accepted
  simp only [Except.bind_eq_ok, rejectIf_eq_ok] at accepted
  obtain ⟨_, _, _, _, _, _, _, _, _, _, _, _, _, _, _, absent, _⟩ := accepted
  simpa using absent

/-- Two turns that are read alike say the same. -/
theorem ReadsTurn.sameTurn {first second : Turn} {message : NormalizedMessage}
    (readsFirst : ReadsTurn first message) (readsSecond : ReadsTurn second message) :
    SameTurn first second := by
  constructor
  · exact readsFirst.1.trans readsSecond.1.symm
  · apply Except.forall₂_of_common _ readsFirst.2 readsSecond.2
    intro block block' parsed reads reads'
    exact reads.sameObject reads'

/-- The turns of an accepted request are its messages. -/
theorem requestTurns_reads {request : AnthropicRequest} {system turns : List NormalizedMessage}
    (systemEq : normalizeSystem request.system true = .ok system)
    (turnsEq : (request.messages.zipIdx.mapM fun entry =>
      normalizeMessage crates entry.1 entry.2 true) = .ok turns) :
    List.Forall₂ ReadsTurn (requestTurns request) (system ++ turns) := by
  apply List.rel_append (normalizeSystem_reads systemEq)
  rw [List.forall₂_map_left_iff]
  apply Except.forall₂_of_zipIdx
  exact (Except.mapM_eq_ok.mp turnsEq).imp fun _ _ read => normalizeMessage_reads read

/-- Two requests that the strict mode accepts with the same result ask for the same: nothing that
the normal form does not carry tells them apart. -/
theorem normalize_faithful {first second : AnthropicRequest} {normalized : NormalizedRequest}
    (acceptedFirst : normalize crates first false = .ok normalized)
    (acceptedSecond : normalize crates second false = .ok normalized) :
    SameRequest first second := by
  obtain ⟨fields, system, turns, history, names, choice, systemEq, turnsEq, -, -, choiceEq, -, rfl⟩ :=
    normalize_eq_ok.mp acceptedFirst
  obtain ⟨fields', system', turns', history', names', choice', systemEq', turnsEq', -, -, choiceEq',
    -, same⟩ := normalize_eq_ok.mp acceptedSecond
  injection same with model maxTokens messages temperature topP stopSequences tools toolChoice stream
  subst toolChoice
  have turnsFirst := requestTurns_reads systemEq turnsEq
  have turnsSecond := requestTurns_reads systemEq' turnsEq'
  rw [← messages] at turnsSecond
  have sameTurns : List.Forall₂ SameTurn (requestTurns first) (requestTurns second) := by
    apply Except.forall₂_of_common _ turnsFirst turnsSecond
    intro turn turn' message reads reads'
    exact reads.sameTurn reads'
  exact
    { model := model
      maxTokens := maxTokens
      stream := stream
      temperature := temperature
      topP := topP
      topK := (topK_of_checkFields fields).trans (topK_of_checkFields fields').symm
      stopSequences := stopSequences
      tools := tools
      toolChoice := parseToolChoice_same choiceEq choiceEq'
      turns := sameTurns }

end Reading

/-! ### Samples -/

/-- No request of the samples has an image, so nothing here is called. -/
def greetingCrates : Crates where
  fromStr _ := .error "not called"
  toJson _ := ""
  base64Decode _ := none
  urlParse _ := .error "not called"

/-- A greeting, as a client may send it. -/
def greeting : AnthropicRequest :=
  { model := "m", maxTokens := 1, messages := [{ role := "user", content := .string "hi" }] }

/-- The greeting with its text in a block. -/
def greetingInBlock : AnthropicRequest :=
  { greeting with
    messages := [
      { role := "user"
        content := .array [Value.obj
          [("type", .string "text"), ("text", .string "hi"), ("citations", .null)]] }]
    stopSequences := some []
    system := some (.array []) }

/-- What both are read as. -/
def greetingNormalized : NormalizedRequest where
  originalModel := "m"
  maxTokens := 1
  messages := [{ role := .user, blocks := [.text "hi"] }]
  temperature := none
  topP := none
  stopSequences := []
  tools := []
  toolChoice := none
  stream := false

/-- A greeting as a text and the same greeting in a block are one request. -/
theorem normalize_faithful_greeting : SameRequest greeting greetingInBlock :=
  @normalize_faithful greetingCrates greeting greetingInBlock greetingNormalized rfl rfl

/-- The greeting with extended thinking. -/
def greetingThinking : AnthropicRequest :=
  { greeting with thinking := some (Value.obj [("type", .string "enabled")]) }

/-- The greeting after a system prompt. -/
def greetingPrompted : AnthropicRequest :=
  { greeting with system := some (.string "be kind") }

/-- The greeting after a message of the system. -/
def greetingSpoken : AnthropicRequest :=
  { greeting with messages := { role := "system", content := .string "be kind" } :: greeting.messages }

/-- The greeting with a tool choice and a value for its flag. -/
def greetingChoice (flag : Entries) : AnthropicRequest :=
  { greeting with toolChoice := some (Value.obj (("type", .string "auto") :: flag)) }

/-- Requests that agree field by field: besides, the prompt is told apart from the messages, and
`thinking` counts. -/
structure SameFieldByField (first second : AnthropicRequest) : Prop extends
    SameRequest first second where
  thinking : first.thinking = second.thinking
  system : List.Forall₂ SameTurn (systemTurn first.system) (systemTurn second.system)

/-- Extended thinking is dropped, a prompt becomes a message, and a flag that is no boolean counts
as `false`. -/
theorem normalize_not_fieldByField :
    (normalize greetingCrates greeting false = .ok greetingNormalized ∧
      normalize greetingCrates greetingThinking false = .ok greetingNormalized ∧
      ¬ SameFieldByField greeting greetingThinking) ∧
    (∃ normalized, normalize greetingCrates greetingPrompted false = .ok normalized ∧
      normalize greetingCrates greetingSpoken false = .ok normalized ∧
      ¬ SameFieldByField greetingPrompted greetingSpoken) ∧
    ∃ normalized, normalize greetingCrates (greetingChoice []) false = .ok normalized ∧
      normalize greetingCrates
        (greetingChoice [("disable_parallel_tool_use", .string "yes")]) false = .ok normalized := by
  constructor
  · refine ⟨rfl, rfl, ?_⟩
    intro same
    cases same.thinking
  · constructor
    · refine ⟨_, rfl, rfl, ?_⟩
      intro same
      cases same.system
    · exact ⟨_, rfl, rfl⟩

end ClaudeProxy
