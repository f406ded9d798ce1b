/-
Module: ClaudeProxy.Proofs.Validation
Layer: Proofs
Purpose: What the two modes of validation have in common. Strict and loose validation agree on
  everything but the keys of the objects they read: a request passes the strict mode exactly when it
  passes the loose one and uses known keys only, and then with the same result.
Trusted boundary: none
Main exports: normalize_eq_ok, HasOnly, AllowedKeys, parseBlock_strict, normalize_strict_iff
-/
import ClaudeProxy.Anthropic.Normalize
import ClaudeProxy.Library.Outcome

namespace ClaudeProxy

open Library

/-! ### An accepted request -/

/-- A request is accepted when each stage accepts it, and the result is what the stages made. -/
theorem normalize_eq_ok {crates : Crates} {request : AnthropicRequest} {loose : Bool}
    {normalized : NormalizedRequest} :
    normalize crates request loose = .ok normalized ↔
      checkFields request (!loose) = .ok () ∧
      ∃ system turns history names choice,
        normalizeSystem request.system (!loose) = .ok system ∧
        (request.messages.zipIdx.mapM fun entry =>
          normalizeMessage crates entry.1 entry.2 (!loose)) = .ok turns ∧
        validateToolHistory (system ++ turns) = .ok history ∧
        checkTools request.tools (!loose) = .ok names ∧
        parseToolChoice request.toolChoice (!loose) = .ok choice ∧
        checkToolChoice choice request.tools names = .ok () ∧
        normalized =
          { originalModel := request.model
            maxTokens := request.maxTokens
            messages := system ++ turns
            temperature := request.temperature
            topP := request.topP
            stopSequences := request.stopSequences.getD []
            tools := request.tools
            toolChoice := choice
            stream := request.stream } := by
  unfold normalize
  simp only [Except.bind_eq_ok]
  constructor
  · rintro ⟨_, fields, system, systemEq, turns, turnsEq, history, historyEq, names, namesEq, choice,
      choiceEq, _, fits, same⟩
    cases same
    exact ⟨fields, system, turns, history, names, choice, systemEq, turnsEq, historyEq, namesEq,
      choiceEq, fits, rfl⟩
  · rintro ⟨fields, system, turns, history, names, choice, systemEq, turnsEq, historyEq, namesEq,
      choiceEq, fits, rfl⟩
    exact ⟨(), fields, system, systemEq, turns, turnsEq, history, historyEq, names, namesEq, choice,
      choiceEq, (), fits, rfl⟩

/-! ### Keys -/

/-- All keys of an object are on an allow-list. -/
def HasOnly (allowed : List String) (value : Value) : Prop := ∀ key ∈ value.keys, key ∈ allowed

/-- A check for unknown fields passes exactly if there is none. -/
theorem onlyKeys_eq_ok {value : Value} {allowed : List String} {path : String} :
    onlyKeys value allowed path = .ok () ↔ HasOnly allowed value := by
  unfold onlyKeys HasOnly
  cases found : value.keys.find? fun key => ¬ key ∈ allowed with
  | none =>
      refine iff_of_true rfl ?_
      intro key member
      simpa using List.find?_eq_none.mp found key member
  | some key =>
      refine iff_of_false (by simp) ?_
      intro each
      have outside := List.find?_some found
      have inside := each key (List.mem_of_find?_eq_some found)
      simp [inside] at outside

/-- In strict mode it is made of an object. -/
theorem ensureOnly_strict {value : Value} {allowed : List String} {path : String} :
    ensureOnly value allowed path true = .ok () ↔ value.isObject = true ∧ HasOnly allowed value := by
  unfold ensureOnly
  rw [if_neg (by decide), Except.bind_eq_ok]
  constructor
  · rintro ⟨_, isObject, only⟩
    exact ⟨not_not.mp (rejectIf_eq_ok.mp isObject), onlyKeys_eq_ok.mp only⟩
  · rintro ⟨isObject, only⟩
    exact ⟨(), rejectIf_eq_ok.mpr (not_not.mpr isObject), onlyKeys_eq_ok.mpr only⟩

/-- Something follows a key check: the modes differ by the check. -/
theorem ensureOnly_bind {α : Type} {value : Value} (isObject : value.isObject = true)
    {allowed : List String} {path : String} {rest : Unit → Except ProxyError α} {result : α} :
    (ensureOnly value allowed path true >>= rest) = .ok result ↔
      (ensureOnly value allowed path false >>= rest) = .ok result ∧ HasOnly allowed value := by
  rw [Except.bind_eq_ok, Except.bind_eq_ok]
  constructor
  · rintro ⟨_, checked, restEq⟩
    exact ⟨⟨(), rfl, restEq⟩, (ensureOnly_strict.mp checked).2⟩
  · rintro ⟨⟨_, _, restEq⟩, only⟩
    exact ⟨(), ensureOnly_strict.mpr ⟨isObject, only⟩, restEq⟩

theorem isObject_of_strAt {value : Value} {key text : String} (found : value.strAt key = some text) :
    value.isObject = true := by
  cases value with
  | object entries => rfl
  | null => cases found
  | bool => cases found
  | number => cases found
  | string => cases found
  | array => cases found

/-- The keys a content block may have, by its type. -/
def blockKeys (kind : String) : List String :=
  if kind = "text" then ["type", "text", "cache_control", "citations"]
  else if kind = "image" then ["type", "source", "cache_control"]
  else if kind = "tool_use" then ["type", "id", "name", "input", "cache_control"]
  else ["type", "tool_use_id", "content", "is_error", "cache_control"]

/-- The keys a tool choice may have, by its type. -/
def choiceKeys (kind : String) : List String :=
  if kind = "auto" ∨ kind = "any" then ["type", "disable_parallel_tool_use"]
  else if kind = "none" then ["type"]
  else ["type", "name", "disable_parallel_tool_use"]

/-- A value has only the keys of the allow-list for its type. -/
def KeysByType (keys : String → List String) (value : Value) : Prop :=
  ∀ kind, value.strAt "type" = some kind → HasOnly (keys kind) value

/-- A request whose objects have known keys only. -/
structure AllowedKeys (request : AnthropicRequest) : Prop where
  fields : ∀ entry ∈ request.extensions, entry.1 = "cache_control"
  system : ∀ blocks, request.system = some (.array blocks) → ∀ block ∈ blocks,
    HasOnly ["type", "text", "cache_control"] block
  content : ∀ message ∈ request.messages, ∀ blocks, message.content = .array blocks →
    ∀ block ∈ blocks, KeysByType blockKeys block
  tools : ∀ tool ∈ request.tools, ∀ entry ∈ tool.extensions, entry.1 = "cache_control"
  choice : ∀ value, request.toolChoice = some value → KeysByType choiceKeys value

/-! ### The two modes, stage by stage -/

section Modes

variable {crates : Crates}

/-- A block of the system prompt is accepted strictly exactly if it is accepted loosely and has no
further fields. -/
theorem parseSystemBlock_strict {block : Value} {index : Nat} {parsed : InputBlock} :
    parseSystemBlock block index true = .ok parsed ↔
      parseSystemBlock block index false = .ok parsed ∧
        HasOnly ["type", "text", "cache_control"] block := by
  unfold parseSystemBlock
  simp only [Except.bind_eq_ok]
  constructor
  · rintro ⟨_, isText, text, textEq, _, only, same⟩
    exact ⟨⟨(), isText, text, textEq, (), rfl, same⟩, (ensureOnly_strict.mp only).2⟩
  · rintro ⟨⟨_, isText, text, textEq, _, _, same⟩, only⟩
    have isObject := isObject_of_strAt (orReject_eq_ok.mp textEq)
    exact ⟨(), isText, text, textEq, (), ensureOnly_strict.mpr ⟨isObject, only⟩, same⟩

/-- So is a system prompt, block by block. -/
theorem parseSystem_strict {value : Value} {blocks : List InputBlock} :
    parseSystem value true = .ok blocks ↔
      parseSystem value false = .ok blocks ∧ ∀ items, value = .array items → ∀ block ∈ items,
        HasOnly ["type", "text", "cache_control"] block := by
  cases value with
  | array items =>
      unfold parseSystem
      dsimp only
      rw [Except.mapM_eq_ok_and fun _ _ _ => parseSystemBlock_strict, Except.forall_mem_zipIdx]
      constructor
      · rintro ⟨parsed, only⟩
        refine ⟨parsed, ?_⟩
        rintro _ ⟨⟩
        exact only
      · rintro ⟨parsed, only⟩
        exact ⟨parsed, only items rfl⟩
  | string text => simp [parseSystem]
  | null => simp [parseSystem]
  | bool => simp [parseSystem]
  | number => simp [parseSystem]
  | object => simp [parseSystem]

/-- So is the one of a request. -/
theorem normalizeSystem_strict {system : Option Value} {messages : List NormalizedMessage} :
    normalizeSystem system true = .ok messages ↔
      normalizeSystem system false = .ok messages ∧ ∀ items, system = some (.array items) →
        ∀ block ∈ items, HasOnly ["type", "text", "cache_control"] block := by
  cases system with
  | none => simp [normalizeSystem]
  | some value =>
      unfold normalizeSystem
      simp only [Except.bind_eq_ok, parseSystem_strict, Option.some.injEq]
      constructor
      · rintro ⟨blocks, ⟨parsed, only⟩, same⟩
        exact ⟨⟨blocks, parsed, same⟩, only⟩
      · rintro ⟨⟨blocks, parsed, same⟩, only⟩
        exact ⟨blocks, ⟨parsed, only⟩, same⟩

/-- A block of a known type: the modes differ by the allow-list for the type. -/
theorem parseBlockOf_strict {kind : String} {block : Value} (isObject : block.isObject = true)
    {path : String} {parsed : InputBlock} :
    parseBlockOf crates kind block path true = .ok parsed ↔
      parseBlockOf crates kind block path false = .ok parsed ∧ HasOnly (blockKeys kind) block := by
  unfold parseBlockOf blockKeys
  by_cases isText : kind = "text"
  · simp only [if_pos isText]
    exact ensureOnly_bind isObject
  · simp only [if_neg isText]
    by_cases isImage : kind = "image"
    · simp only [if_pos isImage]
      exact ensureOnly_bind isObject
    · simp only [if_neg isImage]
      by_cases isToolUse : kind = "tool_use"
      · simp only [if_pos isToolUse]
        exact ensureOnly_bind isObject
      · simp only [if_neg isToolUse]
        by_cases isToolResult : kind = "tool_result"
        · simp only [if_pos isToolResult]
          exact ensureOnly_bind isObject
        · simp [if_neg isToolResult]

/-- The type of a value says which fields it may have. -/
theorem keysByType_of_type {keys : String → List String} {value : Value} {kind : String}
    (atType : value.strAt "type" = some kind) :
    KeysByType keys value ↔ HasOnly (keys kind) value := by
  constructor
  · intro byType
    exact byType kind atType
  · intro only other otherEq
    rw [atType] at otherEq
    cases otherEq
    exact only

/-- A block is accepted strictly exactly if it is accepted loosely and has the fields of its type. -/
theorem parseBlock_strict {block : Value} {path : String} {parsed : InputBlock} :
    parseBlock crates block path true = .ok parsed ↔
      parseBlock crates block path false = .ok parsed ∧ KeysByType blockKeys block := by
  unfold parseBlock
  rw [Except.bind_eq_ok, Except.bind_eq_ok]
  constructor
  · rintro ⟨kind, kindEq, parsedEq⟩
    have atType := orReject_eq_ok.mp kindEq
    obtain ⟨loose, only⟩ := (parseBlockOf_strict (isObject_of_strAt atType)).mp parsedEq
    exact ⟨⟨kind, kindEq, loose⟩, (keysByType_of_type atType).mpr only⟩
  · rintro ⟨⟨kind, kindEq, parsedEq⟩, only⟩
    have atType := orReject_eq_ok.mp kindEq
    exact ⟨kind, kindEq, (parseBlockOf_strict (isObject_of_strAt atType)).mpr
      ⟨parsedEq, (keysByType_of_type atType).mp only⟩⟩

/-- So is content, block by block. -/
theorem parseContent_strict {value : Value} {index : Nat} {blocks : List InputBlock} :
    parseContent crates value index true = .ok blocks ↔
      parseContent crates value index false = .ok blocks ∧ ∀ items, value = .array items →
        ∀ block ∈ items, KeysByType blockKeys block := by
  cases value with
  | array items =>
      unfold parseContent
      dsimp only
      rw [Except.bind_eq_ok, Except.bind_eq_ok]
      simp only [Except.mapM_eq_ok_and fun _ _ _ => parseBlock_strict, Except.forall_mem_zipIdx]
      constructor
      · rintro ⟨_, present, parsed, only⟩
        refine ⟨⟨(), present, parsed⟩, ?_⟩
        rintro _ ⟨⟩
        exact only
      · rintro ⟨⟨_, present, parsed⟩, only⟩
        exact ⟨(), present, parsed, only items rfl⟩
  | string text => simp [parseContent]
  | null => simp [parseContent]
  | bool => simp [parseContent]
  | number => simp [parseContent]
  | object => simp [parseContent]

/-- So is a message. -/
theorem normalizeMessage_strict {message : InputMessage} {index : Nat}
    {normalized : NormalizedMessage} :
    normalizeMessage crates message index true = .ok normalized ↔
      normalizeMessage crates message index false = .ok normalized ∧
        ∀ items, message.content = .array items → ∀ block ∈ items, KeysByType blockKeys block := by
  unfold normalizeMessage
  simp only [Except.bind_eq_ok, parseContent_strict]
  constructor
  · rintro ⟨role, roleEq, blocks, ⟨parsed, only⟩, same⟩
    exact ⟨⟨role, roleEq, blocks, parsed, same⟩, only⟩
  · rintro ⟨⟨role, roleEq, blocks, parsed, same⟩, only⟩
    exact ⟨role, roleEq, blocks, ⟨parsed, only⟩, same⟩

/-- A tool may have nothing besides but `cache_control`. -/
theorem checkTool_strict {seen names : List String} {tool : ToolDefinition} :
    checkTool true seen tool = .ok names ↔
      checkTool false seen tool = .ok names ∧
        ∀ entry ∈ tool.extensions, entry.1 = "cache_control" := by
  have known : (¬ ∃ entry ∈ tool.extensions, entry.1 ≠ "cache_control") ↔
      ∀ entry ∈ tool.extensions, entry.1 = "cache_control" := by
    simp
  unfold checkTool
  simp only [Except.bind_eq_ok, rejectIf_eq_ok]
  constructor
  · rintro ⟨_, named, _, only, _, schema, same⟩
    refine ⟨⟨(), named, (), by simp, (), schema, same⟩, known.mp ?_⟩
    intro unknown
    exact only ⟨trivial, unknown⟩
  · rintro ⟨⟨_, named, _, _, _, schema, same⟩, only⟩
    refine ⟨(), named, (), ?_, (), schema, same⟩
    rintro ⟨-, unknown⟩
    exact known.mpr only unknown

/-- So it is with every tool. -/
theorem checkTools_strict {tools : List ToolDefinition} {names : List String} :
    checkTools tools true = .ok names ↔
      checkTools tools false = .ok names ∧
        ∀ tool ∈ tools, ∀ entry ∈ tool.extensions, entry.1 = "cache_control" := by
  have each : ∀ seen tool names, checkTool true seen tool = .ok names ↔
      checkTool false seen tool = .ok names ∧
        ∀ entry ∈ tool.extensions, entry.1 = "cache_control" := fun _ _ _ => checkTool_strict
  exact Except.foldlM_eq_ok_and each

/-- A choice of tools may have the fields of its type. -/
theorem parseChoiceOf_strict {kind : String} {value : Value} (isObject : value.isObject = true)
    {disableParallel : Bool} {choice : ToolChoice} :
    parseChoiceOf kind value disableParallel true = .ok choice ↔
      parseChoiceOf kind value disableParallel false = .ok choice ∧
        HasOnly (choiceKeys kind) value := by
  unfold parseChoiceOf choiceKeys
  by_cases isAuto : kind = "auto"
  · simp only [isAuto, true_or, if_true]
    exact ensureOnly_bind isObject
  · simp only [isAuto, false_or, if_false]
    by_cases isAny : kind = "any"
    · simp only [if_pos isAny]
      exact ensureOnly_bind isObject
    · simp only [if_neg isAny]
      by_cases isNone : kind = "none"
      · simp only [if_pos isNone]
        exact ensureOnly_bind isObject
      · simp only [if_neg isNone]
        by_cases isTool : kind = "tool"
        · simp only [if_pos isTool]
          exact ensureOnly_bind isObject
        · simp [if_neg isTool]

/-- So it is with the one of a request. -/
theorem parseToolChoice_strict {value : Option Value} {choice : Option ToolChoice} :
    parseToolChoice value true = .ok choice ↔
      parseToolChoice value false = .ok choice ∧
        ∀ held, value = some held → KeysByType choiceKeys held := by
  cases value with
  | none => simp [parseToolChoice]
  | some held =>
      unfold parseToolChoice
      dsimp only
      rw [Except.bind_eq_ok, Except.bind_eq_ok]
      simp only [Except.bind_eq_ok]
      constructor
      · rintro ⟨kind, kindEq, parsed, parsedEq, same⟩
        have atType := orReject_eq_ok.mp kindEq
        obtain ⟨loose, only⟩ := (parseChoiceOf_strict (isObject_of_strAt atType)).mp parsedEq
        refine ⟨⟨kind, kindEq, parsed, loose, same⟩, ?_⟩
        rintro _ ⟨⟩
        exact (keysByType_of_type atType).mpr only
      · rintro ⟨⟨kind, kindEq, parsed, parsedEq, same⟩, only⟩
        have atType := orReject_eq_ok.mp kindEq
        exact ⟨kind, kindEq, parsed, (parseChoiceOf_strict (isObject_of_strAt atType)).mpr
          ⟨parsedEq, (keysByType_of_type atType).mp (only held rfl)⟩, same⟩

/-- A request has no unknown field exactly if it has nothing besides but `cache_control`. -/
theorem unknownFields_eq_nil {request : AnthropicRequest} :
    unknownFields request = [] ↔ ∀ entry ∈ request.extensions, entry.1 = "cache_control" := by
  unfold unknownFields
  rw [List.filter_eq_nil_iff]
  simp

/-- That is what strict mode asks of its fields. -/
theorem checkFields_strict {request : AnthropicRequest} :
    checkFields request true = .ok () ↔
      checkFields request false = .ok () ∧
        ∀ entry ∈ request.extensions, entry.1 = "cache_control" := by
  unfold checkFields
  simp only [Except.bind_eq_ok, rejectIf_eq_ok, ← unknownFields_eq_nil]
  constructor
  · rintro ⟨_, model, _, messages, _, few, _, tools, _, stops, _, tokens, _, only, rest⟩
    have known : unknownFields request = [] := by
      by_contra unknown
      exact only ⟨trivial, unknown⟩
    exact ⟨⟨(), model, (), messages, (), few, (), tools, (), stops, (), tokens, (), by simp, rest⟩,
      known⟩
  · rintro ⟨⟨_, model, _, messages, _, few, _, tools, _, stops, _, tokens, _, _, rest⟩, known⟩
    exact ⟨(), model, (), messages, (), few, (), tools, (), stops, (), tokens, (),
      fun unknown => unknown.2 known, rest⟩

/-- The strict mode accepts a request exactly when the loose mode accepts it and all of its objects
have known keys only, and then with the same result. -/
theorem normalize_strict_iff (crates : Crates) (request : AnthropicRequest) :
    (∀ normalized, normalize crates request false = .ok normalized ↔
      normalize crates request true = .ok normalized ∧ AllowedKeys request) ∧
    ∀ strict loose, normalize crates request false = .ok strict →
      normalize crates request true = .ok loose → strict = loose := by
  have modes : ∀ normalized, normalize crates request false = .ok normalized ↔
      normalize crates request true = .ok normalized ∧ AllowedKeys request := by
    intro normalized
    rw [normalize_eq_ok, normalize_eq_ok]
    simp only [Bool.not_false, Bool.not_true, checkFields_strict, normalizeSystem_strict,
      Except.mapM_eq_ok_and fun _ _ _ => normalizeMessage_strict, checkTools_strict,
      parseToolChoice_strict]
    constructor
    · rintro ⟨⟨fields, knownFields⟩, system, turns, history, names, choice, ⟨systemEq, knownSystem⟩,
        ⟨turnsEq, knownContent⟩, historyEq, ⟨namesEq, knownTools⟩, ⟨choiceEq, knownChoice⟩, fits,
        same⟩
      refine ⟨⟨fields, system, turns, history, names, choice, systemEq, turnsEq, historyEq, namesEq,
        choiceEq, fits, same⟩, knownFields, knownSystem, ?_, knownTools, knownChoice⟩
      exact Except.forall_mem_zipIdx.mp knownContent
    · rintro ⟨⟨fields, system, turns, history, names, choice, systemEq, turnsEq, historyEq, namesEq,
        choiceEq, fits, same⟩, allowed⟩
      exact ⟨⟨fields, allowed.fields⟩, system, turns, history, names, choice,
        ⟨systemEq, allowed.system⟩, ⟨turnsEq, Except.forall_mem_zipIdx.mpr allowed.content⟩,
        historyEq, ⟨namesEq, allowed.tools⟩, ⟨choiceEq, allowed.choice⟩, fits, same⟩
  refine ⟨modes, ?_⟩
  intro strict loose strictEq looseEq
  have alsoLoose := ((modes strict).mp strictEq).1
  rw [looseEq] at alsoLoose
  exact (Except.ok.inj alsoLoose).symm

end Modes

end ClaudeProxy
