/-
Module: ClaudeProxy.Anthropic.Normalize
Layer: Model
Purpose: The translation of a client's request into the provider-neutral form, with all of its checks
  and the texts and paths of its errors (`normalize` and its helpers in `src/anthropic.rs`).
Trusted boundary: human-reviewed model
Main exports: requiredStr, ensureOnly, parseSystem, parseContent, parseBlock,
  validateToolHistory, parseToolChoice, normalize, parseBlock_cases
-/
import ClaudeProxy.Domain
import ClaudeProxy.Library.Outcome
import ClaudeProxy.Library.Text

namespace ClaudeProxy

open Library

/-! ### Checks -/

def requiredStr (value : Value) (key path : String) : Except ProxyError String :=
  orReject (value.strAt key) (ProxyError.invalid s!"{path}.{key} must be a string")

/-- The keys of an object, in order. -/
def Value.keys (value : Value) : List String :=
  (value.asObject.getD []).map Prod.fst

/-- The first key outside an allow-list is reported. -/
def onlyKeys (value : Value) (allowed : List String) (path : String) : Except ProxyError Unit :=
  match value.keys.find? fun key => ¬ key ∈ allowed with
  | some key => .error (ProxyError.invalid s!"{path}.{key} is unsupported")
  | none => .ok ()

def ensureOnly (value : Value) (allowed : List String) (path : String) (strict : Bool) :
    Except ProxyError Unit :=
  if strict = false then .ok ()
  else do
    rejectIf (¬ value.isObject = true) (ProxyError.invalid s!"{path} must be an object")
    onlyKeys value allowed path

/-! ### Content -/

/-- One element of a `system` array. -/
def parseSystemBlock (block : Value) (index : Nat) (strict : Bool) :
    Except ProxyError InputBlock := do
  rejectIf (block.strAt "type" ≠ some "text")
    (ProxyError.invalid s!"system[{index}] must be a text block")
  let text ← requiredStr block "text" s!"system[{index}]"
  ensureOnly block ["type", "text", "cache_control"] s!"system[{index}]" strict
  pure (.text text)

def parseSystem (value : Value) (strict : Bool) : Except ProxyError (List InputBlock) :=
  match value with
  | .string text => .ok [.text text]
  | .array blocks => blocks.zipIdx.mapM fun entry => parseSystemBlock entry.1 entry.2 strict
  | _ => .error (ProxyError.invalid "system must be a string or an array of text blocks")

def parseText (block : Value) (path : String) (strict : Bool) : Except ProxyError InputBlock := do
  ensureOnly block ["type", "text", "cache_control", "citations"] path strict
  rejectIf (((block.get "citations").getD .null).isNull = false)
    (ProxyError.invalid s!"{path}.citations is unsupported")
  let text ← requiredStr block "text" path
  pure (.text text)

def parseBase64Source (crates : Crates) (source : Value) (path : String) :
    Except ProxyError InputBlock := do
  onlyKeys source ["type", "media_type", "data"] s!"{path}.source"
  let mediaType ← orReject (source.strAt "media_type")
    (ProxyError.invalid s!"{path}.source.media_type is required")
  rejectIf (¬ mediaType ∈ ["image/jpeg", "image/png", "image/gif", "image/webp"])
    (ProxyError.invalid s!"{path}.source.media_type is unsupported")
  let data ← orReject (source.strAt "data")
    (ProxyError.invalid s!"{path}.source.data is required")
  rejectIf (crates.base64Decode data = none)
    (ProxyError.invalid s!"{path}.source.data is not valid base64")
  pure (.image mediaType (.base64 data))

def parseUrlSource (crates : Crates) (source : Value) (path : String) :
    Except ProxyError InputBlock := do
  onlyKeys source ["type", "url"] s!"{path}.source"
  let url ← orReject (source.strAt "url") (ProxyError.invalid s!"{path}.source.url is required")
  let parsed ← orReject (crates.urlParse url).toOption
    (ProxyError.invalid s!"{path}.source.url is invalid")
  rejectIf (¬ parsed.scheme ∈ ["http", "https"])
    (ProxyError.invalid s!"{path}.source.url must use HTTP or HTTPS")
  pure (.image "application/octet-stream" (.url url))

def parseImage (crates : Crates) (block : Value) (path : String) (strict : Bool) :
    Except ProxyError InputBlock := do
  ensureOnly block ["type", "source", "cache_control"] path strict
  let source ← orReject ((block.get "source").filter Value.isObject)
    (ProxyError.invalid s!"{path}.source must be an object")
  let sourceType ← orReject (source.strAt "type")
    (ProxyError.invalid s!"{path}.source.type is required")
  if sourceType = "base64" then parseBase64Source crates source path
  else if sourceType = "url" then parseUrlSource crates source path
  else .error (ProxyError.invalid s!"{path}.source type {sourceType} is unsupported")

def parseToolUse (block : Value) (path : String) (strict : Bool) : Except ProxyError InputBlock := do
  ensureOnly block ["type", "id", "name", "input", "cache_control"] path strict
  let id ← requiredStr block "id" path
  let name ← requiredStr block "name" path
  let input ← orReject ((block.get "input").filter Value.isObject)
    (ProxyError.invalid s!"{path}.input must be an object")
  pure (.toolUse id name input)

/-- `get(key).and_then(Value::as_bool).unwrap_or(false)`. -/
def flagAt (value : Value) (key : String) : Bool :=
  ((value.get key).bind Value.asBool).getD false

def parseToolResult (block : Value) (path : String) (strict : Bool) :
    Except ProxyError InputBlock := do
  ensureOnly block ["type", "tool_use_id", "content", "is_error", "cache_control"] path strict
  let toolUseId ← requiredStr block "tool_use_id" path
  pure (.toolResult toolUseId ((block.get "content").getD (.string "")) (flagAt block "is_error"))

/-- `match kind` for a content block. -/
def parseBlockOf (crates : Crates) (kind : String) (block : Value) (path : String) (strict : Bool) :
    Except ProxyError InputBlock :=
  if kind = "text" then parseText block path strict
  else if kind = "image" then parseImage crates block path strict
  else if kind = "tool_use" then parseToolUse block path strict
  else if kind = "tool_result" then parseToolResult block path strict
  else .error (ProxyError.invalid s!"{path} has unsupported content block type {kind}")

/-- One element of a content array. -/
def parseBlock (crates : Crates) (block : Value) (path : String) (strict : Bool) :
    Except ProxyError InputBlock := do
  let kind ← requiredStr block "type" path
  parseBlockOf crates kind block path strict

def parseContent (crates : Crates) (value : Value) (messageIndex : Nat) (strict : Bool) :
    Except ProxyError (List InputBlock) :=
  match value with
  | .string text => .ok [.text text]
  | .array blocks => do
      rejectIf (blocks = [])
        (ProxyError.invalid s!"messages[{messageIndex}].content must not be empty")
      blocks.zipIdx.mapM fun entry =>
        parseBlock crates entry.1 s!"messages[{messageIndex}].content[{entry.2}]" strict
  | _ => .error (ProxyError.invalid s!"messages[{messageIndex}].content must be a string or array")

/-! ### Messages -/

/-- The ids that `validate_tool_history` has met: its sets `calls` and `results`. -/
structure ToolHistory where
  calls : List String := []
  results : List String := []
deriving DecidableEq, Repr, Inhabited

def ToolHistory.visit (role : MessageRole) (history : ToolHistory) :
    InputBlock → Except ProxyError ToolHistory
  | .toolUse id _ _ => do
      rejectIf (role ≠ .assistant ∨ id = "" ∨ id ∈ history.calls)
        (ProxyError.invalid "tool_use blocks require unique non-empty IDs in assistant messages")
      pure { history with calls := id :: history.calls }
  | .toolResult toolUseId _ _ => do
      rejectIf (role ≠ .user ∨ toolUseId ∉ history.calls ∨ toolUseId ∈ history.results)
        (ProxyError.invalid "tool_result must reference one prior unresolved assistant tool_use")
      pure { history with results := toolUseId :: history.results }
  | .text _ => pure history
  | .image _ _ => pure history

def ToolHistory.visitMessage (history : ToolHistory) (message : NormalizedMessage) :
    Except ProxyError ToolHistory :=
  message.blocks.foldlM (ToolHistory.visit message.role) history

def validateToolHistory (messages : List NormalizedMessage) : Except ProxyError ToolHistory :=
  messages.foldlM ToolHistory.visitMessage {}

def parseRole (role : String) (index : Nat) : Except ProxyError MessageRole :=
  if role = "user" then .ok .user
  else if role = "assistant" then .ok .assistant
  else if role = "system" then .ok .system
  else .error (ProxyError.invalid s!"messages[{index}].role must be user, assistant, or system")

def normalizeMessage (crates : Crates) (message : InputMessage) (index : Nat) (strict : Bool) :
    Except ProxyError NormalizedMessage := do
  let role ← parseRole message.role index
  let blocks ← parseContent crates message.content index strict
  pure { role := role, blocks := blocks }

/-- The message that the `system` field becomes, unless it has no blocks. -/
def normalizeSystem (system : Option Value) (strict : Bool) :
    Except ProxyError (List NormalizedMessage) :=
  match system with
  | none => .ok []
  | some value => do
      let blocks ← parseSystem value strict
      pure (if blocks = [] then [] else [{ role := .system, blocks := blocks }])

/-! ### Tools -/

/-- `character.is_ascii_alphanumeric() || matches!(character, '_' | '-')`. -/
def isToolNameSymbol (symbol : Char) : Bool :=
  symbol.isAlphanum || symbol == '_' || symbol == '-'

/-- One tool, after tools with the names `seen`. -/
def checkTool (strict : Bool) (seen : List String) (tool : ToolDefinition) :
    Except ProxyError (List String) := do
  rejectIf (tool.name = "" ∨ 64 < tool.name.utf8ByteSize ∨
      ¬ tool.name.toList.all isToolNameSymbol = true ∨ tool.name ∈ seen)
    (ProxyError.invalid "tool names must be unique and contain 1-64 letters, digits, underscores, or hyphens")
  rejectIf (strict = true ∧ ∃ entry ∈ tool.extensions, entry.1 ≠ "cache_control")
    (ProxyError.invalid s!"tool {tool.name} contains unsupported fields")
  rejectIf (¬ tool.inputSchema.isObject = true)
    (ProxyError.invalid s!"tool {tool.name} input_schema must be an object")
  pure (tool.name :: seen)

def checkTools (tools : List ToolDefinition) (strict : Bool) : Except ProxyError (List String) :=
  tools.foldlM (checkTool strict) []

/-- `match kind` for a tool choice. -/
def parseChoiceOf (kind : String) (value : Value) (disableParallel strict : Bool) :
    Except ProxyError ToolChoice :=
  if kind = "auto" then do
    ensureOnly value ["type", "disable_parallel_tool_use"] "tool_choice" strict
    pure (.auto disableParallel)
  else if kind = "any" then do
    ensureOnly value ["type", "disable_parallel_tool_use"] "tool_choice" strict
    pure (.any disableParallel)
  else if kind = "none" then do
    ensureOnly value ["type"] "tool_choice" strict
    pure .none
  else if kind = "tool" then do
    ensureOnly value ["type", "name", "disable_parallel_tool_use"] "tool_choice" strict
    let name ← requiredStr value "name" "tool_choice"
    pure (.tool name disableParallel)
  else .error (ProxyError.invalid s!"unsupported tool_choice type {kind}")

def parseToolChoice (value : Option Value) (strict : Bool) :
    Except ProxyError (Option ToolChoice) :=
  match value with
  | none => .ok none
  | some value => do
      let kind ← requiredStr value "type" "tool_choice"
      let disableParallel := flagAt value "disable_parallel_tool_use"
      let choice ← parseChoiceOf kind value disableParallel strict
      pure (some choice)

/-- The choice must fit the tools: it names one of them, and it demands a call only where there is
one to make. -/
def checkToolChoice (choice : Option ToolChoice) (tools : List ToolDefinition) (names : List String) :
    Except ProxyError Unit :=
  match choice with
  | some (.tool name _) => do
      rejectIf (name ∉ names)
        (ProxyError.invalid s!"tool_choice references undefined tool {name}")
      rejectIf (tools = []) (ProxyError.invalid "tool_choice requires at least one tool definition")
  | some (.any _) =>
      rejectIf (tools = []) (ProxyError.invalid "tool_choice requires at least one tool definition")
  | _ => .ok ()

/-! ### The request -/

/-- The keys of the request that the strict mode does not know. -/
def unknownFields (request : AnthropicRequest) : List String :=
  (request.extensions.map Prod.fst).filter (· ≠ "cache_control")

/-- The checks on the request's own fields. -/
def checkFields (request : AnthropicRequest) (strict : Bool) : Except ProxyError Unit := do
  rejectIf (trim request.model = "") (ProxyError.invalid "model must not be empty")
  rejectIf (request.messages = []) (ProxyError.invalid "messages must not be empty")
  rejectIf (10000 < request.messages.length)
    (ProxyError.invalid "messages exceeds the 10000 item limit")
  rejectIf (128 < request.tools.length) (ProxyError.invalid "tools exceeds the 128 item limit")
  rejectIf (4 < (request.stopSequences.getD []).length ∨ "" ∈ request.stopSequences.getD [])
    (ProxyError.invalid "stop_sequences must contain at most four non-empty strings")
  rejectIf (request.maxTokens = 0)
    (ProxyError.invalid "max_tokens must be greater than zero for Chat Completions targets")
  rejectIf (strict = true ∧ unknownFields request ≠ [])
    (ProxyError.invalid
      ("unsupported request fields: " ++ String.intercalate ", " (unknownFields request)))
  rejectIf (request.topK.isSome = true)
    (ProxyError.invalid "top_k is not supported by configured Chat Completions targets")
  rejectIf (¬ (request.temperature.getD F64.zero).inUnitInterval = true)
    (ProxyError.invalid "temperature must be between 0 and 1")
  rejectIf (¬ (request.topP.getD F64.one).inUnitInterval = true)
    (ProxyError.invalid "top_p must be between 0 and 1")

def normalize (crates : Crates) (request : AnthropicRequest) (looseValidation : Bool) :
    Except ProxyError NormalizedRequest := do
  let strict := !looseValidation
  checkFields request strict
  let system ← normalizeSystem request.system strict
  let turns ← request.messages.zipIdx.mapM fun entry =>
    normalizeMessage crates entry.1 entry.2 strict
  let messages := system ++ turns
  let _ ← validateToolHistory messages
  let names ← checkTools request.tools strict
  let toolChoice ← parseToolChoice request.toolChoice strict
  checkToolChoice toolChoice request.tools names
  pure
    { originalModel := request.model
      maxTokens := request.maxTokens
      messages := messages
      temperature := request.temperature
      topP := request.topP
      stopSequences := request.stopSequences.getD []
      tools := request.tools
      toolChoice := toolChoice
      stream := request.stream }

/-! ### What an accepted block holds -/

section Accepted

variable {crates : Crates} {block : Value} {path : String} {strict : Bool}
  {parsed : InputBlock}

theorem parseText_accepted (accepted : parseText block path strict = .ok parsed) :
    ∃ text, ensureOnly block ["type", "text", "cache_control", "citations"] path strict = .ok () ∧
      ((block.get "citations").getD .null).isNull = true ∧ block.strAt "text" = some text ∧
      parsed = .text text := by
  unfold parseText at accepted
  simp only [Except.bind_eq_ok] at accepted
  obtain ⟨_, only, _, citations, text, textEq, same⟩ := accepted
  cases same
  exact ⟨text, only, by simpa using rejectIf_eq_ok.mp citations, orReject_eq_ok.mp textEq, rfl⟩

theorem parseToolUse_accepted (accepted : parseToolUse block path strict = .ok parsed) :
    ∃ id name input,
      ensureOnly block ["type", "id", "name", "input", "cache_control"] path strict = .ok () ∧
      block.strAt "id" = some id ∧ block.strAt "name" = some name ∧
      block.get "input" = some input ∧ parsed = .toolUse id name input := by
  unfold parseToolUse at accepted
  simp only [Except.bind_eq_ok] at accepted
  obtain ⟨_, only, id, idEq, name, nameEq, input, inputEq, same⟩ := accepted
  cases same
  exact ⟨id, name, input, only, orReject_eq_ok.mp idEq, orReject_eq_ok.mp nameEq,
    (Option.filter_eq_some_iff.mp (orReject_eq_ok.mp inputEq)).1, rfl⟩

theorem parseToolResult_accepted (accepted : parseToolResult block path strict = .ok parsed) :
    ∃ id, ensureOnly block ["type", "tool_use_id", "content", "is_error", "cache_control"] path
        strict = .ok () ∧ block.strAt "tool_use_id" = some id ∧
      parsed =
        .toolResult id ((block.get "content").getD (.string "")) (flagAt block "is_error") := by
  unfold parseToolResult at accepted
  simp only [Except.bind_eq_ok] at accepted
  obtain ⟨_, only, id, idEq, same⟩ := accepted
  cases same
  exact ⟨id, only, orReject_eq_ok.mp idEq, rfl⟩

theorem parseBase64Source_accepted {source : Value}
    (accepted : parseBase64Source crates source path = .ok parsed) :
    ∃ mediaType data,
      onlyKeys source ["type", "media_type", "data"] s!"{path}.source" = .ok () ∧
      source.strAt "media_type" = some mediaType ∧ source.strAt "data" = some data ∧
      parsed = .image mediaType (.base64 data) := by
  unfold parseBase64Source at accepted
  simp only [Except.bind_eq_ok] at accepted
  obtain ⟨_, only, mediaType, mediaTypeEq, _, _, data, dataEq, _, _, same⟩ := accepted
  cases same
  exact ⟨mediaType, data, only, orReject_eq_ok.mp mediaTypeEq, orReject_eq_ok.mp dataEq, rfl⟩

theorem parseUrlSource_accepted {source : Value}
    (accepted : parseUrlSource crates source path = .ok parsed) :
    ∃ url, onlyKeys source ["type", "url"] s!"{path}.source" = .ok () ∧
      source.strAt "url" = some url ∧
      parsed = .image "application/octet-stream" (.url url) := by
  unfold parseUrlSource at accepted
  simp only [Except.bind_eq_ok] at accepted
  obtain ⟨_, only, url, urlEq, _, _, _, _, same⟩ := accepted
  cases same
  exact ⟨url, only, orReject_eq_ok.mp urlEq, rfl⟩

/-- An image is read from one of two kinds of source. -/
theorem parseImage_cases (accepted : parseImage crates block path strict = .ok parsed) :
    ∃ source, ensureOnly block ["type", "source", "cache_control"] path strict = .ok () ∧
      block.get "source" = some source ∧
      (source.strAt "type" = some "base64" ∧ parseBase64Source crates source path = .ok parsed ∨
        source.strAt "type" = some "url" ∧ parseUrlSource crates source path = .ok parsed) := by
  unfold parseImage at accepted
  simp only [Except.bind_eq_ok] at accepted
  obtain ⟨_, only, source, sourceEq, sourceType, typeEq, bySource⟩ := accepted
  have held := (Option.filter_eq_some_iff.mp (orReject_eq_ok.mp sourceEq)).1
  refine ⟨source, only, held, ?_⟩
  have atType := orReject_eq_ok.mp typeEq
  by_cases isBase64 : sourceType = "base64"
  · subst isBase64
    exact .inl ⟨atType, bySource⟩
  · rw [if_neg isBase64] at bySource
    by_cases isUrl : sourceType = "url"
    · subst isUrl
      exact .inr ⟨atType, bySource⟩
    · rw [if_neg isUrl] at bySource
      cases bySource

/-- A content block is of one of four types, and read by the parser for its type. -/
theorem parseBlock_cases (accepted : parseBlock crates block path strict = .ok parsed) :
    block.strAt "type" = some "text" ∧ parseText block path strict = .ok parsed ∨
      block.strAt "type" = some "image" ∧ parseImage crates block path strict = .ok parsed ∨
      block.strAt "type" = some "tool_use" ∧ parseToolUse block path strict = .ok parsed ∨
      block.strAt "type" = some "tool_result" ∧ parseToolResult block path strict = .ok parsed := by
  unfold parseBlock at accepted
  obtain ⟨kind, kindEq, byKind⟩ := Except.bind_eq_ok.mp accepted
  have atType := orReject_eq_ok.mp kindEq
  unfold parseBlockOf at byKind
  by_cases isText : kind = "text"
  · subst isText
    exact .inl ⟨atType, byKind⟩
  · rw [if_neg isText] at byKind
    by_cases isImage : kind = "image"
    · subst isImage
      exact .inr (.inl ⟨atType, byKind⟩)
    · rw [if_neg isImage] at byKind
      by_cases isToolUse : kind = "tool_use"
      · subst isToolUse
        exact .inr (.inr (.inl ⟨atType, byKind⟩))
      · rw [if_neg isToolUse] at byKind
        by_cases isToolResult : kind = "tool_result"
        · subst isToolResult
          exact .inr (.inr (.inr ⟨atType, byKind⟩))
        · rw [if_neg isToolResult] at byKind
          cases byKind

/-- Content is a string, which stands for one text block, or an array of blocks. -/
theorem parseContent_cases {content : Value} {index : Nat} {blocks : List InputBlock}
    (accepted : parseContent crates content index strict = .ok blocks) :
    (∃ text, content = .string text ∧ blocks = [.text text]) ∨
      ∃ items, content = .array items ∧
        items.zipIdx.mapM (fun entry =>
          parseBlock crates entry.1 s!"messages[{index}].content[{entry.2}]" strict) =
            .ok blocks := by
  cases content with
  | string text =>
      cases accepted
      exact .inl ⟨text, rfl, rfl⟩
  | array items =>
      obtain ⟨_, _, parsed⟩ := Except.bind_eq_ok.mp accepted
      exact .inr ⟨items, rfl, parsed⟩
  | null => cases accepted
  | bool => cases accepted
  | number => cases accepted
  | object => cases accepted

end Accepted

end ClaudeProxy
