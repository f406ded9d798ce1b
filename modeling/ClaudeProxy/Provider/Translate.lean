/-
Module: ClaudeProxy.Provider.Translate
Layer: Model
Purpose: The body of an upstream request (`build_request` and `convert_messages` in
  `src/provider.rs`): each message becomes a segment of Chat Completions messages.
Trusted boundary: human-reviewed model
Main exports: UserParts, AssistantParts, convertMessage, convertMessages, buildRequest,
  chatCompletionsUrl
-/
import ClaudeProxy.Config

namespace ClaudeProxy

open Library

/-! ### Messages of the system and of the user -/

def textPart (text : String) : Value :=
  .obj [("type", .string "text"), ("text", .string text)]

def imageUrl (mediaType : String) : ImageData → String
  | .base64 data => s!"data:{mediaType};base64,{data}"
  | .url url => url

def imagePart (mediaType : String) (data : ImageData) : Value :=
  .obj [("type", .string "image_url"),
    ("image_url", .obj [("url", .string (imageUrl mediaType data))])]

/-- The message with the result of a tool. -/
def toolMessage (toolUseId value : String) (isError : Bool) : Value :=
  .obj [("role", .string "tool"), ("tool_call_id", .string toolUseId),
    ("content", .string (if isError = true then "Error: " ++ value else value))]

/-- What the blocks of a message have been sorted into: `content` and `tool_results`. -/
structure UserParts where
  content : List Value := []
  toolResults : List Value := []
deriving Repr, Inhabited

def UserParts.add (parts : UserParts) : InputBlock → Except ProxyError UserParts
  | .text text => .ok { parts with content := parts.content ++ [textPart text] }
  | .image mediaType data =>
      .ok { parts with content := parts.content ++ [imagePart mediaType data] }
  | .toolResult toolUseId content isError => do
      let value ← orReject content.asStr (.invalid "tool result content must be a string")
      pure { parts with toolResults := parts.toolResults ++ [toolMessage toolUseId value isError] }
  | .toolUse _ _ _ => .error (.invalid "tool_use blocks are only valid in assistant messages")

/-- A single text part is sent as a bare string. -/
def contentValue (content : List Value) : Value :=
  match content with
  | [part] => if part.strAt "type" = some "text" then (part.get "text").getD .null else .array [part]
  | parts => .array parts

/-- The results come before the content, and a message without content sends none. -/
def UserParts.messages (parts : UserParts) (role : String) : List Value :=
  parts.toolResults ++
    if parts.content.isEmpty = true then []
    else [.obj [("role", .string role), ("content", contentValue parts.content)]]

/-! ### Messages of the assistant -/

def callValue (crates : Crates) (id name : String) (input : Value) : Value :=
  .obj [("id", .string id), ("type", .string "function"),
    ("function", .obj [("name", .string name), ("arguments", .string (crates.toJson input))])]

/-- The text and the calls of a message of the assistant. -/
structure AssistantParts where
  text : String := ""
  calls : List Value := []
deriving Repr, Inhabited

def AssistantParts.add (crates : Crates) (parts : AssistantParts) :
    InputBlock → Except ProxyError AssistantParts
  | .text part => .ok { parts with text := parts.text ++ part }
  | .toolUse id name input =>
      .ok { parts with calls := parts.calls ++ [callValue crates id name input] }
  | .image _ _ => .error (.invalid "assistant messages may contain only text and tool_use blocks")
  | .toolResult _ _ _ =>
      .error (.invalid "assistant messages may contain only text and tool_use blocks")

def AssistantParts.message (parts : AssistantParts) : Value :=
  let value := Value.obj [("role", .string "assistant"),
    ("content", if parts.text = "" then .null else .string parts.text)]
  if parts.calls.isEmpty = true then value else value.set "tool_calls" (.array parts.calls)

/-! ### The request -/

/-- The segment that one message becomes. -/
def convertMessage (crates : Crates) (message : NormalizedMessage) :
    Except ProxyError (List Value) :=
  match message.role with
  | .system => do
      let parts ← message.blocks.foldlM UserParts.add {}
      pure (parts.messages "system")
  | .user => do
      let parts ← message.blocks.foldlM UserParts.add {}
      pure (parts.messages "user")
  | .assistant => do
      let parts ← message.blocks.foldlM (AssistantParts.add crates) {}
      pure [parts.message]

def convertMessages (crates : Crates) (request : NormalizedRequest) :
    Except ProxyError (List Value) := do
  let segments ← request.messages.mapM (convertMessage crates)
  pure segments.flatten

def toolValue (tool : ToolDefinition) : Value :=
  .obj [("type", .string "function"),
    ("function", .obj [("name", .string tool.name),
      ("description", (tool.description.map Value.string).getD .null),
      ("parameters", tool.inputSchema)])]

/-- The value of `tool_choice`, and that of `parallel_tool_calls` where there is one. -/
def choiceValue : ToolChoice → Value × Option Bool
  | .auto disableParallel => (.string "auto", some !disableParallel)
  | .any disableParallel => (.string "required", some !disableParallel)
  | .none => (.string "none", none)
  | .tool name disableParallel =>
      (.obj [("type", .string "function"), ("function", .obj [("name", .string name)])],
        some !disableParallel)

def choiceEntries (choice : ToolChoice) : Entries :=
  ("tool_choice", (choiceValue choice).1) ::
    ((choiceValue choice).2.map fun parallel =>
      ("parallel_tool_calls", Value.bool parallel)).toList

def buildRequest (crates : Crates) (capabilities : CapabilityProfile) (request : NormalizedRequest)
    (model : String) (stream : Bool) : Except ProxyError Value := do
  let messages ← convertMessages crates request
  let tokenField :=
    if capabilities.useMaxCompletionTokens = true then "max_completion_tokens" else "max_tokens"
  pure (.obj (
    [("model", .string model), ("messages", .array messages),
      (tokenField, .num request.maxTokens)] ++
    (request.temperature.map fun value => ("temperature", Value.ofF64 value)).toList ++
    (request.topP.map fun value => ("top_p", Value.ofF64 value)).toList ++
    (if request.stopSequences.isEmpty = true then []
      else [("stop", .array (request.stopSequences.map Value.string))]) ++
    (if request.tools.isEmpty = true then []
      else [("tools", .array (request.tools.map toolValue))]) ++
    (request.toolChoice.map choiceEntries).getD [] ++
    [("stream", .bool stream)] ++
    (if stream = true then [("stream_options", .obj [("include_usage", .bool true)])] else [])))

/-- The query of an endpoint stays at the end of the URL. -/
def chatCompletionsUrl (endpoint : String) : String :=
  match endpoint.toList.span (· ≠ '?') with
  | (base, _ :: query) => String.ofList base ++ "/chat/completions?" ++ String.ofList query
  | (_, []) => endpoint ++ "/chat/completions"

end ClaudeProxy
