/-
Module: ClaudeProxy.Domain
Layer: Model
Purpose: The provider-neutral types between the client protocol and the provider protocol, and the
  entry points of third-party crates that the translation calls.
Trusted boundary: human-reviewed model
Main exports: AnthropicRequest, NormalizedRequest, NormalizedMessage, InputBlock, ToolChoice, Usage,
  AnthropicResponse, OutputBlock, ProviderEvent, StopReason, Crates
-/
import ClaudeProxy.Json
import ClaudeProxy.Error

namespace ClaudeProxy

structure InputMessage where
  role : String
  content : Value
deriving Repr, Inhabited

structure ToolDefinition where
  name : String
  description : Option String := none
  inputSchema : Value
  extensions : Entries := []
deriving Repr, Inhabited

/-- A request as deserialized: a field the client left out, or sent as `null`, is `none`. -/
structure AnthropicRequest where
  model : String
  maxTokens : Nat
  messages : List InputMessage
  stream : Bool := false
  system : Option Value := none
  temperature : Option F64 := none
  topP : Option F64 := none
  topK : Option Nat := none
  stopSequences : Option (List String) := none
  metadata : Option Value := none
  tools : List ToolDefinition := []
  toolChoice : Option Value := none
  thinking : Option Value := none
  extensions : Entries := []
deriving Repr, Inhabited

inductive MessageRole where
  | system
  | user
  | assistant
deriving DecidableEq, Repr, Inhabited

inductive ImageData where
  | base64 (data : String)
  | url (url : String)
deriving DecidableEq, Repr, Inhabited

inductive InputBlock where
  | text (text : String)
  | image (mediaType : String) (data : ImageData)
  | toolUse (id name : String) (input : Value)
  | toolResult (toolUseId : String) (content : Value) (isError : Bool)
deriving Repr, Inhabited

structure NormalizedMessage where
  role : MessageRole
  blocks : List InputBlock
deriving Repr, Inhabited

inductive ToolChoice where
  | auto (disableParallel : Bool)
  | any (disableParallel : Bool)
  | none
  | tool (name : String) (disableParallel : Bool)
deriving DecidableEq, Repr, Inhabited

structure NormalizedRequest where
  originalModel : String
  maxTokens : Nat
  messages : List NormalizedMessage
  temperature : Option F64
  topP : Option F64
  stopSequences : List String
  tools : List ToolDefinition
  toolChoice : Option ToolChoice
  stream : Bool
deriving Repr, Inhabited

structure Usage where
  inputTokens : Nat
  outputTokens : Nat
deriving DecidableEq, Repr, Inhabited

inductive OutputBlock where
  | text (text : String)
  | toolUse (id name : String) (input : Value)
deriving Repr, Inhabited

structure AnthropicResponse where
  id : String
  kind : String
  role : String
  model : String
  content : List OutputBlock
  stopReason : Option String
  stopSequence : Option String
  usage : Usage
deriving Repr, Inhabited

inductive StopReason where
  | endTurn
  | maxTokens
  | toolUse
  | refusal
deriving DecidableEq, Repr, Inhabited

def StopReason.asStr : StopReason → String
  | .endTurn => "end_turn"
  | .maxTokens => "max_tokens"
  | .toolUse => "tool_use"
  | .refusal => "refusal"

inductive ProviderEvent where
  | text (text : String)
  | toolStart (index : Nat) (id name : String)
  | toolDelta (index : Nat) (arguments : String)
  | finished (reason : StopReason) (usage : Option Usage)
  | usage (usage : Usage)
deriving DecidableEq, Repr, Inhabited

/-- What the code reads off a parsed URL. -/
structure Url where
  scheme : String
  username : String
  password : Option String
deriving DecidableEq, Repr, Inhabited

/-- The entry points of third-party crates that the translation calls. Printing a `Value` cannot
fail: every key of its objects is a string. -/
structure Crates where
  /-- `serde_json::from_str::<Value>`, with the text of its error. -/
  fromStr : String → Except String Value
  /-- `serde_json::to_string` and `Value::to_string`. -/
  toJson : Value → String
  /-- `base64::engine::general_purpose::STANDARD.decode`. -/
  base64Decode : String → Option (List UInt8)
  /-- `reqwest::Url::parse`, with the text of its error. -/
  urlParse : String → Except String Url

end ClaudeProxy
