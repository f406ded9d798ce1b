/-
Module: ClaudeProxy.Client.Dialogue
Layer: Abstraction
Purpose: A client that works with tools, stated from its own side. It takes the content of an answer
  as it stands, puts it into the conversation as a message of the assistant, and goes on with a message
  of the user that answers every call of the answer once. None of this is taken from the proxy's code.
Trusted boundary: human-reviewed specification
Main exports: CallResult, ToolReply, Round, Round.FollowsUp, echoed, dialogue
-/
import ClaudeProxy.Anthropic.Serialize

namespace ClaudeProxy

/-- What a tool gave, for the call with an id. -/
structure CallResult where
  toolUseId : String
  content : Value
  isError : Bool
deriving Repr, Inhabited

def CallResult.toValue (result : CallResult) : Value :=
  .obj [("type", .string "tool_result"), ("tool_use_id", .string result.toolUseId),
    ("content", result.content), ("is_error", .bool result.isError)]

/-- A message of the user: the results of tools, and what the user adds to them. -/
structure ToolReply where
  results : List CallResult
  texts : List String
deriving Repr, Inhabited

def ToolReply.content (reply : ToolReply) : List Value :=
  reply.results.map CallResult.toValue ++
    reply.texts.map fun text => .obj [("type", .string "text"), ("text", .string text)]

/-- An answer that the client has got, as the body says it, and the reply to it. -/
structure Round where
  answer : Value
  reply : ToolReply
deriving Inhabited

/-- The message of the assistant that the client makes of an answer. -/
def echoed (answer : Value) : InputMessage where
  role := (answer.strAt "role").getD ""
  content := (answer.get "content").getD .null

def Round.messages (round : Round) : List InputMessage :=
  [echoed round.answer, { role := "user", content := .array round.reply.content }]

/-- The calls of an answer, by their ids. -/
def calledIds (content : List OutputBlock) : List String :=
  content.filterMap fun
    | .text _ => none
    | .toolUse id _ _ => some id

/-- A reply that is not empty and has one result for each call, in any order. -/
structure ToolReply.FollowsUp (reply : ToolReply) (content : List OutputBlock) : Prop where
  answers : (reply.results.map (·.toolUseId)).Perm (calledIds content)
  speaks : reply.content ≠ []

/-- The conversation after some rounds, with all else of the request as it was. -/
def dialogue (request : AnthropicRequest) (rounds : List Round) : AnthropicRequest :=
  { request with messages := request.messages ++ rounds.flatMap Round.messages }

end ClaudeProxy
