/-
Module: ClaudeProxy.Provider.Response
Layer: Model
Purpose: The answer of a provider to a request that does not stream, and its translation
  (`convert_response` in `src/provider.rs`, `response_content` in `src/anthropic.rs`).
Trusted boundary: human-reviewed model
Main exports: OpenAiResponse, convertResponse, responseContent
-/
import ClaudeProxy.Provider.Sse

namespace ClaudeProxy

structure OpenAiFunction where
  name : String
  arguments : String
deriving DecidableEq, Repr, Inhabited

structure OpenAiToolCall where
  id : String
  function : OpenAiFunction
deriving DecidableEq, Repr, Inhabited

structure OpenAiMessage where
  content : Option String := none
  refusal : Option String := none
  toolCalls : List OpenAiToolCall := []
deriving DecidableEq, Repr, Inhabited

structure OpenAiChoice where
  message : OpenAiMessage
  finishReason : Option String
deriving DecidableEq, Repr, Inhabited

structure OpenAiUsage where
  promptTokens : Nat
  completionTokens : Nat
deriving DecidableEq, Repr, Inhabited

structure OpenAiResponse where
  id : String
  choices : List OpenAiChoice
  usage : Option OpenAiUsage := none
deriving DecidableEq, Repr, Inhabited

def responseContent (text : Option String) (tools : List OutputBlock) : List OutputBlock :=
  let shown := text.filter (· ≠ "")
  let output := (shown.map OutputBlock.text).toList ++ tools
  if output.isEmpty then [.text ""] else output

/-- One tool call of the answer, as a block: its arguments must be JSON. -/
def convertToolCall (crates : Crates) (call : OpenAiToolCall) : Except ProxyError OutputBlock :=
  match crates.fromStr call.function.arguments with
  | .ok input => .ok (.toolUse call.id call.function.name input)
  | .error _ => .error (ProxyError.new .upstream "provider returned invalid tool-call JSON")

def convertResponse (crates : Crates) (response : OpenAiResponse) (model : String) :
    Except ProxyError AnthropicResponse :=
  match response.choices with
  | [] => .error (ProxyError.new .upstream "provider response contains no choices")
  | choice :: _ => do
      let text := choice.message.content.or choice.message.refusal
      let tools ← choice.message.toolCalls.mapM (convertToolCall crates)
      let reason ← mapStopReason choice.finishReason
      let usage := match response.usage with
        | some usage =>
            { inputTokens := usage.promptTokens, outputTokens := usage.completionTokens }
        | none => { inputTokens := 0, outputTokens := 0 }
      pure
        { id := response.id
          kind := "message"
          role := "assistant"
          model := model
          content := responseContent text tools
          stopReason := some reason.asStr
          stopSequence := none
          usage := usage }

end ClaudeProxy
