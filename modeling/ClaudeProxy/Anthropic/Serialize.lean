/-
Module: ClaudeProxy.Anthropic.Serialize
Layer: Model
Purpose: The body of an answer that does not stream: the derived `Serialize` of `AnthropicResponse` and
  its parts (`src/domain.rs`), as the `Json` responder of `messages_inner` writes it.
Trusted boundary: human-reviewed model
Main exports: OutputBlock.toValue, Usage.toValue, AnthropicResponse.toValue
-/
import ClaudeProxy.Domain

namespace ClaudeProxy

/-- The variants are tagged by `type`. -/
def OutputBlock.toValue : OutputBlock → Value
  | .text written => .obj [("type", .string "text"), ("text", .string written)]
  | .toolUse id name input =>
      .obj [("type", .string "tool_use"), ("id", .string id), ("name", .string name),
        ("input", input)]

def Usage.toValue (usage : Usage) : Value :=
  .obj [("input_tokens", .num usage.inputTokens), ("output_tokens", .num usage.outputTokens)]

/-- An absent stop reason or stop sequence is written as `null`. -/
def AnthropicResponse.toValue (response : AnthropicResponse) : Value :=
  .obj [("id", .string response.id), ("type", .string response.kind),
    ("role", .string response.role), ("model", .string response.model),
    ("content", .array (response.content.map OutputBlock.toValue)),
    ("stop_reason", (response.stopReason.map Value.string).getD .null),
    ("stop_sequence", (response.stopSequence.map Value.string).getD .null),
    ("usage", response.usage.toValue)]

end ClaudeProxy
