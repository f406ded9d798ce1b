/-
Module: ClaudeProxy.Anthropic.CountTokens
Layer: Model
Purpose: The estimate of a request's input tokens (`count_tokens` in `src/anthropic.rs`).
Trusted boundary: human-reviewed model
Main exports: blockTokens, toolTokens, countTokens
-/
import ClaudeProxy.Config
import Mathlib.Algebra.GroupWithZero.Nat

namespace ClaudeProxy

/-- The tokens of a block. An image counts a constant. -/
def blockTokens (crates : Crates) (encoded : String → Nat) : InputBlock → Nat
  | .text text => encoded text
  | .image _ _ => 85
  | .toolUse _ name input => encoded (name ++ crates.toJson input) + 8
  | .toolResult _ content _ => encoded (crates.toJson content) + 4

def toolTokens (crates : Crates) (encoded : String → Nat) (tool : ToolDefinition) : Nat :=
  encoded (tool.name ++ tool.description.getD "" ++ crates.toJson tool.inputSchema) + 8

def loadTokenizer (environment : Environment) (tokenizer : String) :
    Except ProxyError (String → Nat) := do
  rejectIf (tokenizer ≠ "o200k_base" ∧ tokenizer ≠ "cl100k_base")
    (.invalid s!"unsupported tokenizer profile {tokenizer}")
  (environment.tokenizer tokenizer).mapError fun error =>
    .invalid s!"failed to initialize tokenizer: {error}"

def countTokens (crates : Crates) (environment : Environment) (request : NormalizedRequest)
    (tokenizer : String) : Except ProxyError Nat := do
  let encoded ← loadTokenizer environment tokenizer
  let messages := (request.messages.map fun message =>
    4 + (message.blocks.map (blockTokens crates encoded)).sum).sum
  let tools := (request.tools.map (toolTokens crates encoded)).sum
  pure (max (3 + messages + tools) 1)

end ClaudeProxy
