/-
Module: ClaudeProxy.Provider.Adapt
Layer: Model
Purpose: How a request is fitted to what a provider can do (`Provider::adapt_request` in
  `src/provider.rs`): each feature the provider lacks is given up where the profile allows it, and
  rejects the request where not.
Trusted boundary: human-reviewed model
Main exports: fallback, adaptBlock, adaptMessage, adaptRequest, validateRequest
-/
import ClaudeProxy.Config

namespace ClaudeProxy

/-! ### Features with a fallback -/

/-- A feature that the target may lack: the fallback is taken where the profile allows it. -/
def fallback {α : Type} (lacking allowed : Prop) [Decidable lacking] [Decidable allowed]
    (adapted : α) (message : String) (unchanged : α) : Except ProxyError α :=
  if lacking then
    if allowed then .ok adapted else .error (.invalid message)
  else .ok unchanged

def adaptMaxTokens (capabilities : CapabilityProfile) (request : NormalizedRequest) :
    Except ProxyError NormalizedRequest :=
  fallback (capabilities.maxOutputTokens < request.maxTokens)
    (capabilities.allowMaxTokensClamping = true)
    { request with maxTokens := capabilities.maxOutputTokens }
    s!"max_tokens exceeds target limit {capabilities.maxOutputTokens}" request

def adaptTemperature (capabilities : CapabilityProfile) (request : NormalizedRequest) :
    Except ProxyError NormalizedRequest :=
  fallback (request.temperature.isSome = true ∧ capabilities.supportsTemperature = false)
    (capabilities.allowTemperatureFallback = true)
    { request with temperature := none }
    "target does not support temperature" request

def adaptTopP (capabilities : CapabilityProfile) (request : NormalizedRequest) :
    Except ProxyError NormalizedRequest :=
  fallback (request.topP.isSome = true ∧ capabilities.supportsTopP = false)
    (capabilities.allowTopPFallback = true)
    { request with topP := none }
    "target does not support top_p" request

def adaptStop (capabilities : CapabilityProfile) (request : NormalizedRequest) :
    Except ProxyError NormalizedRequest :=
  fallback (request.stopSequences ≠ [] ∧ capabilities.supportsStop = false)
    (capabilities.allowStopFallback = true)
    { request with stopSequences := [] }
    "target does not support stop sequences" request

/-- Whether a tool choice leaves parallel calls open. -/
def ToolChoice.allowsParallel : ToolChoice → Bool
  | .auto disableParallel => !disableParallel
  | .any disableParallel => !disableParallel
  | .none => false
  | .tool _ disableParallel => !disableParallel

def ToolChoice.withoutParallel : ToolChoice → ToolChoice
  | .auto _ => .auto true
  | .any _ => .any true
  | .none => .none
  | .tool name _ => .tool name true

def adaptToolChoice (capabilities : CapabilityProfile) (request : NormalizedRequest) :
    Except ProxyError NormalizedRequest :=
  fallback ((request.toolChoice.any ToolChoice.allowsParallel) = true ∧
      capabilities.parallelTools = false)
    (capabilities.allowParallelToolFallback = true)
    { request with toolChoice := request.toolChoice.map ToolChoice.withoutParallel }
    "target does not support parallel tools" request

/-! ### Content -/

def adaptBlock (crates : Crates) (capabilities : CapabilityProfile) :
    InputBlock → Except ProxyError InputBlock
  | .text text => .ok (.text text)
  | .image mediaType data => do
      rejectIf (capabilities.vision = false) (.invalid "target does not support image input")
      pure (.image mediaType data)
  | .toolUse id name input => .ok (.toolUse id name input)
  | .toolResult toolUseId content isError =>
      fallback (content.isString = false)
        (capabilities.allowStructuredToolResultsToString = true)
        (.toolResult toolUseId (.string (crates.toJson content)) isError)
        "structured or multimodal tool results are not supported by Chat Completions targets"
        (.toolResult toolUseId content isError)

def adaptMessage (crates : Crates) (capabilities : CapabilityProfile)
    (message : NormalizedMessage) : Except ProxyError NormalizedMessage := do
  let blocks ← message.blocks.mapM (adaptBlock crates capabilities)
  pure { message with blocks := blocks }

def adaptRequest (crates : Crates) (capabilities : CapabilityProfile) (request : NormalizedRequest) :
    Except ProxyError NormalizedRequest := do
  let adapted ← adaptMaxTokens capabilities request
  let adapted ← adaptTemperature capabilities adapted
  let adapted ← adaptTopP capabilities adapted
  let adapted ← adaptStop capabilities adapted
  rejectIf (adapted.tools ≠ [] ∧ capabilities.tools = false)
    (.invalid "target does not support tools")
  let adapted ← adaptToolChoice capabilities adapted
  let messages ← adapted.messages.mapM (adaptMessage crates capabilities)
  pure { adapted with messages := messages }

def validateRequest (crates : Crates) (capabilities : CapabilityProfile)
    (request : NormalizedRequest) : Except ProxyError Unit := do
  let _ ← adaptRequest crates capabilities request
  pure ()

end ClaudeProxy
