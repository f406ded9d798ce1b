/-
Module: ClaudeProxy.Provider.Probe
Layer: Model
Purpose: The probe of a provider (`Provider::probe` in `src/provider.rs`): a request for the models of
  the endpoint, with the credential of the provider and without a body.
Trusted boundary: human-reviewed model
Main exports: modelsUrl, ProbeRequest, Provider.probeRequest, probeOutcome, Provider.probe
-/
import ClaudeProxy.Provider.Send

namespace ClaudeProxy

def modelsUrl (endpoint : String) : String := s!"{endpoint}/models"

structure ProbeRequest where
  url : String
  headers : Headers
deriving Repr, Inhabited

section Probe

variable (crates : Crates) (environment : Environment)

/-- The request that `probe` makes. -/
def Provider.probeRequest (provider : Provider) : Except ProxyError ProbeRequest := do
  let secret ← provider.credential.secret.resolve environment
  pure
    { url := modelsUrl provider.endpoint
      headers := Headers.orElse [authHeader provider secret] provider.clientHeaders }

/-- What `probe` makes of a reply. A body that cannot be read counts as empty. -/
def probeOutcome : Reply → Except ProxyError Unit
  | .broken error => .error (classifyTransport error)
  | .answered response =>
      if 200 ≤ response.status ∧ response.status < 300 then .ok ()
      else .error (classifyStatus crates environment response.status (response.text.getD "") none)

def Provider.probe (provider : Provider) (reply : ProbeRequest → Reply) : Except ProxyError Unit := do
  let request ← provider.probeRequest environment
  probeOutcome crates environment (reply request)

end Probe

end ClaudeProxy
