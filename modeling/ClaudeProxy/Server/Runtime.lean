/-
Module: ClaudeProxy.Server.Runtime
Layer: Model
Purpose: What a configuration is built into (`Runtime::new` in `src/server.rs`), and which runtime the
  process has after a SIGHUP (`spawn_reload` in `src/main.rs`).
Trusted boundary: human-reviewed model
Main exports: Runtime, Runtime.new, Runtime.limits, Runtime.reload
-/
import ClaudeProxy.Routing
import ClaudeProxy.Server.Admission

namespace ClaudeProxy

structure Runtime where
  config : AppConfig
  auth : AuthRegistry
  router : Router

/-- `Semaphore::MAX_PERMITS` on a 64-bit target. -/
def maxPermits : Nat := 2 ^ 61 - 1

/-- `none` if the global semaphore panics at the number of its permits. -/
def Runtime.new (crates : Crates) (environment : Environment) (hashKey : String → Digest)
    (config : AppConfig) : Option (Except ProxyError Runtime) :=
  let parts : Except ProxyError (AuthRegistry × Router) := do
    config.validate crates environment
    let auth ← AuthRegistry.new environment hashKey config.clients
    let router ← Router.new environment config
    pure (auth, router)
  match parts with
  | .error error => some (.error error)
  | .ok (auth, router) =>
      if config.limits.globalConcurrency ≤ maxPermits then
        some (.ok { config := config, auth := auth, router := router })
      else none

/-- The limits that the runtime starts with. -/
def Runtime.limits (runtime : Runtime) : Limits :=
  .fresh runtime.auth runtime.config.limits.globalConcurrency

/-- The runtime after a reload: the loaded one, unless there is none or its server section is another
one. -/
def Runtime.reload (current : Runtime) (loaded : Except ProxyError Runtime) : Runtime :=
  match loaded with
  | .ok runtime => if runtime.config.server = current.config.server then runtime else current
  | .error _ => current

/-- A client's identity has the limits of its configuration. -/
theorem AuthRegistry.new_limits {environment : Environment} {hashKey : String → Digest}
    {configs : List ClientConfig} {registry : AuthRegistry}
    (built : AuthRegistry.new environment hashKey configs = .ok registry) {client : Nat}
    {config : ClientConfig} (configured : configs[client]? = some config) :
    ∃ identity, registry[client]? = some identity ∧
      identity.requestsPerMinute = config.requestsPerMinute ∧
      identity.concurrency = config.concurrentRequests := by
  have each := Library.Except.mapM_eq_ok.mp built
  obtain ⟨bound, rfl⟩ := List.getElem?_eq_some_iff.mp configured
  have sameLength := each.length_eq
  refine ⟨registry[client], List.getElem?_eq_getElem (sameLength ▸ bound), ?_⟩
  have made := each.get bound (sameLength ▸ bound)
  simp only [ClientIdentity.new, Library.Except.bind_eq_ok] at made
  obtain ⟨key, _, _, _, same⟩ := made
  have identityEq := Except.ok.inj same
  simp only [List.get_eq_getElem] at identityEq
  rw [← identityEq]
  exact ⟨rfl, rfl⟩

theorem Runtime.new_eq_ok {crates : Crates} {environment : Environment}
    {hashKey : String → Digest} {config : AppConfig} {runtime : Runtime}
    (built : Runtime.new crates environment hashKey config = some (.ok runtime)) :
    runtime.config = config ∧ config.validate crates environment = .ok () ∧
      AuthRegistry.new environment hashKey config.clients = .ok runtime.auth ∧
      Router.new environment config = .ok runtime.router := by
  simp only [Runtime.new] at built
  split at built
  case h_1 error failed => cases built
  case h_2 auth router parts =>
    simp only [Library.Except.bind_eq_ok] at parts
    obtain ⟨_, valid, _, isAuth, _, isRouter, same⟩ := parts
    cases same
    split at built
    · cases built
      exact ⟨rfl, valid, isAuth, isRouter⟩
    · cases built

end ClaudeProxy
