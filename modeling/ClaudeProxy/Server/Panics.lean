/-
Module: ClaudeProxy.Server.Panics
Layer: Model
Purpose: The operations of a runtime that can panic: the construction of its semaphores (`Runtime::new`
  in `src/server.rs`, `AuthRegistry::new` in `src/auth.rs`), the circuits under their locks
  (`src/provider.rs`), the lookups and draws of the router (`src/routing.rs`) and the rate limiter
  (`src/auth.rs`). Any number of calls go on at once; one step is what happens under one lock, or
  between two. A panic ends its call and leaves the rest of the runtime as it is. `resolve` and
  `allows_route` share nothing and cannot panic.
Trusted boundary: human-reviewed model. Arithmetic on `u32` wraps around, as in a release build; the
  sum of a route's weights is exact, since it would take 2^32 targets to overflow it.
Main exports: clockMin, subDuration, PendingCall, Operation, Shared, Shared.step, Runtime.start,
  Observed
-/
import ClaudeProxy.Library.Mutex
import ClaudeProxy.Server.Runtime

namespace ClaudeProxy

open Library

/-! ### The clock -/

/-- The first instant. -/
def clockMin : Int := -(2 ^ 63 * nanosecondsPerSecond : Nat)

/-- `Instant - Duration`; `none` if it panics. -/
def subDuration (now : Instant) (duration : Nat) : Option Int :=
  if clockMin ≤ (now : Int) - duration then some (now - duration) else none

/-! ### Candidates -/

/-- A call of `candidates` that has some targets still to look at. -/
structure PendingCall where
  request : NormalizedRequest
  remaining : List TargetConfig
  compatible : List Candidate := []
  capabilityError : Option ProxyError := none
deriving Repr, Inhabited

/-- One pass of the loop of `candidates`. -/
def PendingCall.examine (crates : Crates) (router : Router) (now : Instant) (target : TargetConfig)
    (call : PendingCall) (circuits : Circuits) : Option PendingCall × Circuits :=
  match router.providers.lookup target.provider with
  | none => (none, circuits)
  | some provider =>
      match adaptRequest crates provider.capabilities call.request with
      | .error error =>
          (some { call with capabilityError := some (call.capabilityError.getD error) }, circuits)
      | .ok adapted =>
          let (available, circuits) := provider.available now circuits
          (available.map fun available =>
            if available = true then
              { call with
                compatible := call.compatible ++
                  [{ provider := provider, target := target, request := adapted }] }
            else call,
          circuits)

/-- The outer loop of `weighted_priority_order`. A draw from an empty range panics, and so would the
removal of a candidate that is not there. -/
def drawOrderOrPanic (draws : Nat → Nat) : Nat → List Candidate → Option (List Candidate)
  | 0, _ => some []
  | left + 1, candidates =>
      let total := ((leadingTier candidates).map (·.target.weight)).sum
      if total = 0 then none
      else
        let selected := selectTarget (leadingTier candidates) (draws left)
        match candidates[selected]? with
        | none => none
        | some candidate =>
            (drawOrderOrPanic draws left (candidates.eraseIdx selected)).map (candidate :: ·)

def weightedPriorityOrderOrPanic (draws : Nat → Nat) (candidates : List Candidate) :
    Option (List Candidate) :=
  let sorted := candidates.mergeSort fun first second =>
    first.target.priority ≤ second.target.priority
  drawOrderOrPanic draws sorted.length sorted

/-- What `candidates` returns after its loop; `none` if it panics. -/
def PendingCall.finish (draws : Nat → Nat) (call : PendingCall) :
    Option (Except ProxyError (List Candidate)) :=
  if call.compatible.isEmpty = true then
    some (.error (call.capabilityError.getD openCircuits))
  else (weightedPriorityOrderOrPanic draws call.compatible).map .ok

/-! ### The limiter -/

/-- The locked part of `acquire`. -/
def limiterSection (identity : ClientIdentity) (now : Instant) (limiter : List Instant) :
    Option (Except ProxyError Unit) × List Instant :=
  let (outcome, limits) := identity.checkRate now { limiter := limiter, permits := 0 }
  (some outcome, limits.limiter)

/-- `acquire` up to its semaphore, for the client at a place. -/
def ClientIdentity.checkRateUnderLock (identity : ClientIdentity) (client : Nat) (now : Instant)
    (limiters : Locks Nat (List Instant)) :
    Option (Except ProxyError Unit) × Locks Nat (List Instant) :=
  match subDuration now rateWindow with
  | none => (none, limiters)
  | some _ => limiters.withLock client (limiterSection identity now)

/-! ### A runtime at work -/

/-- What the operations of a runtime share, and the calls of `candidates` that go on. -/
structure Shared where
  circuits : Circuits := .fresh {}
  limiters : Locks Nat (List Instant) := .fresh []
  clientPermits : List Semaphore
  globalPermits : Semaphore
  calls : List PendingCall := []

/-- The things that can happen next. Routes, providers, clients and calls are named by their places
or ids; a name that nothing has stands for nothing happening. -/
inductive Operation where
  /-- `candidates` is called for a route. -/
  | begin (route : Nat) (request : NormalizedRequest)
  /-- A call looks at its next target. -/
  | examine (call : Nat) (now : Instant)
  /-- A call that has looked at all targets puts the compatible ones in order. -/
  | finish (call : Nat) (draws : Nat → Nat)
  | recordSuccess (provider : String)
  | recordFailure (provider : String) (now : Instant) (error : ProxyError)
  | checkRate (client : Nat) (now : Instant)
  | acquireClient (client : Nat)
  | releaseClient (client : Nat)
  | acquireGlobal
  | releaseGlobal

/-- Every reading of the clock in an operation is within a bound. -/
def Operation.Within (horizon : Instant) : Operation → Prop
  | .examine _ now | .recordFailure _ now _ | .checkRate _ now => now ≤ horizon
  | _ => True

namespace Shared

/-- A call looks at its next target. A panic ends the call. -/
def examine (crates : Crates) (runtime : Runtime) (shared : Shared) (place : Nat) (now : Instant) :
    Option Unit × Shared :=
  match shared.calls[place]? with
  | none => (some (), shared)
  | some call =>
      match call.remaining with
      | [] => (some (), shared)
      | target :: rest =>
          match call.examine crates runtime.router now target shared.circuits with
          | (none, circuits) =>
              (none, { shared with circuits := circuits, calls := shared.calls.eraseIdx place })
          | (some call, circuits) =>
              (some (),
                { shared with
                  circuits := circuits
                  calls := shared.calls.set place { call with remaining := rest } })

/-- A call returns or panics. -/
def finish (shared : Shared) (place : Nat) (draws : Nat → Nat) : Option Unit × Shared :=
  match shared.calls[place]? with
  | none => (some (), shared)
  | some call =>
      if call.remaining = [] then
        ((call.finish draws).map fun _ => (),
          { shared with calls := shared.calls.eraseIdx place })
      else (some (), shared)

/-- A permit that was handed out is dropped. -/
def releasePermit (semaphore : Semaphore) : Option Unit × Semaphore :=
  if semaphore.taken = 0 then (some (), semaphore)
  else
    match semaphore.release maxPermits with
    | none => (none, semaphore)
    | some filled => (some (), filled)

/-- One operation, and whether it returns: `none` if it panics. -/
def step (crates : Crates) (runtime : Runtime) (shared : Shared) :
    Operation → Option Unit × Shared
  | .begin route request =>
      match runtime.router.routes[route]? with
      | none => (some (), shared)
      | some route =>
          (some (),
            { shared with
              calls := shared.calls ++ [{ request := request, remaining := route.targets }] })
  | .examine place now => shared.examine crates runtime place now
  | .finish place draws => shared.finish place draws
  | .recordSuccess id =>
      match runtime.router.providers.lookup id with
      | none => (some (), shared)
      | some provider =>
          let (returned, circuits) := provider.recordSuccess shared.circuits
          (returned, { shared with circuits := circuits })
  | .recordFailure id now error =>
      match runtime.router.providers.lookup id with
      | none => (some (), shared)
      | some provider =>
          let (returned, circuits) := provider.recordFailure now error shared.circuits
          (returned, { shared with circuits := circuits })
  | .checkRate client now =>
      match runtime.auth[client]? with
      | none => (some (), shared)
      | some identity =>
          let (outcome, limiters) := identity.checkRateUnderLock client now shared.limiters
          (outcome.map fun _ => (), { shared with limiters := limiters })
  | .acquireClient client =>
      match shared.clientPermits[client]? with
      | none => (some (), shared)
      | some semaphore =>
          (some (),
            { shared with clientPermits := shared.clientPermits.set client semaphore.tryAcquire.2 })
  | .releaseClient client =>
      match shared.clientPermits[client]? with
      | none => (some (), shared)
      | some semaphore =>
          let (returned, semaphore) := releasePermit semaphore
          (returned, { shared with clientPermits := shared.clientPermits.set client semaphore })
  | .acquireGlobal => (some (), { shared with globalPermits := shared.globalPermits.tryAcquire.2 })
  | .releaseGlobal =>
      let (returned, semaphore) := releasePermit shared.globalPermits
      (returned, { shared with globalPermits := semaphore })

end Shared

/-- What a new runtime shares: closed circuits, empty limiters and full semaphores. `none` if one of
the semaphores panics. -/
def Runtime.share (runtime : Runtime) : Option Shared := do
  let clientPermits ← runtime.auth.mapM fun identity =>
    Semaphore.new maxPermits identity.concurrency
  let globalPermits ← Semaphore.new maxPermits runtime.config.limits.globalConcurrency
  pure { clientPermits := clientPermits, globalPermits := globalPermits }

/-- A runtime and what it shares, from a configuration; `none` if the construction panics. -/
def Runtime.start (crates : Crates) (environment : Environment) (hashKey : String → Digest)
    (config : AppConfig) : Option (Except ProxyError (Runtime × Shared)) :=
  match Runtime.new crates environment hashKey config with
  | none => none
  | some (.error error) => some (.error error)
  | some (.ok runtime) => runtime.share.map fun shared => .ok (runtime, shared)

/-- A runtime at work, and whether some operation has panicked. -/
structure Observed where
  shared : Shared
  panicked : Bool := false

def Observed.step (crates : Crates) (runtime : Runtime) (observed : Observed)
    (operation : Operation) : Observed :=
  let (returned, shared) := observed.shared.step crates runtime operation
  { shared := shared, panicked := observed.panicked || returned.isNone }

end ClaudeProxy
