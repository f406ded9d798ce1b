/-
Module: ClaudeProxy.Server.Admission
Layer: Model
Purpose: The admission of requests (`acquire` in `src/auth.rs` and the start of `messages_inner` and
  `count_tokens` in `src/server.rs`) and the reload that swaps in a new runtime (`spawn_reload` in
  `src/main.rs`). `Limits.admission` is the admission of one request with nothing in between; in
  `Admissions` any number of requests take its steps in any order, each on the runtime that it loaded
  when it came.
Trusted boundary: human-reviewed model
Main exports: Limits, Limits.fresh, Limits.admission, Stage, Visit, Generation, Admissions,
  AdmissionMove, Admissions.step
-/
import ClaudeProxy.Auth

namespace ClaudeProxy

/-! ### One request at a time -/

/-- What of a runtime changes: its clients' limits, and the permits of all `/v1/messages` requests
together. -/
structure Limits where
  clients : Nat → ClientLimits
  global : Nat

/-- The limits of a new runtime. -/
def Limits.fresh (registry : AuthRegistry) (globalConcurrency : Nat) : Limits where
  clients client := { permits := (registry[client]?.map (·.concurrency)).getD 0 }
  global := globalConcurrency

def Limits.set (client : Nat) (state : ClientLimits) (limits : Limits) : Limits :=
  { limits with clients := fun other => if other = client then state else limits.clients other }

def globalExceeded : ProxyError := .new .overloaded "proxy concurrency limit exceeded"

def Limits.acquireGlobal (limits : Limits) : Except ProxyError Unit × Limits :=
  if limits.global = 0 then (.error globalExceeded, limits)
  else (.ok (), { limits with global := limits.global - 1 })

def Limits.releaseGlobal (limits : Limits) : Limits :=
  { limits with global := limits.global + 1 }

def Limits.releasePermit (client : Nat) (limits : Limits) : Limits :=
  limits.set client (limits.clients client).releasePermit

/-- The admission of a `/v1/messages` request: the client's limits, then the global one. The client's
permit is dropped if the global one is not to be had. -/
def Limits.admission (identity : ClientIdentity) (client : Nat) (now : Instant) (limits : Limits) :
    Except ProxyError Unit × Limits :=
  match identity.acquire now (limits.clients client) with
  | (.error error, after) => (.error error, limits.set client after)
  | (.ok _, after) =>
      match (limits.set client after).acquireGlobal with
      | (.ok _, limits) => (.ok (), limits)
      | (.error error, limits) => (.error error, limits.releasePermit client)

/-! ### Many requests at once -/

inductive ApiEndpoint where
  | messages
  | countTokens
deriving DecidableEq, Repr, Inhabited

/-- How far a request has come: it has loaded the runtime, read the clock, passed the rate check, got
its client's permit, got a global permit. A request to `count_tokens` asks for no global permit. -/
inductive Stage where
  | arrived
  | timed (now : Instant)
  | counted
  | permitted
  | admitted
deriving DecidableEq, Repr, Inhabited

/-- A request in progress, with the runtime it loaded. -/
structure Visit where
  generation : Nat
  client : Nat
  endpoint : ApiEndpoint
  stage : Stage
deriving DecidableEq, Repr, Inhabited

def Visit.holdsPermit (visit : Visit) : Bool :=
  match visit.stage with
  | .permitted | .admitted => true
  | _ => false

def Visit.holdsGlobal (visit : Visit) : Bool := visit.stage = .admitted

/-- The limits of a runtime, and for each client the readings of the requests that passed its rate
check and of those that have been popped off its limiter. -/
structure Generation where
  limits : Limits
  passed : Nat → List Instant := fun _ => []
  evicted : Nat → List Instant := fun _ => []

/-- The clock, the runtimes in the order in which they were swapped in, and the requests in
progress. -/
structure Admissions where
  clock : Instant := 0
  generations : List Generation
  visits : List Visit := []

/-- Time passes, a request is authenticated, takes its next step or comes to its end, or the
configuration, which has not changed, is reloaded. -/
inductive AdmissionMove where
  | tick (elapsed : Nat)
  | arrive (client : Nat) (endpoint : ApiEndpoint)
  | advance (index : Nat)
  | leave (index : Nat)
  | reload
deriving DecidableEq, Repr, Inhabited

namespace Admissions

/-- What a step of a request leaves behind: the request further on or gone, and its runtime. -/
def settle (index : Nat) (visit : Visit) (next : Option Stage) (generation : Generation)
    (state : Admissions) : Admissions :=
  { state with
    generations := state.generations.set visit.generation generation
    visits := match next with
      | some stage => state.visits.set index { visit with stage := stage }
      | none => state.visits.eraseIdx index }

end Admissions

namespace Generation

/-- The entries that the rate check of a request pops off. -/
def expired (client : Nat) (now : Instant) (generation : Generation) : List Instant :=
  (generation.limits.clients client).limiter.takeWhile fun timestamp => timestamp + rateWindow ≤ now

/-- The critical section of a request: whether the request passes, and the runtime after it. -/
def checkRate (identity : ClientIdentity) (client : Nat) (now : Instant)
    (generation : Generation) : Except ProxyError Unit × Generation :=
  let (outcome, after) := identity.checkRate now (generation.limits.clients client)
  (outcome,
    { limits := generation.limits.set client after
      passed := fun other =>
        if other = client ∧ outcome.isOk = true then generation.passed client ++ [now]
        else generation.passed other
      evicted := fun other =>
        if other = client then generation.evicted client ++ generation.expired client now
        else generation.evicted other })

def acquirePermit (client : Nat) (generation : Generation) :
    Except ProxyError Unit × Generation :=
  let (outcome, after) := (generation.limits.clients client).acquirePermit
  (outcome, { generation with limits := generation.limits.set client after })

def acquireGlobal (generation : Generation) : Except ProxyError Unit × Generation :=
  let (outcome, after) := generation.limits.acquireGlobal
  (outcome, { generation with limits := after })

def releasePermit (client : Nat) (generation : Generation) : Generation :=
  { generation with limits := generation.limits.releasePermit client }

def releaseGlobal (generation : Generation) : Generation :=
  { generation with limits := generation.limits.releaseGlobal }

/-- What a request holds is dropped with it. -/
def release (visit : Visit) (generation : Generation) : Generation :=
  let generation := if visit.holdsGlobal = true then generation.releaseGlobal else generation
  if visit.holdsPermit = true then generation.releasePermit visit.client else generation

end Generation

section Steps

variable (registry : AuthRegistry) (globalConcurrency : Nat)

def Generation.fresh : Generation := { limits := .fresh registry globalConcurrency }

/-- The next step of a request, by how far it has come: the stage it reaches, if it is not refused,
and its runtime after the step. -/
def Visit.advance (identity : ClientIdentity) (clock : Instant) (generation : Generation)
    (visit : Visit) : Option Stage × Generation :=
  match visit.stage with
  | .arrived => (some (.timed clock), generation)
  | .timed now =>
      match generation.checkRate identity visit.client now with
      | (.ok _, generation) => (some .counted, generation)
      | (.error _, generation) => (none, generation)
  | .counted =>
      match generation.acquirePermit visit.client with
      | (.ok _, generation) => (some .permitted, generation)
      | (.error _, generation) => (none, generation)
  | .permitted =>
      match visit.endpoint with
      | .countTokens => (some .permitted, generation)
      | .messages =>
          match generation.acquireGlobal with
          | (.ok _, generation) => (some .admitted, generation)
          | (.error _, generation) => (none, generation.releasePermit visit.client)
  | .admitted => (some .admitted, generation)

/-- A request in progress with its identity and its runtime. -/
def Admissions.find (index : Nat) (state : Admissions) :
    Option (Visit × ClientIdentity × Generation) := do
  let visit ← state.visits[index]?
  let identity ← registry[visit.client]?
  let generation ← state.generations[visit.generation]?
  pure (visit, identity, generation)

def Admissions.step (state : Admissions) : AdmissionMove → Admissions
  | .tick elapsed => { state with clock := state.clock + elapsed }
  | .arrive client endpoint =>
      { state with
        visits := state.visits ++
          [{ generation := state.generations.length - 1, client := client, endpoint := endpoint
             stage := .arrived }] }
  | .advance index =>
      match state.find registry index with
      | some (visit, identity, generation) =>
          let (next, generation) := visit.advance identity state.clock generation
          state.settle index visit next generation
      | none => state
  | .leave index =>
      match state.find registry index with
      | some (visit, _, generation) =>
          state.settle index visit none (generation.release visit)
      | none => state
  | .reload =>
      { state with generations := state.generations ++ [.fresh registry globalConcurrency] }

/-- The process after its start. -/
def Admissions.initial : Admissions := { generations := [.fresh registry globalConcurrency] }

end Steps

end ClaudeProxy
