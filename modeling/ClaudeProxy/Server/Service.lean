/-
Module: ClaudeProxy.Server.Service
Layer: Model
Purpose: The proxy at work (`src/server.rs` over `src/auth.rs` and `src/routing.rs`): any number of
  requests to the two endpoints, from their headers to their responses, in any order of their steps,
  while a SIGHUP may put another runtime in place of the current one (`spawn_reload` in `src/main.rs`).
  What the configurations name outside themselves, as secrets in files, stays as it is meanwhile.
  A request keeps the runtime that it loaded when it came. What it holds is dropped with it, however it
  ends. Each step makes one access to what requests share, or one attempt at a provider.
Trusted boundary: human-reviewed model
Main exports: RoutedRequest, CallPhase, LiveRuntime, Surroundings, CallPhase.advance, ApiCall, Contact,
  ApiAnswer, Service, ServiceMove, Service.step, Service.initial, Service.run
-/
import ClaudeProxy.Server.Endpoints
import ClaudeProxy.Server.Response
import ClaudeProxy.Server.Traffic

namespace ClaudeProxy

open Library

/-! ### Requests in progress -/

structure RoutedRequest where
  route : Route
  request : NormalizedRequest

/-- How far a request has come, with the client it comes from: it has loaded the runtime, read the
clock, passed the rate check, got its client's permit, got a global permit; it makes attempts of
`execute` or `stream`, with the candidates that are left and the errors so far; or its stream is being
read. -/
inductive CallPhase where
  | arrived
  | timed (client : Nat) (now : Instant)
  | counted (client : Nat)
  | permitted (client : Nat)
  | admitted (client : Nat)
  | executing (client : Nat) (routed : RoutedRequest) (left : List Candidate)
      (errors : List ProxyError)
  | opening (client : Nat) (routed : RoutedRequest) (inputTokens : Nat) (left : List Candidate)
      (errors : List ProxyError)
  | reading (client : Nat) (routed : RoutedRequest) (inputTokens : Nat) (candidate : Candidate)
      (events : Feed (Except ProxyError ProviderEvent))

namespace CallPhase

/-- The client whose permit it holds. -/
def permitOf : CallPhase → Option Nat
  | .arrived | .timed .. | .counted _ => none
  | .permitted client | .admitted client | .executing client .. | .opening client ..
  | .reading client .. => some client

def holdsGlobal : CallPhase → Bool
  | .arrived | .timed .. | .counted _ | .permitted _ => false
  | .admitted _ | .executing .. | .opening .. | .reading .. => true

/-- What it holds is dropped. -/
def release (phase : CallPhase) (limits : Limits) : Limits :=
  let limits := if phase.holdsGlobal = true then limits.releaseGlobal else limits
  match phase.permitOf with
  | some client => limits.releasePermit client
  | none => limits

end CallPhase

/-- A runtime with what of it changes: its limits and the circuits of its providers. -/
structure LiveRuntime where
  runtime : Runtime
  limits : Limits
  circuits : Circuits

/-- A runtime that has just been built. -/
def Runtime.live (runtime : Runtime) : LiveRuntime where
  runtime := runtime
  limits := runtime.limits
  circuits := .fresh {}

def LiveRuntime.identity (live : LiveRuntime) (client : Nat) : ClientIdentity :=
  live.runtime.auth[client]?.getD default

/-- A report to the circuit of a provider; `none` if it panics. -/
def LiveRuntime.report (provider : Provider) (now : Instant) (report : CircuitReport)
    (live : LiveRuntime) : Option Unit × LiveRuntime :=
  let (returned, circuits) := provider.report now report live.circuits
  (returned, { live with circuits := circuits })

/-- What is around a step: the server at the other end of an attempt, the draws and the clock of the
look at the targets, and the clock at the end of a stream. -/
structure Surroundings where
  upstream : Upstream
  draws : Nat → Nat
  clock : Nat → Instant
  now : Instant

/-- What a step leads to: a further phase, or the outcome of the inner handler, which is `none` if it
panics. -/
inductive StepResult where
  | goesOn (phase : CallPhase)
  | ends (outcome : Option (Except ProxyError ProxyResponse))

section Serving

variable (crates : Crates) (environment : Environment) (order : IterationOrder)
  (hashKey : String → Digest) (errors : JsonErrors)

/-- `candidates`, and what follows it. -/
def LiveRuntime.gather (around : Surroundings) (live : LiveRuntime) (routed : RoutedRequest)
    (next : List Candidate → StepResult) : StepResult × LiveRuntime :=
  match live.runtime.router.candidates crates around.draws around.clock live.circuits routed.route
      routed.request with
  | (circuits, none) => (.ends none, { live with circuits := circuits })
  | (circuits, some (.error error)) =>
      (.ends (some (.error error)), { live with circuits := circuits })
  | (circuits, some (.ok candidates)) => (next candidates, { live with circuits := circuits })

/-- The part of `execute` and of `stream` before the loop. -/
def startAttempts (maxAttempts client : Nat) (routed : RoutedRequest)
    (candidates : List Candidate) : StepResult :=
  let left := candidates.take maxAttempts
  if routed.request.stream = true then
    match estimateTokens crates environment candidates with
    | .error error => .ends (some (.error error))
    | .ok inputTokens => .goesOn (.opening client routed inputTokens left [])
  else .goesOn (.executing client routed left [])

/-- `Router::count_tokens` after `candidates`. -/
def countFirst (candidates : List Candidate) : StepResult :=
  match candidates with
  | [] => .ends (some (.error noHealthyTarget))
  | candidate :: _ =>
      .ends (some ((candidate.provider.countTokens crates environment candidate.request).map
        fun tokens => jsonResponse (.obj [("input_tokens", .num tokens)])))

/-- The error of a loop that has no candidate left. -/
def exhausted (errors : List ProxyError) : StepResult :=
  .ends (some (.error (errors.getLast?.getD noHealthyTarget)))

/-- A success of `execute`, once it is reported. -/
def afterSuccess (returned : Option Unit) (response : AnthropicResponse) : StepResult :=
  .ends (returned.map fun _ => .ok (jsonResponse response.toValue))

/-- An error of an attempt, after which the loop goes on or ends, once it is reported. -/
def afterError (returned : Option Unit) (error : ProxyError) (goesOn : Bool) (next : CallPhase) :
    StepResult :=
  match returned with
  | none => .ends none
  | some _ => if goesOn = true then .goesOn next else .ends (some (.error error))

/-- The next step of a request on its runtime. -/
def CallPhase.advance (request : ApiRequest) (clock : Instant) (around : Surroundings)
    (live : LiveRuntime) : CallPhase → StepResult × LiveRuntime
  | .arrived =>
      match live.runtime.identify hashKey request.headers with
      | .error error => (.ends (some (.error error)), live)
      | .ok (client, _) => (.goesOn (.timed client clock), live)
  | .timed client now =>
      match (live.identity client).checkRate now (live.limits.clients client) with
      | (.error error, after) =>
          (.ends (some (.error error)), { live with limits := live.limits.set client after })
      | (.ok _, after) =>
          (.goesOn (.counted client), { live with limits := live.limits.set client after })
  | .counted client =>
      match (live.limits.clients client).acquirePermit with
      | (.error error, after) =>
          (.ends (some (.error error)), { live with limits := live.limits.set client after })
      | (.ok _, after) =>
          (.goesOn (.permitted client), { live with limits := live.limits.set client after })
  | .permitted client =>
      match request.endpoint with
      | .messages =>
          match live.limits.acquireGlobal with
          | (.error error, limits) => (.ends (some (.error error)), { live with limits := limits })
          | (.ok _, limits) => (.goesOn (.admitted client), { live with limits := limits })
      | .countTokens =>
          match live.runtime.readCount crates errors (live.identity client) request.body with
          | .error error => (.ends (some (.error error)), live)
          | .ok (route, normalized) =>
              live.gather crates around ⟨route, normalized⟩ (countFirst crates environment)
  | .admitted client =>
      match live.runtime.readMessages crates errors (live.identity client) request.body with
      | .error error => (.ends (some (.error error)), live)
      | .ok (route, normalized) =>
          live.gather crates around ⟨route, normalized⟩
            (startAttempts crates environment live.runtime.router.maxAttempts client
              ⟨route, normalized⟩)
  | .executing _ _ [] failures => (exhausted failures, live)
  | .executing client routed (candidate :: rest) failures =>
      match candidate.turn (Candidate.execute crates environment) executeElapsed
          around.upstream with
      | .won response =>
          let (returned, after) :=
            live.report candidate.provider around.upstream.finishedAt .success
          (afterSuccess returned response, after)
      | .lost error goesOn =>
          let (returned, after) :=
            live.report candidate.provider around.upstream.finishedAt (.failure error)
          (afterError returned error goesOn (.executing client routed rest (failures ++ [error])),
            after)
  | .opening _ _ _ [] failures => (exhausted failures, live)
  | .opening client routed inputTokens (candidate :: rest) failures =>
      match candidate.turn (Candidate.stream crates environment order) streamElapsed
          around.upstream with
      | .won events => (.goesOn (.reading client routed inputTokens candidate events), live)
      | .lost error goesOn =>
          let (returned, after) :=
            live.report candidate.provider around.upstream.finishedAt (.failure error)
          (afterError returned error goesOn
              (.opening client routed inputTokens rest (failures ++ [error])),
            after)
  | .reading _ routed inputTokens candidate events =>
      let forwarded :=
        forwardEvents candidate.provider around.now live.circuits events.items events.tail
      let frames := bodyStream
        { messageId := request.messageId
          model := routed.request.originalModel
          requestId := request.requestId
          inputTokens := inputTokens } forwarded.feed
      (.ends (some (.ok (streamResponse frames forwarded.panicked))),
        { live with circuits := forwarded.circuits })

/-! ### The service -/

structure ApiCall where
  request : ApiRequest
  /-- Which runtime it loaded. -/
  runtime : Nat
  phase : CallPhase

/-- An attempt at a provider, with the request it was made for, and what was at its other end. -/
structure Contact where
  request : ApiRequest
  runtime : Nat
  client : Nat
  routed : RoutedRequest
  candidate : Candidate
  upstream : Upstream

/-- The attempt that the next step of a request makes. -/
def ApiCall.contact (upstream : Upstream) (call : ApiCall) : Option Contact :=
  match call.phase with
  | .executing client routed (candidate :: _) _ | .opening client routed _ (candidate :: _) _ =>
      some ⟨call.request, call.runtime, client, routed, candidate, upstream⟩
  | _ => none

structure ApiAnswer where
  request : ApiRequest
  runtime : Nat
  response : ProxyResponse

/-- The clock, the runtimes in the order in which they were put in place, and the requests in progress;
beside them, the attempts that were made, the answers, and the requests that went without one since
their client went away, as far as they had come. SIGHUPs are heeded until building a runtime panics. -/
structure Service where
  clock : Instant := 0
  runtimes : List LiveRuntime
  calls : List ApiCall := []
  contacts : List Contact := []
  answers : List ApiAnswer := []
  dropped : List ApiCall := []
  heedsHangup : Bool := true

/-- Time passes, a request comes in, takes its next step, or its client goes away; a SIGHUP comes, at
which the file is loaded. -/
inductive ServiceMove where
  | tick (elapsed : Nat)
  | arrive (request : ApiRequest)
  | advance (index : Nat) (around : Surroundings)
  | disconnect (index : Nat)
  | hangup (loaded : Except ProxyError AppConfig)

/-- A call in progress, with its runtime. -/
def Service.find (index : Nat) (service : Service) : Option (ApiCall × LiveRuntime) := do
  let call ← service.calls[index]?
  let live ← service.runtimes[call.runtime]?
  pure (call, live)

def Service.setRuntime (number : Nat) (live : LiveRuntime) (service : Service) : Service :=
  { service with runtimes := service.runtimes.set number live }

/-- A call is over. -/
def Service.leave (index : Nat) (call : ApiCall) (live : LiveRuntime) (service : Service) : Service :=
  { service.setRuntime call.runtime { live with limits := call.phase.release live.limits } with
    calls := service.calls.eraseIdx index }

/-- What a step of a call leaves behind. -/
def Service.settle (index : Nat) (call : ApiCall) (upstream : Upstream) (result : StepResult)
    (live : LiveRuntime) (service : Service) : Service :=
  let made := { service with contacts := service.contacts ++ (call.contact upstream).toList }
  match result with
  | .goesOn phase =>
      { made.setRuntime call.runtime live with
        calls := service.calls.set index { call with phase := phase } }
  | .ends outcome =>
      { made.leave index call live with
        answers := service.answers ++
          [⟨call.request, call.runtime, call.request.respond environment outcome⟩] }

def Service.advance (index : Nat) (around : Surroundings) (service : Service) : Service :=
  match service.find index with
  | none => service
  | some (call, live) =>
      let (result, after) := call.phase.advance crates environment order hashKey errors call.request
        service.clock around live
      service.settle environment index call around.upstream result after

/-- `AppConfig::load(&path).and_then(Runtime::new)`, and the swap. -/
def Service.hangup (loaded : Except ProxyError AppConfig) (service : Service) : Service :=
  if service.heedsHangup = false then service
  else
    match loaded with
    | .error _ => service
    | .ok config =>
        match Runtime.new crates environment hashKey config with
        | none => { service with heedsHangup := false }
        | some (.error _) => service
        | some (.ok runtime) =>
            match service.runtimes.getLast? with
            | some current =>
                if runtime.config.server = current.runtime.config.server then
                  { service with runtimes := service.runtimes ++ [runtime.live] }
                else service
            | none => service

def Service.step (service : Service) : ServiceMove → Service
  | .tick elapsed => { service with clock := service.clock + elapsed }
  | .arrive request =>
      { service with
        calls := service.calls ++
          [{ request := request, runtime := service.runtimes.length - 1, phase := .arrived }] }
  | .advance index around =>
      service.advance crates environment order hashKey errors index around
  | .disconnect index =>
      match service.find index with
      | none => service
      | some (call, live) =>
          { service.leave index call live with
            dropped := service.dropped ++ [call] }
  | .hangup loaded => service.hangup crates environment hashKey loaded

/-- The process after its start. -/
def Service.initial (runtime : Runtime) : Service := { runtimes := [runtime.live] }

def Service.run (runtime : Runtime) (moves : List ServiceMove) : Service :=
  moves.foldl (Service.step crates environment order hashKey errors) (.initial runtime)

end Serving

end ClaudeProxy
