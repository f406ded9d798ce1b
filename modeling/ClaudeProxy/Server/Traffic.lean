/-
Module: ClaudeProxy.Server.Traffic
Layer: Model
Purpose: Requests of `/v1/messages` past their admission, many at once over the circuits of one router:
  the loops of `Router::execute` and `Router::stream` (`src/routing.rs`) between two attempts, and the
  response bodies that are being read (`src/server.rs`). The requests take turns in any order. A turn
  is one attempt together with what the loop makes of it, or the rest of one response body.
Trusted boundary: human-reviewed model
Main exports: AttemptTurn, Candidate.turn, AttemptEnding, streamEnding, EndedAttempt, Progress, Traffic,
  TrafficMove, Traffic.step
-/
import ClaudeProxy.Routing
import ClaudeProxy.Server.BodyStream

namespace ClaudeProxy

open Library

/-! ### Attempts -/

/-- One turn of the loop over the candidates: a value, or an error after which the loop goes on or
ends. -/
inductive AttemptTurn (α : Type) where
  | won (value : α)
  | lost (error : ProxyError) (goesOn : Bool)

def Candidate.turn {α : Type} (call : Candidate → Upstream → Timed α) (elapsed : ProxyError)
    (candidate : Candidate) (upstream : Upstream) : AttemptTurn α :=
  match call candidate upstream with
  | some (.ok value) => .won value
  | some (.error error) => .lost error error.retryable
  | none => .lost elapsed false

/-- How an attempt at a provider ends: everything asked for has been read, or there is an error, which
is returned, sent to the client in a frame, or passed over for the next candidate. -/
inductive AttemptEnding where
  | succeeded
  | failed (error : ProxyError)
deriving DecidableEq, Repr, Inhabited

/-- The end of a stream: of itself, with an error, or given up by `body_stream` as idle. -/
def streamEnding : List (Except ProxyError ProviderEvent) → Tail → AttemptEnding
  | [], .closed => .succeeded
  | [], .pending => .failed idleTimeout
  | .error error :: _, _ => .failed error
  | .ok _ :: rest, tail => streamEnding rest tail

/-- An attempt that is over, with the circuit of its provider before and after its last turn. -/
structure EndedAttempt where
  provider : String
  ending : AttemptEnding
  before : Mutex CircuitState
  after : Mutex CircuitState
deriving DecidableEq

/-! ### Requests in progress -/

/-- Where a request stands: before an attempt of `execute` or of `stream`, with the candidates that
are left, or with a stream of a candidate that is being read. -/
inductive Progress where
  | executing (left : List Candidate)
  | opening (left : List Candidate)
  | reading (candidate : Candidate) (events : Feed (Except ProxyError ProviderEvent))

/-- The circuits and the requests in progress; beside them, all attempts that are over and all reports
that were made to the circuits. -/
structure Traffic where
  circuits : Circuits := .fresh {}
  active : List Progress := []
  ended : List EndedAttempt := []
  reports : List (String × CircuitReport) := []

namespace Traffic

def become (index : Nat) (progress : Progress) (traffic : Traffic) : Traffic :=
  { traffic with active := traffic.active.set index progress }

def leave (index : Nat) (traffic : Traffic) : Traffic :=
  { traffic with active := traffic.active.eraseIdx index }

/-- A report to the circuit of a provider, and whether it returns. -/
def record (provider : Provider) (now : Instant) (report : CircuitReport) (traffic : Traffic) :
    Option Unit × Traffic :=
  let (returned, circuits) := provider.report now report traffic.circuits
  (returned,
    { traffic with
      circuits := circuits
      reports := traffic.reports ++ [(provider.id, report)] })

/-- An attempt ends, and the code makes a report on it or none. -/
def settle (provider : Provider) (now : Instant) (ending : AttemptEnding)
    (report : Option CircuitReport) (traffic : Traffic) : Option Unit × Traffic :=
  let (returned, reported) := match report with
    | some report => traffic.record provider now report
    | none => (some (), traffic)
  (returned,
    { reported with
      ended := reported.ended ++
        [{ provider := provider.id, ending := ending
           before := traffic.circuits provider.id
           after := reported.circuits provider.id }] })

end Traffic

/-! ### Turns -/

/-- A request comes in, makes its next attempt, has its response body read to the end, or its client
goes away. -/
inductive TrafficMove where
  | arrive (stream : Bool) (route : Route) (request : NormalizedRequest) (draws : Nat → Nat)
      (clock : Nat → Instant)
  | attempt (index : Nat) (upstream : Upstream)
  | finish (index : Nat) (now : Instant)
  | disconnect (index : Nat)

section Serving

variable (crates : Crates) (environment : Environment) (order : IterationOrder) (router : Router)

/-- The part of `execute` and `stream` before the loop. A request that panics is gone. -/
def Traffic.arrive (stream : Bool) (route : Route) (request : NormalizedRequest)
    (draws : Nat → Nat) (clock : Nat → Instant) (traffic : Traffic) : Traffic :=
  match router.candidates crates draws clock traffic.circuits route request with
  | (circuits, none) => { traffic with circuits := circuits }
  | (circuits, some (.error _)) => { traffic with circuits := circuits }
  | (circuits, some (.ok candidates)) =>
      let left := candidates.take router.maxAttempts
      if stream = true then
        match estimateTokens crates environment candidates with
        | .error _ => { traffic with circuits := circuits }
        | .ok _ =>
            { traffic with circuits := circuits, active := traffic.active ++ [.opening left] }
      else { traffic with circuits := circuits, active := traffic.active ++ [.executing left] }

/-- After an error the request goes on with what is next, or is over, as it is after a panic. -/
def Traffic.afterError (index : Nat) (goesOn : Bool) (next : Progress) :
    Option Unit × Traffic → Traffic
  | (none, settled) => settled.leave index
  | (some _, settled) => if goesOn = true then settled.become index next else settled.leave index

/-- The next attempt of a request. Without a candidate left the loop is over. -/
def Traffic.attempt (index : Nat) (upstream : Upstream) (traffic : Traffic) : Traffic :=
  match traffic.active[index]? with
  | some (.executing (candidate :: rest)) =>
      match candidate.turn (Candidate.execute crates environment) executeElapsed upstream with
      | .won _ =>
          (traffic.settle candidate.provider upstream.finishedAt .succeeded
            (some .success)).2.leave index
      | .lost error goesOn =>
          Traffic.afterError index goesOn (.executing rest)
            (traffic.settle candidate.provider upstream.finishedAt (.failed error)
              (some (.failure error)))
  | some (.opening (candidate :: rest)) =>
      match candidate.turn (Candidate.stream crates environment order) streamElapsed upstream with
      | .won events => traffic.become index (.reading candidate events)
      | .lost error goesOn =>
          Traffic.afterError index goesOn (.opening rest)
            (traffic.settle candidate.provider upstream.finishedAt (.failed error)
              (some (.failure error)))
  | some (.executing []) => traffic.leave index
  | some (.opening []) => traffic.leave index
  | _ => traffic

/-- A response body is read to its end. The stream that `Router::stream` wraps around the events makes
the report, if it comes to that. -/
def Traffic.finish (index : Nat) (now : Instant) (traffic : Traffic) : Traffic :=
  match traffic.active[index]? with
  | some (.reading candidate events) =>
      let forwarded := forwardEvents candidate.provider now traffic.circuits events.items events.tail
      (traffic.settle candidate.provider now (streamEnding events.items events.tail)
        forwarded.report).2.leave index
  | _ => traffic

def Traffic.step (traffic : Traffic) : TrafficMove → Traffic
  | .arrive stream route request draws clock =>
      traffic.arrive crates environment router stream route request draws clock
  | .attempt index upstream => traffic.attempt crates environment order index upstream
  | .finish index now => traffic.finish index now
  | .disconnect index => traffic.leave index

end Serving

end ClaudeProxy
