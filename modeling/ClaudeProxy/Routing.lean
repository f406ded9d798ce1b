/-
Module: ClaudeProxy.Routing
Layer: Model
Purpose: The router (`src/routing.rs`): which route a model name takes, which targets of the route can
  serve a request and in which order, and how `execute` and `stream` go through them. The source
  writes the loop out twice; here it is `tryCandidates`, which both instantiate.
Trusted boundary: human-reviewed model
Main exports: Route, Router, Router.new, Router.resolve, Candidate, selectTarget,
  weightedPriorityOrder, Routed, tryCandidates, Router.execute, Router.stream, Router.candidates,
  Router.countTokens
-/
import ClaudeProxy.Provider.Send

namespace ClaudeProxy

open Library

/-! ### Routes -/

structure Route where
  id : String
  isMatch : String → Bool
  targets : List TargetConfig

def compilePattern (environment : Environment) (pattern : String) : Except ProxyError Unit :=
  (environment.parseGlob pattern).mapError fun error =>
    .new .internal s!"invalid model glob {pattern}: {error}"

def Route.compile (environment : Environment) (config : RouteConfig) : Except ProxyError Route := do
  config.models.forM (compilePattern environment)
  let isMatch ← (environment.globSet config.models).mapError fun error =>
    .new .internal s!"cannot compile route {config.id}: {error}"
  pure { id := config.id, isMatch := isMatch, targets := config.targets }

/-- The router; its providers are kept by their ids, and the last of several with one id counts. -/
structure Router where
  routes : List Route
  providers : List (String × Provider)
  maxAttempts : Nat

def Router.new (environment : Environment) (config : AppConfig) : Except ProxyError Router := do
  let providers ← config.providers.mapM fun provider => do
    let built ← Provider.new environment provider config.limits
    pure (provider.id, built)
  let routes ← config.routes.mapM (Route.compile environment)
  pure { routes := routes, providers := providers.reverse, maxAttempts := config.limits.maxAttempts }

def Router.resolve (router : Router) (request : NormalizedRequest) : Except ProxyError Route :=
  match router.routes.filter fun route => route.isMatch request.originalModel with
  | [] => .error (.invalid s!"no route matches model {request.originalModel}")
  | [route] => .ok route
  | _ => .error (.invalid
      s!"multiple routes match model {request.originalModel}; configuration is ambiguous")

/-! ### Candidates -/

/-- A target that can serve the request, with the request adapted to it. -/
structure Candidate where
  provider : Provider
  target : TargetConfig
  request : NormalizedRequest
deriving Repr, Inhabited

/-- The inner loop of `weighted_priority_order`: the position that a draw selects, `0` if it selects
none. -/
def selectTarget (tier : List Candidate) (choice : Nat) : Nat :=
  go tier choice 0
where
  go : List Candidate → Nat → Nat → Nat
    | [], _, _ => 0
    | candidate :: rest, choice, index =>
        if choice < candidate.target.weight then index
        else go rest (choice - candidate.target.weight) (index + 1)

/-- The candidates that share the first one's priority. -/
def leadingTier (candidates : List Candidate) : List Candidate :=
  candidates.takeWhile fun candidate =>
    candidate.target.priority = (candidates.head?.map (·.target.priority)).getD 0

/-- The outer loop: each draw selects a candidate of the leading tier and removes it. There is one
draw for each candidate, so that the candidates run out with the draws. A draw stands for any number
below the sum of the tier's weights, which the validation keeps positive. -/
def drawOrder (draws : Nat → Nat) : Nat → List Candidate → List Candidate
  | 0, _ => []
  | left + 1, candidates =>
      let selected := selectTarget (leadingTier candidates) (draws left)
      match candidates[selected]? with
      | none => []
      | some candidate => candidate :: drawOrder draws left (candidates.eraseIdx selected)

def weightedPriorityOrder (draws : Nat → Nat) (candidates : List Candidate) : List Candidate :=
  let sorted := candidates.mergeSort fun first second =>
    first.target.priority ≤ second.target.priority
  drawOrder draws sorted.length sorted

/-- The variables of `candidates`, the circuits, which `available` may change, and whether a call of it
has panicked. -/
structure Gathering where
  circuits : Circuits
  compatible : List Candidate := []
  capabilityError : Option ProxyError := none
  panicked : Bool := false

/-- One target, at a time. -/
def Gathering.add (crates : Crates) (request : NormalizedRequest) (now : Instant)
    (gathering : Gathering) (resolved : Provider × TargetConfig) : Gathering :=
  if gathering.panicked = true then gathering
  else
    match adaptRequest crates resolved.1.capabilities request with
    | .error error =>
        { gathering with capabilityError := some (gathering.capabilityError.getD error) }
    | .ok adapted =>
        match resolved.1.available now gathering.circuits with
        | (none, circuits) => { gathering with circuits := circuits, panicked := true }
        | (some available, circuits) =>
            if available = true then
              { gathering with
                circuits := circuits
                compatible := gathering.compatible ++
                  [{ provider := resolved.1, target := resolved.2, request := adapted }] }
            else { gathering with circuits := circuits }

/-- The targets of a route with their providers; `none` if a target's provider is unknown, at which
the code panics. -/
def Router.resolveTargets (router : Router) (route : Route) :
    Option (List (Provider × TargetConfig)) :=
  route.targets.mapM fun target =>
    (router.providers.lookup target.provider).map fun provider => (provider, target)

def openCircuits : ProxyError := .new .overloaded "all route targets have open circuits"

/-- The circuits after the look at the targets, and the candidates for a request, in the order of the
draws; `none` if the look panics. The clock is read once for each target. -/
def gatherCandidates (crates : Crates) (draws : Nat → Nat) (clock : Nat → Instant)
    (circuits : Circuits) (request : NormalizedRequest)
    (resolved : List (Provider × TargetConfig)) :
    Circuits × Option (Except ProxyError (List Candidate)) :=
  let gathering := resolved.zipIdx.foldl
    (fun (gathering : Gathering) entry => gathering.add crates request (clock entry.2) entry.1)
    { circuits := circuits }
  (gathering.circuits,
    if gathering.panicked = true then none
    else if gathering.compatible.isEmpty = true then
      some (.error (gathering.capabilityError.getD openCircuits))
    else some (.ok (weightedPriorityOrder draws gathering.compatible)))

/-- `Router::candidates`. -/
def Router.candidates (crates : Crates) (router : Router) (draws : Nat → Nat) (clock : Nat → Instant)
    (circuits : Circuits) (route : Route) (request : NormalizedRequest) :
    Circuits × Option (Except ProxyError (List Candidate)) :=
  match router.resolveTargets route with
  | none => (circuits, none)
  | some resolved => gatherCandidates crates draws clock circuits request resolved

/-! ### Attempts -/

/-- What a call of the router did: the candidates it called in order, the circuits afterwards, the
result, `none` if it panicked, and whether the result is the error of a loop that met no error. -/
structure Routed (α : Type) where
  contacted : List Candidate
  circuits : Circuits
  result : Option (Except ProxyError α)
  unexplained : Bool := false

def noHealthyTarget : ProxyError := .new .overloaded "no healthy target is available"

/-- The loop of `execute` and of `stream`, after the attempts that met `errors`. A success is settled
and returned, a retryable error leads to the next candidate, and everything else ends the loop, as does
a report to a circuit that panics. -/
def tryCandidates {α : Type} (call : Candidate → Upstream → Timed α)
    (settle : Candidate → Circuits → Option Unit × Circuits) (elapsed : ProxyError) :
    List (Candidate × Upstream) → List ProxyError → Circuits → Routed α
  | [], errors, circuits =>
      { contacted := []
        circuits := circuits
        result := some (.error (errors.getLast?.getD noHealthyTarget))
        unexplained := errors.isEmpty }
  | (candidate, upstream) :: rest, errors, circuits =>
      match call candidate upstream with
      | some (.ok value) =>
          let (returned, circuits) := settle candidate circuits
          { contacted := [candidate]
            circuits := circuits
            result := returned.map fun _ => .ok value }
      | some (.error error) =>
          match candidate.provider.recordFailure upstream.finishedAt error circuits with
          | (none, circuits) =>
              { contacted := [candidate], circuits := circuits, result := none }
          | (some _, circuits) =>
              if error.retryable = false then
                { contacted := [candidate], circuits := circuits, result := some (.error error) }
              else
                let later := tryCandidates call settle elapsed rest (errors ++ [error]) circuits
                { later with contacted := candidate :: later.contacted }
      | none =>
          let (returned, circuits) :=
            candidate.provider.recordFailure upstream.finishedAt elapsed circuits
          { contacted := [candidate]
            circuits := circuits
            result := returned.map fun _ => .error elapsed }

/-- The first candidates, each with what is at the other end of its attempt. -/
def attemptsOf (maxAttempts : Nat) (upstreams : Nat → Upstream) (candidates : List Candidate) :
    List (Candidate × Upstream) :=
  (candidates.take maxAttempts).zipIdx.map fun entry => (entry.1, upstreams entry.2)

section Serving

variable (crates : Crates) (environment : Environment) (order : IterationOrder)

def executeElapsed : ProxyError := .new .timeout "upstream request timed out"

def streamElapsed : ProxyError := .new .timeout "upstream stream establishment timed out"

def Candidate.execute (candidate : Candidate) (upstream : Upstream) : Timed AnthropicResponse :=
  candidate.provider.execute crates environment candidate.request candidate.target.model upstream

def Candidate.stream (candidate : Candidate) (upstream : Upstream) :
    Timed (Feed (Except ProxyError ProviderEvent)) :=
  candidate.provider.stream crates environment order candidate.request candidate.target.model
    upstream

/-- `provider.record_success()`. -/
def Candidate.settle (candidate : Candidate) (circuits : Circuits) : Option Unit × Circuits :=
  candidate.provider.recordSuccess circuits

def executeCandidates (maxAttempts : Nat) (upstreams : Nat → Upstream) (circuits : Circuits)
    (candidates : List Candidate) : Routed AnthropicResponse :=
  tryCandidates (Candidate.execute crates environment) Candidate.settle executeElapsed
    (attemptsOf maxAttempts upstreams candidates) [] circuits

/-- A stream is settled when it ends, not when it is handed over. -/
def streamCandidates (maxAttempts : Nat) (upstreams : Nat → Upstream) (circuits : Circuits)
    (candidates : List Candidate) : Routed (Feed (Except ProxyError ProviderEvent)) :=
  tryCandidates (Candidate.stream crates environment order) (fun _ circuits => (some (), circuits))
    streamElapsed (attemptsOf maxAttempts upstreams candidates) [] circuits

/-- A call that contacts nobody. -/
def refused {α : Type} (circuits : Circuits) (error : ProxyError) : Routed α :=
  { contacted := [], circuits := circuits, result := some (.error error) }

/-- A call that panics before it contacts anybody. -/
def brokenOff {α : Type} (circuits : Circuits) : Routed α :=
  { contacted := [], circuits := circuits, result := none }

/-- `Router::execute`. -/
def Router.execute (router : Router) (draws : Nat → Nat) (clock : Nat → Instant)
    (upstreams : Nat → Upstream) (circuits : Circuits) (route : Route)
    (request : NormalizedRequest) : Routed AnthropicResponse :=
  match router.candidates crates draws clock circuits route request with
  | (circuits, none) => brokenOff circuits
  | (circuits, some (.error error)) => refused circuits error
  | (circuits, some (.ok candidates)) =>
      executeCandidates crates environment router.maxAttempts upstreams circuits candidates

/-- The token estimate of `stream`: that of the first candidate. -/
def estimateTokens (candidates : List Candidate) : Except ProxyError Nat :=
  match candidates with
  | [] => .ok 0
  | candidate :: _ => candidate.provider.countTokens crates environment candidate.request

/-- `Router::stream`, with the estimate of the input tokens beside the stream. -/
def Router.stream (router : Router) (draws : Nat → Nat) (clock : Nat → Instant)
    (upstreams : Nat → Upstream) (circuits : Circuits) (route : Route)
    (request : NormalizedRequest) : Routed (Nat × Feed (Except ProxyError ProviderEvent)) :=
  match router.candidates crates draws clock circuits route request with
  | (circuits, none) => brokenOff circuits
  | (circuits, some (.error error)) => refused circuits error
  | (circuits, some (.ok candidates)) =>
      match estimateTokens crates environment candidates with
      | .error error => refused circuits error
      | .ok inputTokens =>
          let routed := streamCandidates crates environment order router.maxAttempts upstreams
            circuits candidates
          { contacted := routed.contacted
            circuits := routed.circuits
            result := routed.result.map fun outcome => outcome.map fun feed => (inputTokens, feed)
            unexplained := routed.unexplained }

/-- `Router::count_tokens`. -/
def Router.countTokens (router : Router) (draws : Nat → Nat) (clock : Nat → Instant)
    (circuits : Circuits) (route : Route) (request : NormalizedRequest) :
    Circuits × Option (Except ProxyError Nat) :=
  let (circuits, gathered) := router.candidates crates draws clock circuits route request
  (circuits, gathered.map fun outcome => outcome.bind fun candidates =>
    match candidates with
    | [] => .error noHealthyTarget
    | candidate :: _ => candidate.provider.countTokens crates environment candidate.request)

end Serving

end ClaudeProxy
