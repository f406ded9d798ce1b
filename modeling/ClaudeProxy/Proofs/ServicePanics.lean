/-
Module: ClaudeProxy.Proofs.ServicePanics
Layer: Proofs
Purpose: When a request panics. On the runtime of a validated configuration only a report to a circuit
  can panic, and whatever finds the lock poisoned that such a panic leaves behind. As long as the
  cooldowns of all configurations end within the range of the clock, no answer comes of a panic.
Trusted boundary: none
Main exports: ProxyResponse.isPanic, ServiceMove.LeavesRoom, Runtime.Roomy, advance_calm,
  answers_calm
-/
import ClaudeProxy.Proofs.Authorization
import ClaudeProxy.Proofs.PanicFreedom

namespace ClaudeProxy

open Library

/-! ### Panics -/

/-- The response comes of a panic: it is that of the layer around the handlers, or a stream that is
broken off. -/
def ProxyResponse.isPanic (response : ProxyResponse) : Bool :=
  match response.body with
  | .json _ => false
  | .text _ => true
  | .eventStream _ brokenOff => brokenOff

/-- The step panics, or its response is broken off by a panic. -/
def StepResult.panics : StepResult → Bool
  | .goesOn _ => false
  | .ends none => true
  | .ends (some (.error _)) => false
  | .ends (some (.ok response)) => response.isPanic

theorem respond_isPanic (environment : Environment) (request : ApiRequest)
    (outcome : Option (Except ProxyError ProxyResponse)) :
    (request.respond environment outcome).isPanic = (StepResult.ends outcome).panics := by
  rcases outcome with _ | error | response
  · rfl
  · rfl
  · simp only [ApiRequest.respond, setRequestId, StepResult.panics]
    split <;> rfl

/-- The readings of the clock at which a step can make a report are within a horizon. -/
def Surroundings.Within (horizon : Instant) (around : Surroundings) : Prop :=
  around.upstream.finishedAt ≤ horizon ∧ around.now ≤ horizon

instance (horizon : Instant) (around : Surroundings) : Decidable (around.Within horizon) :=
  inferInstanceAs (Decidable (_ ∧ _))

/-- Whatever report the move makes is made within a horizon, and a configuration that it loads has a
cooldown for which there is room after that. -/
def ServiceMove.LeavesRoom (horizon : Instant) : ServiceMove → Prop
  | .advance _ around => around.Within horizon
  | .hangup (.ok config) => horizon + config.cooldown ≤ clockMax
  | .tick _ | .arrive _ | .disconnect _ | .hangup (.error _) => True

instance (horizon : Instant) : ∀ move : ServiceMove, Decidable (move.LeavesRoom horizon)
  | .advance _ around => inferInstanceAs (Decidable (around.Within horizon))
  | .hangup (.ok config) => inferInstanceAs (Decidable (horizon + config.cooldown ≤ clockMax))
  | .tick _ | .arrive _ | .disconnect _ | .hangup (.error _) => inferInstanceAs (Decidable True)

/-- The targets of every route have providers, and there is room for the cooldown of each. -/
structure Runtime.Roomy (horizon : Instant) (runtime : Runtime) : Prop where
  targets : ∀ route ∈ runtime.router.routes, ∃ resolved,
    runtime.router.resolveTargets route = some resolved
  room : ∀ id provider, runtime.router.providers.lookup id = some provider →
    horizon + provider.cooldown ≤ clockMax

section Panics

variable {crates : Crates} {environment : Environment} {order : IterationOrder}
  {hashKey : String → Digest} {errors : JsonErrors} {horizon : Instant} {live : LiveRuntime}

theorem roomy_of_built {config : AppConfig} {runtime : Runtime}
    (built : Runtime.new crates environment hashKey config = some (.ok runtime))
    (room : horizon + config.cooldown ≤ clockMax) : runtime.Roomy horizon := by
  obtain ⟨_, valid, _, routerBuilt⟩ := Runtime.new_eq_ok built
  constructor
  · intro route isRoute
    exact resolveTargets_of_valid ⟨config, valid⟩ routerBuilt isRoute
  · intro id provider found
    rw [(Router.lookup_limits routerBuilt found).2.2]
    exact room

/-! ### One step -/

theorem routed_isRoute {runtime : Runtime} {identity : ClientIdentity} {request : AnthropicRequest}
    {route : Route} {normalized : NormalizedRequest}
    (routed : runtime.routed crates identity request = .ok (route, normalized)) :
    route ∈ runtime.router.routes := by
  simp only [Runtime.routed, Except.bind_eq_ok] at routed
  obtain ⟨_, _, _, resolved, _, _, same⟩ := routed
  cases same
  exact resolve_isRoute resolved

/-- The look at the targets does not panic. -/
theorem gather_calm (roomy : live.runtime.Roomy horizon) (healthy : live.circuits.Healthy)
    {routed : RoutedRequest} (isRoute : routed.route ∈ live.runtime.router.routes)
    {next : List Candidate → StepResult} (calm : ∀ candidates, (next candidates).panics = false)
    (around : Surroundings) :
    (live.gather crates around routed next).2.circuits.Healthy ∧
      (live.gather crates around routed next).1.panics = false := by
  obtain ⟨resolved, resolvedEq⟩ := roomy.targets _ isRoute
  obtain ⟨outcome, circuits, gathered, after⟩ := @gatherCandidates_healthy crates around.draws
    around.clock live.circuits routed.request resolved healthy
  unfold LiveRuntime.gather
  rw [candidates_of_resolved resolvedEq, gathered]
  cases outcome with
  | error error => exact ⟨after, rfl⟩
  | ok candidates => exact ⟨after, calm candidates⟩

theorem startAttempts_calm (maxAttempts client : Nat) (routed : RoutedRequest)
    (candidates : List Candidate) :
    (startAttempts crates environment maxAttempts client routed candidates).panics = false := by
  unfold startAttempts
  dsimp only
  split
  · split <;> rfl
  · rfl

theorem countFirst_calm (candidates : List Candidate) :
    (countFirst crates environment candidates).panics = false := by
  cases candidates with
  | nil => rfl
  | cons candidate rest =>
      simp only [countFirst]
      cases candidate.provider.countTokens crates environment candidate.request <;> rfl

/-- A report that is made in time returns, and poisons nothing. -/
theorem report_calm {provider : Provider} {now : Instant} (inTime : now ≤ horizon)
    (room : horizon + provider.cooldown ≤ clockMax) (healthy : live.circuits.Healthy)
    (report : CircuitReport) :
    (live.report provider now report).1 = some () ∧
      (live.report provider now report).2.circuits.Healthy := by
  obtain ⟨returns, after⟩ := Provider.report_returns
    (Nat.le_trans (Nat.add_le_add_right inTime _) room) report healthy
  obtain ⟨_, isSome⟩ := Option.isSome_iff_exists.mp returns
  exact ⟨isSome, after⟩

theorem afterError_calm {returned : Option Unit} (returns : returned = some ()) (error : ProxyError)
    (goesOn : Bool) (next : CallPhase) : (afterError returned error goesOn next).panics = false := by
  subst returns
  unfold afterError
  dsimp only
  split <;> rfl

/-- The rest of a stream that ends in time is not broken off. -/
theorem forwardEvents_calm {provider : Provider} {now : Instant} {circuits : Circuits}
    (inTime : now ≤ horizon) (room : horizon + provider.cooldown ≤ clockMax)
    (healthy : circuits.Healthy) (events : List (Except ProxyError ProviderEvent)) (tail : Tail) :
    (forwardEvents provider now circuits events tail).circuits.Healthy ∧
      (forwardEvents provider now circuits events tail).panicked = false := by
  have forwarded := (forwardEvents_circuits provider now circuits events tail).2
  revert forwarded
  cases streamReport events tail with
  | none =>
      rintro ⟨same, calm⟩
      exact ⟨by rw [same]; exact healthy, calm⟩
  | some report =>
      rintro ⟨same, calm⟩
      obtain ⟨returns, after⟩ := Provider.report_returns
        (Nat.le_trans (Nat.add_le_add_right inTime _) room) report healthy
      exact ⟨by rw [same]; exact after, calm.trans (Option.isNone_eq_false_iff.mpr returns)⟩

/-- Where there is room for the cooldowns, no step panics, and every lock stays as healthy as it was. -/
theorem advance_calm (roomy : live.runtime.Roomy horizon) (healthy : live.circuits.Healthy)
    {request : ApiRequest} {phase : CallPhase} {around : Surroundings}
    (authorized : phase.Authorized crates hashKey errors live.runtime request)
    (within : around.Within horizon) (clock : Instant) :
    let step := phase.advance crates environment order hashKey errors request clock around live
    step.2.circuits.Healthy ∧ step.1.panics = false := by
  obtain ⟨inTime, nowInTime⟩ := within
  cases phase with
  | arrived =>
      simp only [CallPhase.advance]
      split <;> exact ⟨healthy, rfl⟩
  | timed client now =>
      simp only [CallPhase.advance]
      split <;> exact ⟨healthy, rfl⟩
  | counted client =>
      simp only [CallPhase.advance]
      split <;> exact ⟨healthy, rfl⟩
  | permitted client =>
      simp only [CallPhase.advance]
      split
      · split <;> exact ⟨healthy, rfl⟩
      · split
        · exact ⟨healthy, rfl⟩
        · rename_i route normalized read
          simp only [Runtime.readCount, Except.bind_eq_ok] at read
          obtain ⟨_, _, _, _, _, _, routed⟩ := read
          exact gather_calm roomy healthy (routed_isRoute routed) countFirst_calm around
  | admitted client =>
      simp only [CallPhase.advance]
      split
      · exact ⟨healthy, rfl⟩
      · rename_i route normalized read
        simp only [Runtime.readMessages, Except.bind_eq_ok] at read
        obtain ⟨_, _, routed⟩ := read
        exact gather_calm roomy healthy (routed_isRoute routed)
          (startAttempts_calm _ client ⟨route, normalized⟩) around
  | executing client routed left failures =>
      cases left with
      | nil => exact ⟨healthy, rfl⟩
      | cons candidate rest =>
          have ofRoute := authorized.2 candidate List.mem_cons_self
          have room := roomy.room _ _ ofRoute.provider
          simp only [CallPhase.advance]
          split
          · obtain ⟨returns, after⟩ := report_calm inTime room healthy .success
            refine ⟨after, ?_⟩
            rw [returns]
            rfl
          · obtain ⟨returns, after⟩ := report_calm inTime room healthy _
            exact ⟨after, afterError_calm returns _ _ _⟩
  | opening client routed inputTokens left failures =>
      cases left with
      | nil => exact ⟨healthy, rfl⟩
      | cons candidate rest =>
          have ofRoute := authorized.2 candidate List.mem_cons_self
          have room := roomy.room _ _ ofRoute.provider
          simp only [CallPhase.advance]
          split
          · exact ⟨healthy, rfl⟩
          · obtain ⟨returns, after⟩ := report_calm inTime room healthy _
            exact ⟨after, afterError_calm returns _ _ _⟩
  | reading client routed inputTokens candidate events =>
      have room := roomy.room _ _ authorized.2.provider
      exact forwardEvents_calm nowInTime room healthy events.items events.tail

/-! ### Runs -/

/-- No lock is poisoned, none will be, and no answer comes of a panic. -/
structure Service.Calm (horizon : Instant) (service : Service) : Prop where
  runtimes : ∀ live ∈ service.runtimes, live.runtime.Roomy horizon ∧ live.circuits.Healthy
  answers : ∀ answer ∈ service.answers, answer.response.isPanic = false

variable {service : Service}

theorem Service.Calm.settled (calm : service.Calm horizon) {index : Nat} {call : ApiCall}
    {around : Surroundings} {result : StepResult} {after : LiveRuntime}
    (roomy : after.runtime.Roomy horizon) (healthy : after.circuits.Healthy)
    (calmly : result.panics = false) :
    (service.settle environment index call around.upstream result after).Calm horizon := by
  constructor
  · rw [Service.settle_runtimes]
    intro live member
    rcases List.mem_or_eq_of_mem_set member with old | rfl
    · exact calm.runtimes live old
    · rw [StepResult.liveAfter_runtime, StepResult.liveAfter_circuits]
      exact ⟨roomy, healthy⟩
  · cases result with
    | goesOn next => exact calm.answers
    | ends outcome =>
        exact forall_snoc calm.answers ((respond_isPanic ..).trans calmly)

theorem Service.Calm.step
    (holds : service.Holds environment
      (fun runtime => ∃ config, Runtime.new crates environment hashKey config = some (.ok runtime))
      (fun view phase => phase.Authorized crates hashKey errors view.runtime view.request)
      (fun runtime contact =>
        AttemptsFor crates hashKey errors runtime contact.request contact.client contact.routed ∧
          OfRoute crates runtime contact.routed contact.candidate) fun _ _ => True)
    (calm : service.Calm horizon) {move : ServiceMove} (room : move.LeavesRoom horizon) :
    (service.step crates environment order hashKey errors move).Calm horizon := by
  cases move with
  | tick elapsed => exact ⟨calm.runtimes, calm.answers⟩
  | arrive request => exact ⟨calm.runtimes, calm.answers⟩
  | advance index around =>
      simp only [Service.step, Service.advance]
      cases found : service.find index with
      | none => exact calm
      | some entry =>
          obtain ⟨call, live⟩ := entry
          obtain ⟨isCall, isLive⟩ := Service.find_eq_some.mp found
          obtain ⟨roomy, healthy⟩ := calm.runtimes live (List.mem_of_getElem? isLive)
          obtain ⟨own, isOwn, authorized⟩ := holds.calls call (List.mem_of_getElem? isCall)
          rw [isLive] at isOwn
          cases isOwn
          obtain ⟨after, calmly⟩ := @advance_calm crates environment order hashKey errors horizon live
            roomy healthy call.request call.phase around authorized room service.clock
          refine calm.settled ?_ after calmly
          rw [advance_runtime]
          exact roomy
  | disconnect index =>
      simp only [Service.step]
      cases found : service.find index with
      | none => exact calm
      | some entry =>
          obtain ⟨call, live⟩ := entry
          obtain ⟨isCall, isLive⟩ := Service.find_eq_some.mp found
          refine ⟨?_, calm.answers⟩
          intro other member
          rcases List.mem_or_eq_of_mem_set member with old | rfl
          · exact calm.runtimes other old
          · exact calm.runtimes live (List.mem_of_getElem? isLive)
  | hangup loaded =>
      obtain ⟨more, heeds, isAfter, isMore⟩ :=
        @hangup_runtimes crates environment hashKey loaded service
      rw [Service.step, isAfter]
      refine ⟨List.forall_mem_append.mpr ⟨calm.runtimes, ?_⟩, calm.answers⟩
      rcases isMore with rfl | ⟨config, runtime, rfl, built, rfl⟩
      · exact fun _ => List.not_mem_nil.elim
      · exact List.forall_mem_singleton.mpr ⟨roomy_of_built built room, Locks.healthy_fresh _⟩

/-- While there is room for the cooldowns of all configurations, no answer comes of a panic. -/
theorem answers_calm {config : AppConfig} {runtime : Runtime}
    (built : Runtime.new crates environment hashKey config = some (.ok runtime))
    (room : horizon + config.cooldown ≤ clockMax) {moves : List ServiceMove}
    (roomy : ∀ move ∈ moves, move.LeavesRoom horizon) :
    (Service.run crates environment order hashKey errors runtime moves).Calm horizon := by
  have start := (@authorizationRules crates environment order hashKey errors).run built []
  refine (foldl_invariant_of_mem (fun service => Service.Holds environment _ _ _ _ service ∧
    service.Calm horizon) ?_ ⟨start, ?_⟩).2
  · intro service move member ⟨holds, calm⟩
    exact ⟨holds.change authorizationRules (service.step_cases move), calm.step holds (roomy move member)⟩
  · refine ⟨?_, fun _ => List.not_mem_nil.elim⟩
    intro live member
    rw [List.mem_singleton.mp member]
    exact ⟨roomy_of_built built room, Locks.healthy_fresh _⟩

end Panics

end ClaudeProxy
