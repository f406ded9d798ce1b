/-
Module: ClaudeProxy.Proofs.ServiceTraffic
Layer: Proofs
Purpose: The circuits in the whole service. On each runtime, the requests past their admission and the
  circuits of its providers behave as the traffic of its router alone does: a step of a request is one
  turn of that traffic, which it decides, or two for a token count, or none, and the traffic makes no
  other turn. So what holds of the circuits in every run of the traffic holds in every run of the
  service.
Trusted boundary: none
Main exports: CallPhase.progress, ApiCall.StandsAt, ApiCall.turns, ApiCall.departure, trafficAnswers,
  Shadows, shadows_step, circuits_refine
-/
import ClaudeProxy.Library.Processes
import ClaudeProxy.Proofs.Reports
import ClaudeProxy.Proofs.RuntimeTurns

namespace ClaudeProxy

open Library

/-! ### Where requests stand -/

/-- Where a request past its admission stands in the traffic. -/
def CallPhase.progress : CallPhase → Option Progress
  | .executing _ _ left _ => some (.executing left)
  | .opening _ _ _ left _ => some (.opening left)
  | .reading _ _ _ candidate events => some (.reading candidate events)
  | _ => none

/-- The traffic has the circuits of a runtime, and its requests past their admission, in some order. -/
structure Shadows (calls : List ApiCall) (circuits : Circuits) (traffic : Traffic) : Prop where
  circuits : traffic.circuits = circuits
  active : Sees (fun call : ApiCall => call.phase.progress) calls traffic.active

/-! ### Turns -/

/-- Where the request stands among the active ones, or where it would come in. -/
def ApiCall.StandsAt (position : Nat) (traffic : Traffic) (call : ApiCall) : Prop :=
  match call.phase.progress with
  | some progress => traffic.active[position]? = some progress
  | none => position = traffic.active.length

/-- What the next step of a request is in the traffic. A count is a request that goes away as soon as it
has its candidates. -/
def ApiCall.turns (crates : Crates) (errors : JsonErrors) (live : LiveRuntime) (around : Surroundings)
    (position : Nat) (call : ApiCall) : List TrafficMove :=
  match call.phase with
  | .arrived | .timed .. | .counted _ => []
  | .permitted client =>
      match call.request.endpoint with
      | .messages => []
      | .countTokens =>
          match live.runtime.readCount crates errors (live.identity client) call.request.body with
          | .error _ => []
          | .ok (route, request) =>
              [.arrive false route request around.draws around.clock, .disconnect position]
  | .admitted client =>
      match live.runtime.readMessages crates errors (live.identity client) call.request.body with
      | .error _ => []
      | .ok (route, request) => [.arrive request.stream route request around.draws around.clock]
  | .executing .. | .opening .. => [.attempt position around.upstream]
  | .reading .. => [.finish position around.now]

/-- What it is in the traffic that the client of a request goes away. -/
def ApiCall.departure (position : Nat) (call : ApiCall) : List TrafficMove :=
  match call.phase.progress with
  | some _ => [.disconnect position]
  | none => []

/-- The answers of the traffic to what happens on a runtime. -/
def trafficAnswers (crates : Crates) (errors : JsonErrors) : RuntimeAnswers Traffic TrafficMove where
  ticked _ := []
  stepped _ live call around traffic turns :=
    ∃ position, call.StandsAt position traffic ∧ turns = call.turns crates errors live around position
  left call traffic turns :=
    ∃ position, call.StandsAt position traffic ∧ turns = call.departure position

section Steps

variable {crates : Crates} {environment : Environment} {order : IterationOrder}
  {hashKey : String → Digest} {errors : JsonErrors} {traffic : Traffic}
  {calls : List ApiCall} {index : Nat} {call : ApiCall} {live after : LiveRuntime}

theorem standsAt_end (waiting : call.phase.progress = none) :
    call.StandsAt traffic.active.length traffic := by
  unfold ApiCall.StandsAt
  rw [waiting]

theorem standsAt_of_active {progress : Progress} {position : Nat}
    (stands : call.phase.progress = some progress) (isHere : traffic.active[position]? = some progress) :
    call.StandsAt position traffic := by
  unfold ApiCall.StandsAt
  rw [stands]
  exact isHere

/-- The step of a request leaves the traffic as it is: it is not past its admission. -/
theorem Shadows.waits {result : StepResult} (shadows : Shadows calls live.circuits traffic)
    (isCall : calls[index]? = some call) (waiting : call.phase.progress = none)
    (same : after.circuits = live.circuits)
    (waits : ∀ next, result = .goesOn next → next.progress = none) :
    Shadows (result.callsAfter index call calls) after.circuits traffic := by
  refine ⟨shadows.circuits.trans same.symm, ?_⟩
  cases result with
  | goesOn next => exact shadows.active.stay isCall ((waits next rfl).trans waiting.symm)
  | ends outcome => exact shadows.active.wait isCall waiting

/-- A report in the traffic is that of the runtime. -/
theorem settle_report (same : traffic.circuits = live.circuits) (provider : Provider) (now : Instant)
    (ending : AttemptEnding) (report : CircuitReport) :
    (traffic.settle provider now ending (some report)).1 = (live.report provider now report).1 ∧
      (traffic.settle provider now ending (some report)).2.circuits =
        (live.report provider now report).2.circuits := by
  simp only [Traffic.settle, Traffic.record, LiveRuntime.report, same, and_self]

theorem settle_active (provider : Provider) (now : Instant) (ending : AttemptEnding)
    (report : Option CircuitReport) :
    (traffic.settle provider now ending report).2.active = traffic.active := by
  cases report <;> rfl

/-! ### The look at the targets -/

/-- One more request is past its admission. -/
theorem Shadows.admit {next : CallPhase} {progress : Progress}
    (shadows : Shadows calls live.circuits traffic) (isCall : calls[index]? = some call)
    (waiting : call.phase.progress = none) (stands : next.progress = some progress)
    (circuits : Circuits) :
    Shadows (calls.set index { call with phase := next }) circuits
      { traffic with circuits := circuits, active := traffic.active ++ [progress] } :=
  ⟨rfl, shadows.active.enter isCall waiting stands⟩

/-- Only the circuits have changed. -/
theorem Shadows.look (shadows : Shadows calls live.circuits traffic)
    (isCall : calls[index]? = some call) (waiting : call.phase.progress = none)
    (circuits : Circuits) :
    Shadows (calls.eraseIdx index) circuits { traffic with circuits := circuits } :=
  ⟨rfl, shadows.active.wait isCall waiting⟩

/-- The start of the attempts is an arrival. -/
theorem admitted_turn (order : IterationOrder)
    (shadows : Shadows calls live.circuits traffic)
    (isCall : calls[index]? = some call) (waiting : call.phase.progress = none) (client : Nat)
    (routed : RoutedRequest) (around : Surroundings) :
    let step := live.gather crates around routed
      (startAttempts crates environment live.runtime.router.maxAttempts client routed)
    Shadows (step.1.callsAfter index call calls) step.2.circuits
      (traffic.step crates environment order live.runtime.router
        (.arrive routed.request.stream routed.route routed.request around.draws around.clock)) := by
  have left := shadows.look isCall waiting
  simp only [LiveRuntime.gather, Traffic.step, Traffic.arrive, shadows.circuits]
  rcases live.runtime.router.candidates crates around.draws around.clock live.circuits routed.route
    routed.request with ⟨circuits, _ | _ | candidates⟩
  · exact left circuits
  · exact left circuits
  · simp only [startAttempts]
    by_cases inParts : routed.request.stream = true
    · simp only [inParts, if_true]
      cases estimateTokens crates environment candidates with
      | error error => exact left circuits
      | ok inputTokens => exact shadows.admit isCall waiting rfl circuits
    · simp only [inParts]
      exact shadows.admit isCall waiting rfl circuits

/-- A count is an arrival that goes away at once. -/
theorem counted_turns (order : IterationOrder)
    (shadows : Shadows calls live.circuits traffic)
    (isCall : calls[index]? = some call) (waiting : call.phase.progress = none)
    (routed : RoutedRequest) (around : Surroundings) :
    let step := live.gather crates around routed (countFirst crates environment)
    Shadows (step.1.callsAfter index call calls) step.2.circuits
      ((traffic.step crates environment order live.runtime.router
          (.arrive false routed.route routed.request around.draws around.clock)).step crates environment
        order live.runtime.router (.disconnect traffic.active.length)) := by
  have left := shadows.look isCall waiting
  simp only [LiveRuntime.gather, Traffic.step, Traffic.arrive, Traffic.leave, shadows.circuits,
    Bool.false_eq_true, if_false]
  rcases live.runtime.router.candidates crates around.draws around.clock live.circuits routed.route
    routed.request with ⟨circuits, _ | _ | candidates⟩
  · simp only [List.eraseIdx_of_length_le (Nat.le_refl _)]
    exact left circuits
  · simp only [List.eraseIdx_of_length_le (Nat.le_refl _)]
    exact left circuits
  · have ended : (countFirst crates environment candidates).callsAfter index call calls =
        calls.eraseIdx index := by
      cases candidates <;> rfl
    have gone : (traffic.active ++ [Progress.executing
        (candidates.take live.runtime.router.maxAttempts)]).eraseIdx traffic.active.length =
          traffic.active := by
      rw [List.eraseIdx_append_of_length_le (Nat.le_refl _), Nat.sub_self]
      simp
    simp only [gone, ended]
    exact left circuits

/-! ### Attempts and the rest of a stream -/

/-- A request leaves after its attempt, or goes on after it. -/
theorem lost_turn {position : Nat} {goesOn : Bool} {next : CallPhase} {other : Progress}
    {settled : Option Unit × Traffic} {returned : Option Unit} (error : ProxyError)
    (sameActive : settled.2.active = traffic.active) (sameReturn : settled.1 = returned)
    (circuits : settled.2.circuits = after.circuits)
    (erased : Sees (fun call : ApiCall => call.phase.progress) (calls.eraseIdx index)
      (traffic.active.eraseIdx position))
    (replaced : Sees (fun call : ApiCall => call.phase.progress)
      (calls.set index { call with phase := next }) (traffic.active.set position other)) :
    Shadows ((afterError returned error goesOn next).callsAfter index call calls) after.circuits
      (Traffic.afterError position goesOn other settled) := by
  obtain ⟨returns, later⟩ := settled
  dsimp only at sameActive sameReturn circuits
  subst sameReturn
  cases returns with
  | none =>
      refine ⟨circuits, ?_⟩
      simp only [Traffic.afterError, Traffic.leave, sameActive]
      exact erased
  | some _ =>
      cases goesOn with
      | true =>
          refine ⟨circuits, ?_⟩
          simp only [Traffic.afterError, if_true, Traffic.become, sameActive]
          exact replaced
      | false =>
          refine ⟨circuits, ?_⟩
          simp only [Traffic.afterError, Bool.false_eq_true, if_false, Traffic.leave, sameActive]
          exact erased

theorem executing_turn (router : Router) (shadows : Shadows calls live.circuits traffic)
    (isCall : calls[index]? = some call) {client : Nat} {routed : RoutedRequest}
    {left : List Candidate} {failures : List ProxyError}
    (isPhase : call.phase = .executing client routed left failures) (clock : Instant)
    (around : Surroundings) :
    let step := call.phase.advance crates environment order hashKey errors call.request clock around
      live
    ∃ position, call.StandsAt position traffic ∧
      Shadows (step.1.callsAfter index call calls) step.2.circuits
        (traffic.step crates environment order router (.attempt position around.upstream)) := by
  have stands : call.phase.progress = some (.executing left) := by rw [isPhase]; rfl
  obtain ⟨position, isHere, erased, replaced⟩ := shadows.active.place isCall stands
  refine ⟨position, standsAt_of_active stands isHere, ?_⟩
  cases left with
  | nil =>
      simp only [isPhase, CallPhase.advance, Traffic.step, Traffic.attempt, isHere]
      exact ⟨shadows.circuits, erased⟩
  | cons candidate rest =>
      simp only [isPhase, CallPhase.advance, Traffic.step, Traffic.attempt, isHere]
      cases candidate.turn (Candidate.execute crates environment) executeElapsed around.upstream with
      | won response =>
          obtain ⟨_, circuits⟩ := settle_report shadows.circuits candidate.provider
            around.upstream.finishedAt .succeeded .success
          refine ⟨circuits, ?_⟩
          simp only [Traffic.leave, settle_active]
          exact erased
      | lost error goesOn =>
          obtain ⟨returns, circuits⟩ := settle_report shadows.circuits candidate.provider
            around.upstream.finishedAt (.failed error) (.failure error)
          exact lost_turn error (settle_active candidate.provider _ _ _) returns circuits erased
            (replaced _ _ rfl)

theorem opening_turn (router : Router) (shadows : Shadows calls live.circuits traffic)
    (isCall : calls[index]? = some call) {client inputTokens : Nat} {routed : RoutedRequest}
    {left : List Candidate} {failures : List ProxyError}
    (isPhase : call.phase = .opening client routed inputTokens left failures) (clock : Instant)
    (around : Surroundings) :
    let step := call.phase.advance crates environment order hashKey errors call.request clock around
      live
    ∃ position, call.StandsAt position traffic ∧
      Shadows (step.1.callsAfter index call calls) step.2.circuits
        (traffic.step crates environment order router (.attempt position around.upstream)) := by
  have stands : call.phase.progress = some (.opening left) := by rw [isPhase]; rfl
  obtain ⟨position, isHere, erased, replaced⟩ := shadows.active.place isCall stands
  refine ⟨position, standsAt_of_active stands isHere, ?_⟩
  cases left with
  | nil =>
      simp only [isPhase, CallPhase.advance, Traffic.step, Traffic.attempt, isHere]
      exact ⟨shadows.circuits, erased⟩
  | cons candidate rest =>
      simp only [isPhase, CallPhase.advance, Traffic.step, Traffic.attempt, isHere]
      cases candidate.turn (Candidate.stream crates environment order) streamElapsed
          around.upstream with
      | won events => exact ⟨shadows.circuits, replaced _ _ rfl⟩
      | lost error goesOn =>
          obtain ⟨returns, circuits⟩ := settle_report shadows.circuits candidate.provider
            around.upstream.finishedAt (.failed error) (.failure error)
          exact lost_turn error (settle_active candidate.provider _ _ _) returns circuits erased
            (replaced _ _ rfl)

theorem reading_turn (router : Router) (shadows : Shadows calls live.circuits traffic)
    (isCall : calls[index]? = some call) {client inputTokens : Nat} {routed : RoutedRequest}
    {candidate : Candidate} {events : Feed (Except ProxyError ProviderEvent)}
    (isPhase : call.phase = .reading client routed inputTokens candidate events) (clock : Instant)
    (around : Surroundings) :
    let step := call.phase.advance crates environment order hashKey errors call.request clock around
      live
    ∃ position, call.StandsAt position traffic ∧
      Shadows (step.1.callsAfter index call calls) step.2.circuits
        (traffic.step crates environment order router (.finish position around.now)) := by
  have stands : call.phase.progress = some (.reading candidate events) := by rw [isPhase]; rfl
  obtain ⟨position, isHere, erased, _⟩ := shadows.active.place isCall stands
  refine ⟨position, standsAt_of_active stands isHere, ?_⟩
  obtain ⟨isReport, circuits⟩ := forwardEvents_circuits candidate.provider around.now live.circuits
    events.items events.tail
  simp only [isPhase, CallPhase.advance, Traffic.step, Traffic.finish, isHere, shadows.circuits]
  refine ⟨?_, ?_⟩
  · rw [isReport]
    revert circuits
    cases streamReport events.items events.tail with
    | none => exact fun circuits => shadows.circuits.trans circuits.1.symm
    | some report =>
        intro circuits
        have settled := (settle_report shadows.circuits candidate.provider around.now
          (streamEnding events.items events.tail) report).2
        exact settled.trans circuits.1.symm
  · simp only [Traffic.leave, settle_active]
    exact erased

/-- A step of a request is its turns in the traffic. -/
theorem shadows_step (shadows : Shadows calls live.circuits traffic)
    (isCall : calls[index]? = some call) (clock : Instant) (around : Surroundings) :
    let step := call.phase.advance crates environment order hashKey errors call.request clock around
      live
    ∃ position, call.StandsAt position traffic ∧
      Shadows (step.1.callsAfter index call calls) step.2.circuits
        ((call.turns crates errors live around position).foldl
          (Traffic.step crates environment order live.runtime.router) traffic) := by
  cases isPhase : call.phase with
  | arrived =>
      have waiting : call.phase.progress = none := by rw [isPhase]; rfl
      simp only [ApiCall.turns, isPhase, List.foldl_nil]
      refine ⟨_, standsAt_end waiting, shadows.waits isCall waiting ?_ ?_⟩
      · simp only [CallPhase.advance]
        split <;> rfl
      · simp only [CallPhase.advance]
        split <;> simp [CallPhase.progress]
  | timed client now =>
      have waiting : call.phase.progress = none := by rw [isPhase]; rfl
      simp only [ApiCall.turns, isPhase, List.foldl_nil]
      refine ⟨_, standsAt_end waiting, shadows.waits isCall waiting ?_ ?_⟩
      · simp only [CallPhase.advance]
        split <;> rfl
      · simp only [CallPhase.advance]
        split <;> simp [CallPhase.progress]
  | counted client =>
      have waiting : call.phase.progress = none := by rw [isPhase]; rfl
      simp only [ApiCall.turns, isPhase, List.foldl_nil]
      refine ⟨_, standsAt_end waiting, shadows.waits isCall waiting ?_ ?_⟩
      · simp only [CallPhase.advance]
        split <;> rfl
      · simp only [CallPhase.advance]
        split <;> simp [CallPhase.progress]
  | permitted client =>
      have waiting : call.phase.progress = none := by rw [isPhase]; rfl
      refine ⟨_, standsAt_end waiting, ?_⟩
      cases endpoint : call.request.endpoint with
      | messages =>
          simp only [ApiCall.turns, isPhase, endpoint, List.foldl_nil]
          refine shadows.waits isCall waiting ?_ ?_
          · simp only [CallPhase.advance, endpoint]
            split <;> rfl
          · simp only [CallPhase.advance, endpoint]
            split <;> simp [CallPhase.progress]
      | countTokens =>
          simp only [ApiCall.turns, isPhase, CallPhase.advance, endpoint]
          cases live.runtime.readCount crates errors (live.identity client) call.request.body with
          | error error => exact ⟨shadows.circuits, shadows.active.wait isCall waiting⟩
          | ok read => exact counted_turns order shadows isCall waiting ⟨read.1, read.2⟩ around
  | admitted client =>
      have waiting : call.phase.progress = none := by rw [isPhase]; rfl
      refine ⟨_, standsAt_end waiting, ?_⟩
      simp only [ApiCall.turns, isPhase, CallPhase.advance]
      cases live.runtime.readMessages crates errors (live.identity client) call.request.body with
      | error error => exact ⟨shadows.circuits, shadows.active.wait isCall waiting⟩
      | ok read =>
          exact admitted_turn order shadows isCall waiting client ⟨read.1, read.2⟩ around
  | executing client routed left failures =>
      obtain ⟨position, stands, turned⟩ := executing_turn live.runtime.router shadows isCall isPhase
        clock around
      simp only [ApiCall.turns, isPhase] at turned ⊢
      exact ⟨position, stands, turned⟩
  | opening client routed inputTokens left failures =>
      obtain ⟨position, stands, turned⟩ := opening_turn live.runtime.router shadows isCall isPhase
        clock around
      simp only [ApiCall.turns, isPhase] at turned ⊢
      exact ⟨position, stands, turned⟩
  | reading client routed inputTokens candidate events =>
      obtain ⟨position, stands, turned⟩ := reading_turn live.runtime.router shadows isCall isPhase
        clock around
      simp only [ApiCall.turns, isPhase] at turned ⊢
      exact ⟨position, stands, turned⟩

/-- A request whose client goes away. -/
theorem shadows_leave (crates : Crates) (environment : Environment) (order : IterationOrder)
    (router : Router) (shadows : Shadows calls live.circuits traffic)
    (isCall : calls[index]? = some call) :
    ∃ position, call.StandsAt position traffic ∧
      Shadows (calls.eraseIdx index) live.circuits
        ((call.departure position).foldl (Traffic.step crates environment order router) traffic) := by
  cases stands : call.phase.progress with
  | none =>
      refine ⟨_, standsAt_end stands, ?_⟩
      simp only [ApiCall.departure, stands, List.foldl_nil]
      exact ⟨shadows.circuits, shadows.active.wait isCall stands⟩
  | some progress =>
      obtain ⟨position, isHere, erased, _⟩ := shadows.active.place isCall stands
      refine ⟨position, standsAt_of_active stands isHere, ?_⟩
      simp only [ApiCall.departure, stands, List.foldl_cons, List.foldl_nil]
      exact ⟨shadows.circuits, erased⟩

/-! ### Runs -/

theorem trafficRules (runtime : Runtime) :
    TurnRules crates environment order hashKey errors (trafficAnswers crates errors) runtime
      (Traffic.step crates environment order runtime.router) {}
      fun _ live calls traffic => Shadows calls live.circuits traffic where
  starts := ⟨rfl, .rfl⟩
  ticks _ shadows := shadows
  arrives isNew shadows := ⟨shadows.circuits, shadows.active.append (by rw [isNew]; rfl)⟩
  steps {clock live calls traffic index call} around isRuntime shadows isCall := by
    subst isRuntime
    obtain ⟨position, stands, turned⟩ := @shadows_step crates environment order hashKey errors traffic
      calls index call live shadows isCall clock around
    refine ⟨_, ⟨position, stands, rfl⟩, ?_⟩
    rw [StepResult.liveAfter_circuits]
    exact turned
  leaves isRuntime shadows isCall := by
    obtain ⟨position, stands, left⟩ := shadows_leave crates environment order runtime.router shadows
      isCall
    exact ⟨_, ⟨position, stands, rfl⟩, left⟩

end Steps

end ClaudeProxy
