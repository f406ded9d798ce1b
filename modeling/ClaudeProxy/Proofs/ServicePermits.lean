/-
Module: ClaudeProxy.Proofs.ServicePermits
Layer: Proofs
Purpose: Where the permits are. In every run of the service, with any reloads, each permit of each
  runtime is free or held by one request in progress, so none is lost or given out twice, however its
  request ends; and a request is refused one exactly when as many are held as its configuration gives.
Trusted boundary: none
Main exports: Service.inFlight, Service.inFlightGlobal, CallPhase.Exchanges, LiveRuntime.Balanced,
  balancedRules, service_permits
-/
import ClaudeProxy.Proofs.Authorization
import ClaudeProxy.Proofs.Reload
import ClaudeProxy.Proofs.RuntimeIsolation

namespace ClaudeProxy

open Library

/-! ### Who holds what -/

namespace CallPhase

/-- How many permits of a client it holds. -/
def held (client : Nat) (phase : CallPhase) : Nat := if phase.permitOf = some client then 1 else 0

def heldGlobal (phase : CallPhase) : Nat := phase.holdsGlobal.toNat

end CallPhase

def ApiCall.holdsPermitOf (number client : Nat) (call : ApiCall) : Bool :=
  call.runtime = number && call.phase.permitOf = some client

def ApiCall.holdsGlobalOf (number : Nat) (call : ApiCall) : Bool :=
  call.runtime = number && call.phase.holdsGlobal

/-- How many requests of a client are in flight on a runtime. -/
def Service.inFlight (number client : Nat) (service : Service) : Nat :=
  service.calls.countP (ApiCall.holdsPermitOf number client)

/-- How many requests for messages are in flight on a runtime. -/
def Service.inFlightGlobal (number : Nat) (service : Service) : Nat :=
  service.calls.countP (ApiCall.holdsGlobalOf number)

/-- The phase whose permits are held after a step, until the request leaves. -/
def StepResult.phaseAfter (phase : CallPhase) : StepResult → CallPhase
  | .goesOn next => next
  | .ends _ => phase

/-- The requests on a runtime that hold something are those that hold it in the part of the runtime. -/
theorem alone_countP (service : Service) (number : Nat) (holds : CallPhase → Bool) :
    (service.alone number).calls.countP (fun call => holds call.phase) =
      service.calls.countP fun call => call.runtime = number && holds call.phase := by
  simp only [Service.alone, part, List.countP_map, List.countP_filter]
  apply List.countP_congr
  intro call _
  simp [ApiCall.onOwn, ApiCall.isOn, and_comm]

/-! ### One step -/

/-- Permits are moved between the runtime and the request. -/
structure CallPhase.Exchanges (phase next : CallPhase) (before after : Limits) : Prop where
  permits : ∀ client, (after.clients client).permits + next.held client =
    (before.clients client).permits + phase.held client
  global : after.global + next.heldGlobal = before.global + phase.heldGlobal

/-- Nothing is moved. -/
theorem CallPhase.Exchanges.same {phase next : CallPhase} {before after : Limits}
    (permits : ∀ client, (after.clients client).permits = (before.clients client).permits)
    (global : after.global = before.global) (samePermit : next.permitOf = phase.permitOf)
    (sameGlobal : next.holdsGlobal = phase.holdsGlobal) : phase.Exchanges next before after := by
  constructor
  · intro client
    rw [permits, CallPhase.held, CallPhase.held, samePermit]
  · rw [global, CallPhase.heldGlobal, CallPhase.heldGlobal, sameGlobal]

/-- A request gives back the permit of its client that it holds. -/
theorem CallPhase.release_permits (phase : CallPhase) (limits : Limits) (client : Nat) :
    ((phase.release limits).clients client).permits =
      (limits.clients client).permits + phase.held client := by
  unfold CallPhase.release CallPhase.held
  cases holder : phase.permitOf with
  | none => cases phase.holdsGlobal <;> simp [Limits.releaseGlobal]
  | some owner =>
      by_cases here : client = owner
      · subst here
        cases phase.holdsGlobal <;>
          simp [Limits.releasePermit, Limits.releaseGlobal, ClientLimits.releasePermit]
      · cases phase.holdsGlobal <;>
          simp [Limits.releasePermit, Limits.releaseGlobal, Limits.set_of_ne here, Ne.symm here]

/-- So it does with a global permit. -/
theorem CallPhase.release_global (phase : CallPhase) (limits : Limits) :
    (phase.release limits).global = limits.global + phase.heldGlobal := by
  unfold CallPhase.release CallPhase.heldGlobal
  cases phase.permitOf <;> cases phase.holdsGlobal <;>
    simp [Limits.releasePermit, Limits.releaseGlobal, Limits.set]

section Steps

variable {crates : Crates} {environment : Environment} {order : IterationOrder}
  {hashKey : String → Digest} {errors : JsonErrors}

/-- A look at the targets takes no permit. -/
theorem gather_limits (around : Surroundings) (live : LiveRuntime) (routed : RoutedRequest)
    (next : List Candidate → StepResult) :
    (live.gather crates around routed next).2.limits = live.limits := by
  unfold LiveRuntime.gather
  split <;> rfl

theorem startAttempts_exchanges (maxAttempts client : Nat) (routed : RoutedRequest)
    (candidates : List Candidate) (limits : Limits) :
    CallPhase.Exchanges (.admitted client)
      ((startAttempts crates environment maxAttempts client routed candidates).phaseAfter
        (.admitted client)) limits limits := by
  unfold startAttempts
  dsimp only
  split
  · split <;> exact .same (fun _ => rfl) rfl rfl rfl
  · exact .same (fun _ => rfl) rfl rfl rfl

theorem afterError_exchanges {phase next : CallPhase} (returned : Option Unit) (error : ProxyError)
    (goesOn : Bool) (limits : Limits) (samePermit : next.permitOf = phase.permitOf)
    (sameGlobal : next.holdsGlobal = phase.holdsGlobal) :
    phase.Exchanges ((afterError returned error goesOn next).phaseAfter phase) limits limits := by
  unfold afterError
  split
  · exact .same (fun _ => rfl) rfl rfl rfl
  · split
    · exact .same (fun _ => rfl) rfl samePermit sameGlobal
    · exact .same (fun _ => rfl) rfl rfl rfl

/-- A permit is taken exactly if the request comes to hold it. -/
theorem acquirePermit_exchanges (live : LiveRuntime) (client : Nat) :
    let taken := (live.limits.clients client).acquirePermit
    CallPhase.Exchanges (.counted client)
      (if taken.1.isOk = true then .permitted client else .counted client) live.limits
      (live.limits.set client taken.2) := by
  intro taken
  by_cases none : (live.limits.clients client).permits = 0
  · have isTaken : taken = (.error concurrencyExceeded, live.limits.clients client) := if_pos none
    rw [isTaken]
    exact .same (fun other => Limits.set_permits rfl) rfl rfl rfl
  · have isTaken : taken = (.ok (), { live.limits.clients client with
        permits := (live.limits.clients client).permits - 1 }) := if_neg none
    rw [isTaken]
    constructor
    · intro other
      by_cases here : other = client
      · subst here
        simp only [Limits.set_self, Except.isOk, Except.toBool, if_true, CallPhase.held,
          CallPhase.permitOf, reduceCtorEq, if_false]
        omega
      · simp [Limits.set_of_ne here, Except.isOk, Except.toBool, CallPhase.held,
          CallPhase.permitOf, Ne.symm here]
    · rfl

/-- So is a global permit. -/
theorem acquireGlobal_exchanges (limits : Limits) (client : Nat) :
    CallPhase.Exchanges (.permitted client)
      (if limits.acquireGlobal.1.isOk = true then .admitted client else .permitted client) limits
      limits.acquireGlobal.2 := by
  by_cases none : limits.global = 0
  · have isTaken : limits.acquireGlobal = (.error globalExceeded, limits) := if_pos none
    rw [isTaken]
    exact .same (fun _ => rfl) rfl rfl rfl
  · have isTaken : limits.acquireGlobal = (.ok (), { limits with global := limits.global - 1 }) :=
      if_neg none
    rw [isTaken]
    constructor
    · intro other
      rfl
    · simp only [Except.isOk, Except.toBool, if_true, CallPhase.heldGlobal, CallPhase.holdsGlobal,
        Bool.toNat_true, Bool.toNat_false]
      omega

/-- Every step of a request moves permits, and nothing else makes or destroys them. -/
theorem advance_exchanges (request : ApiRequest) (clock : Instant) (around : Surroundings)
    (live : LiveRuntime) (phase : CallPhase) :
    let step := phase.advance crates environment order hashKey errors request clock around live
    phase.Exchanges (step.1.phaseAfter phase) live.limits step.2.limits := by
  cases phase with
  | arrived =>
      simp only [CallPhase.advance]
      split <;> exact .same (fun _ => rfl) rfl rfl rfl
  | timed client now =>
      have permits : ∀ other, ((live.limits.set client
          ((live.identity client).checkRate now (live.limits.clients client)).2).clients
            other).permits = (live.limits.clients other).permits :=
        fun other => Limits.set_permits (checkRate_permits _ now _)
      simp only [CallPhase.advance]
      revert permits
      rcases (live.identity client).checkRate now (live.limits.clients client) with ⟨_ | _, after⟩
      · exact fun permits => .same permits rfl rfl rfl
      · exact fun permits => .same permits rfl rfl rfl
  | counted client =>
      have exchanges := acquirePermit_exchanges live client
      simp only [CallPhase.advance]
      revert exchanges
      rcases (live.limits.clients client).acquirePermit with ⟨_ | _, after⟩
      · exact id
      · exact id
  | permitted client =>
      simp only [CallPhase.advance]
      split
      · have exchanges := acquireGlobal_exchanges live.limits client
        revert exchanges
        rcases live.limits.acquireGlobal with ⟨_ | _, after⟩
        · exact id
        · exact id
      · split
        · exact .same (fun _ => rfl) rfl rfl rfl
        · rename_i route normalized _
          rw [gather_limits]
          have ended : ∀ candidates,
              (countFirst crates environment candidates).phaseAfter (.permitted client) =
                .permitted client := by
            intro candidates
            cases candidates <;> rfl
          unfold LiveRuntime.gather
          split
          · exact .same (fun _ => rfl) rfl rfl rfl
          · exact .same (fun _ => rfl) rfl rfl rfl
          · rw [ended]
            exact .same (fun _ => rfl) rfl rfl rfl
  | admitted client =>
      simp only [CallPhase.advance]
      split
      · exact .same (fun _ => rfl) rfl rfl rfl
      · rename_i route normalized _
        rw [gather_limits]
        unfold LiveRuntime.gather
        split
        · exact .same (fun _ => rfl) rfl rfl rfl
        · exact .same (fun _ => rfl) rfl rfl rfl
        · exact startAttempts_exchanges ..
  | executing client routed left failures =>
      cases left with
      | nil => exact .same (fun _ => rfl) rfl rfl rfl
      | cons candidate rest =>
          simp only [CallPhase.advance]
          split
          · exact .same (fun _ => rfl) rfl rfl rfl
          · exact afterError_exchanges _ _ _ _ rfl rfl
  | opening client routed inputTokens left failures =>
      cases left with
      | nil => exact .same (fun _ => rfl) rfl rfl rfl
      | cons candidate rest =>
          simp only [CallPhase.advance]
          split
          · exact .same (fun _ => rfl) rfl rfl rfl
          · exact afterError_exchanges _ _ _ _ rfl rfl
  | reading client routed inputTokens candidate events =>
      exact .same (fun _ => rfl) rfl rfl rfl

/-! ### The part of a runtime -/

/-- Every permit of a runtime is free or held by a request on it. -/
structure LiveRuntime.Balanced (live : LiveRuntime) (calls : List ApiCall) : Prop where
  permits : ∀ client, (live.limits.clients client).permits +
      calls.countP (fun call => call.phase.permitOf = some client) =
    (live.runtime.limits.clients client).permits
  global : live.limits.global + calls.countP (fun call => call.phase.holdsGlobal) =
    live.runtime.config.limits.globalConcurrency

theorem countP_permit (call : ApiCall) (client : Nat) :
    [call].countP (fun call => call.phase.permitOf = some client) = call.phase.held client := by
  by_cases here : call.phase.permitOf = some client <;> simp [CallPhase.held, here]

theorem countP_global (call : ApiCall) :
    [call].countP (fun call => call.phase.holdsGlobal) = call.phase.heldGlobal := by
  cases here : call.phase.holdsGlobal <;> simp [CallPhase.heldGlobal, here]

variable {calls : List ApiCall} {index : Nat} {call : ApiCall} {live after : LiveRuntime}

/-- A request goes on to another phase. -/
theorem LiveRuntime.Balanced.goOn (balanced : live.Balanced calls)
    (isCall : calls[index]? = some call) (same : after.runtime = live.runtime) {next : CallPhase}
    (exchanges : call.phase.Exchanges next live.limits after.limits) :
    after.Balanced (calls.set index { call with phase := next }) := by
  obtain ⟨permits, global⟩ := balanced
  constructor
  · intro client
    have total := countP_set_add (fun call : ApiCall => call.phase.permitOf = some client) isCall
      { call with phase := next }
    have moved := exchanges.permits client
    have before := permits client
    simp only [countP_permit] at total
    rw [same]
    omega
  · have total := countP_set_add (fun call : ApiCall => call.phase.holdsGlobal) isCall
      { call with phase := next }
    have moved := exchanges.global
    simp only [countP_global] at total
    rw [same]
    omega

/-- What a request holds that leaves is free. -/
theorem LiveRuntime.Balanced.leave (balanced : live.Balanced calls)
    (isCall : calls[index]? = some call) (same : after.runtime = live.runtime)
    (exchanges : call.phase.Exchanges call.phase live.limits after.limits) :
    LiveRuntime.Balanced { after with limits := call.phase.release after.limits }
      (calls.eraseIdx index) := by
  obtain ⟨permits, global⟩ := balanced
  constructor
  · intro client
    have total := countP_eraseIdx_add
      (fun call : ApiCall => call.phase.permitOf = some client) isCall
    have freed := call.phase.release_permits after.limits client
    have moved := exchanges.permits client
    have before := permits client
    rw [countP_permit] at total
    simp only [same]
    omega
  · have total := countP_eraseIdx_add (fun call : ApiCall => call.phase.holdsGlobal) isCall
    have freed := call.phase.release_global after.limits
    have moved := exchanges.global
    rw [countP_global] at total
    simp only [same]
    omega

/-- So the permits are balanced in every run. -/
theorem balancedRules : RuntimeRules crates environment order hashKey errors
    fun _ => LiveRuntime.Balanced where
  starts runtime := ⟨fun _ => rfl, rfl⟩
  ticks elapsed balanced := balanced
  arrives request balanced := by
    obtain ⟨permits, global⟩ := balanced
    constructor
    · intro client
      rw [List.countP_append, countP_permit]
      exact permits client
    · rw [List.countP_append, countP_global]
      exact global
  steps {clock live calls index call} around balanced isCall := by
    have exchanges := @advance_exchanges crates environment order hashKey errors call.request clock
      around live call.phase
    have same := @advance_runtime crates environment order hashKey errors call.request clock around
      live call.phase
    revert exchanges same
    rcases call.phase.advance crates environment order hashKey errors call.request clock around live
      with ⟨result, after⟩
    intro exchanges same
    cases result with
    | goesOn next => exact balanced.goOn isCall same exchanges
    | ends outcome => exact balanced.leave isCall same exchanges
  leaves balanced isCall :=
    balanced.leave isCall rfl (.same (fun _ => rfl) rfl rfl rfl)

/-! ### In terms of the configurations -/

/-- The permits of a configured client that are there at first. -/
theorem Runtime.limits_permits {config : AppConfig} {runtime : Runtime}
    (registered : AuthRegistry.new environment hashKey config.clients = .ok runtime.auth)
    {client : Nat} {settings : ClientConfig} (configured : config.clients[client]? = some settings) :
    (runtime.limits.clients client).permits = settings.concurrentRequests := by
  obtain ⟨identity, isIdentity, _, concurrency⟩ := AuthRegistry.new_limits registered configured
  simp [Runtime.limits, Limits.fresh, isIdentity, concurrency]

/-- A client that a request is taken for is configured. -/
theorem configured_of_identified {config : AppConfig} {runtime : Runtime} {request : ApiRequest}
    {client : Nat} (registered : AuthRegistry.new environment hashKey config.clients = .ok runtime.auth)
    (identified : Identified hashKey runtime request client) :
    ∃ settings, config.clients[client]? = some settings := by
  obtain ⟨identity, held⟩ := registered_of_identified identified
  have bound := (List.getElem?_eq_some_iff.mp held).1
  rw [← (Except.mapM_eq_ok.mp registered).length_eq] at bound
  exact ⟨_, List.getElem?_eq_getElem bound⟩

/-- A permit is refused exactly if none is left. -/
theorem acquirePermit_refused (request : ApiRequest) (clock : Instant) (around : Surroundings)
    (live : LiveRuntime) (client : Nat) :
    (CallPhase.advance crates environment order hashKey errors request clock around live
        (.counted client)).1 = .ends (some (.error concurrencyExceeded)) ↔
      (live.limits.clients client).permits = 0 := by
  by_cases none : (live.limits.clients client).permits = 0 <;>
    simp [CallPhase.advance, ClientLimits.acquirePermit, none]

/-- So is a global permit. -/
theorem acquireGlobal_refused {request : ApiRequest} (isMessages : request.endpoint = .messages)
    (clock : Instant) (around : Surroundings) (live : LiveRuntime) (client : Nat) :
    (CallPhase.advance crates environment order hashKey errors request clock around live
        (.permitted client)).1 = .ends (some (.error globalExceeded)) ↔ live.limits.global = 0 := by
  by_cases none : live.limits.global = 0 <;>
    simp [CallPhase.advance, isMessages, Limits.acquireGlobal, none]

variable (crates environment order hashKey errors) in
/-- What the permits of a runtime are, and when its requests are refused one. -/
structure Service.PermitsExact (service : Service) (number : Nat) (live : LiveRuntime) : Prop where
  permits : ∀ client settings, live.runtime.config.clients[client]? = some settings →
    (live.limits.clients client).permits + service.inFlight number client =
      settings.concurrentRequests
  global : live.limits.global + service.inFlightGlobal number =
    live.runtime.config.limits.globalConcurrency
  refused : ∀ call ∈ service.calls, call.runtime = number → ∀ client, call.phase = .counted client →
    ∃ settings, live.runtime.config.clients[client]? = some settings ∧ ∀ around,
      ((call.phase.advance crates environment order hashKey errors call.request service.clock around
          live).1 = .ends (some (.error concurrencyExceeded)) ↔
        service.inFlight number client = settings.concurrentRequests)
  refusedGlobal : ∀ call ∈ service.calls, call.runtime = number → ∀ client,
    call.phase = .permitted client → call.request.endpoint = .messages → ∀ around,
      ((call.phase.advance crates environment order hashKey errors call.request service.clock around
          live).1 = .ends (some (.error globalExceeded)) ↔
        service.inFlightGlobal number = live.runtime.config.limits.globalConcurrency)

/-- Every permit of every runtime is free or held by a request in progress, and a request is refused
one exactly when all are held. -/
theorem service_permits {config : AppConfig} {runtime : Runtime}
    (built : Runtime.new crates environment hashKey config = some (.ok runtime))
    (moves : List ServiceMove) {number : Nat} {live : LiveRuntime}
    (isLive : (Service.run crates environment order hashKey errors runtime moves).runtimes[number]? =
      some live) :
    (Service.run crates environment order hashKey errors runtime moves).PermitsExact crates
      environment order hashKey errors number live := by
  have balanced := (@balancedRules crates environment order hashKey errors).run runtime moves isLive
  have holds := (@authorizationRules crates environment order hashKey errors).run built moves
  generalize Service.run crates environment order hashKey errors runtime moves = service at *
  obtain ⟨loaded, isLoaded⟩ := holds.runtimes live (List.mem_of_getElem? isLive)
  obtain ⟨sameConfig, _, registered, _⟩ := Runtime.new_eq_ok isLoaded
  rw [← sameConfig] at registered
  have permits : ∀ client settings, live.runtime.config.clients[client]? = some settings →
      (live.limits.clients client).permits + service.inFlight number client =
        settings.concurrentRequests := by
    intro client settings configured
    rw [← Runtime.limits_permits registered configured, ← balanced.permits client,
      alone_countP service number fun phase => phase.permitOf = some client]
    rfl
  have global : live.limits.global + service.inFlightGlobal number =
      live.runtime.config.limits.globalConcurrency := by
    rw [← balanced.global, alone_countP service number CallPhase.holdsGlobal]
    rfl
  refine ⟨permits, global, ?_, ?_⟩
  · intro call member onRuntime client isPhase
    obtain ⟨own, isOwn, authorized⟩ := holds.calls call member
    rw [onRuntime, isLive] at isOwn
    cases isOwn
    rw [isPhase] at authorized
    obtain ⟨settings, configured⟩ := configured_of_identified registered authorized
    refine ⟨settings, configured, fun around => ?_⟩
    have total := permits client settings configured
    rw [isPhase, acquirePermit_refused]
    omega
  · intro call _ _ client isPhase isMessages around
    rw [isPhase, acquireGlobal_refused isMessages]
    omega

end Steps

/-- The request of the sample holds a permit of its client and a global one. -/
theorem service_permits_office :
    (officeService officeMoves).PermitsExact officeCrates officeEnvironment officeOrder
      (fun _ => []) officeErrors 0
      ((officeService officeMoves).runtimes.head (by decide +kernel)) := by
  exact @service_permits officeCrates officeEnvironment officeOrder (fun _ => [])
    officeErrors officeConfig officeRuntime rfl officeMoves 0 _ (by
      rw [← List.head?_eq_getElem?]
      exact List.head?_eq_some_head _)

end ClaudeProxy
