/-
Module: ClaudeProxy.Proofs.PanicFreedom
Layer: Proofs
Purpose: Which valid configurations keep a runtime from panicking. The validation makes every lookup of
  a provider succeed and every draw have a range. It says nothing about the permits of the global
  semaphore and the cooldown of the circuits: the first must fit into a semaphore, the second must
  not lead past the end of the clock.
Trusted boundary: none
Main exports: AppConfig.FitsTypes, Shared.Intact, Shared.Intact.step, PanicFree, failures_panic,
  panicFree_iff
-/
import ClaudeProxy.Library.Run
import ClaudeProxy.Server.Panics
import ClaudeProxy.Proofs.Fallback
import ClaudeProxy.Proofs.Reports

namespace ClaudeProxy

open Library

/-! ### The invariant -/

/-- A target whose provider is known and which can be drawn. -/
structure TargetConfig.Ready (router : Router) (target : TargetConfig) : Prop where
  known : (router.providers.lookup target.provider).isSome = true
  weighted : 0 < target.weight

structure PendingCall.Ready (router : Router) (call : PendingCall) : Prop where
  remaining : ∀ target ∈ call.remaining, target.Ready router
  compatible : ∀ candidate ∈ call.compatible, 0 < candidate.target.weight

/-- A runtime whose routes have ready targets, and whose providers have a threshold and a cooldown. -/
structure Runtime.Ready (threshold cooldown : Nat) (runtime : Runtime) : Prop where
  targets : ∀ route ∈ runtime.router.routes, ∀ target ∈ route.targets, target.Ready runtime.router
  limits : ∀ id provider, runtime.router.providers.lookup id = some provider →
    provider.id = id ∧ provider.failureThreshold = threshold ∧ provider.cooldown = cooldown

/-- No lock is poisoned, no semaphore has too many permits, and every call will find what it needs. -/
structure Shared.Intact (runtime : Runtime) (shared : Shared) : Prop where
  circuits : shared.circuits.Healthy
  limiters : shared.limiters.Healthy
  clientPermits : ∀ semaphore ∈ shared.clientPermits, semaphore.Sound maxPermits
  globalPermits : shared.globalPermits.Sound maxPermits
  calls : ∀ call ∈ shared.calls, call.Ready runtime.router

/-! ### The operations under a lock -/

/-- The section of the rate check never panics. -/
theorem limiterSection_returns (identity : ClientIdentity) (now : Instant)
    (limiter : List Instant) : (limiterSection identity now limiter).1.isSome = true := rfl

/-- A reading of the clock is never too early for the start of the rate window. -/
theorem subDuration_rateWindow (now : Instant) :
    subDuration now rateWindow = some ((now : Int) - rateWindow) := by
  unfold subDuration
  apply if_pos
  unfold clockMin rateWindow nanosecondsPerSecond
  omega

/-- So a rate check returns where no lock is poisoned, and poisons none. -/
theorem ClientIdentity.checkRateUnderLock_returns (identity : ClientIdentity) (client : Nat)
    (now : Instant) {limiters : Locks Nat (List Instant)} (healthy : limiters.Healthy) :
    (identity.checkRateUnderLock client now limiters).1.isSome = true ∧
      (identity.checkRateUnderLock client now limiters).2.Healthy := by
  unfold ClientIdentity.checkRateUnderLock
  rw [subDuration_rateWindow]
  exact healthy.withLock client (limiterSection_returns identity now)

/-! ### Draws -/

/-- The weights of a tier do not add up to nothing, if each is positive. -/
theorem leadingTier_sum_pos {candidates : List Candidate} (present : candidates ≠ [])
    (weighted : ∀ candidate ∈ candidates, 0 < candidate.target.weight) :
    ((leadingTier candidates).map (·.target.weight)).sum ≠ 0 := by
  cases candidates with
  | nil => exact absurd rfl present
  | cons candidate rest =>
      have positive := weighted candidate List.mem_cons_self
      unfold leadingTier
      rw [List.takeWhile_cons_of_pos (by simp), List.map_cons, List.sum_cons]
      omega

/-- With positive weights no draw panics, and the order is that of `drawOrder`. -/
theorem drawOrderOrPanic_eq (draws : Nat → Nat) (left : Nat) (candidates : List Candidate)
    (enough : candidates.length = left)
    (weighted : ∀ candidate ∈ candidates, 0 < candidate.target.weight) :
    drawOrderOrPanic draws left candidates = some (drawOrder draws left candidates) := by
  induction left generalizing candidates with
  | zero => rfl
  | succ left inductionHypothesis =>
      have present : candidates ≠ [] := List.ne_nil_of_length_eq_add_one enough
      have inside := selectTarget_lt present (draws left)
      have shorter := length_eraseIdx_selectTarget enough (draws left)
      unfold drawOrderOrPanic drawOrder
      dsimp only
      rw [if_neg (leadingTier_sum_pos present weighted), List.getElem?_eq_getElem inside]
      dsimp only
      rw [inductionHypothesis _ shorter fun candidate member =>
        weighted candidate (List.mem_of_mem_eraseIdx member)]
      rfl

/-- With positive weights no draw is made from an empty range. -/
theorem weightedPriorityOrderOrPanic_eq (draws : Nat → Nat) {candidates : List Candidate}
    (weighted : ∀ candidate ∈ candidates, 0 < candidate.target.weight) :
    weightedPriorityOrderOrPanic draws candidates =
      some (weightedPriorityOrder draws candidates) := by
  apply drawOrderOrPanic_eq draws _ _ rfl
  intro candidate member
  exact weighted candidate (List.mem_mergeSort.mp member)

/-! ### Calls of `candidates` -/

/-- A call that has ready targets gets past its next one. -/
theorem PendingCall.Ready.examine {router : Router} {call : PendingCall} (ready : call.Ready router)
    (crates : Crates) (now : Instant) {target : TargetConfig} (targetReady : target.Ready router)
    {circuits : Circuits} (healthy : circuits.Healthy) :
    ∃ next, (call.examine crates router now target circuits).1 = some next ∧
      (∀ candidate ∈ next.compatible, 0 < candidate.target.weight) ∧
      (call.examine crates router now target circuits).2.Healthy := by
  obtain ⟨provider, found⟩ := Option.isSome_iff_exists.mp targetReady.known
  unfold PendingCall.examine
  rw [found]
  dsimp only
  cases adaptRequest crates provider.capabilities call.request with
  | error error => exact ⟨_, rfl, ready.compatible, healthy⟩
  | ok adapted =>
      obtain ⟨returned, after⟩ := healthy.withLock provider.id (availableSection_returns now)
      obtain ⟨available, isAvailable⟩ := Option.isSome_iff_exists.mp returned
      unfold Provider.available
      dsimp only
      rw [isAvailable]
      refine ⟨_, rfl, ?_, after⟩
      cases available with
      | false => exact ready.compatible
      | true =>
          intro candidate member
          rcases List.mem_append.mp member with before | added
          · exact ready.compatible candidate before
          · rw [List.mem_singleton.mp added]
            exact targetReady.weighted

/-- A call with positive weights returns. -/
theorem PendingCall.Ready.finish {router : Router} {call : PendingCall} (ready : call.Ready router)
    (draws : Nat → Nat) : (call.finish draws).isSome = true := by
  unfold PendingCall.finish
  split
  · rfl
  · rw [weightedPriorityOrderOrPanic_eq draws ready.compatible]
    rfl

/-! ### Agreement with the look of a whole call -/

/-- A look at a target whose provider is known is what `Gathering.add` says. -/
theorem PendingCall.examine_eq_add {crates : Crates} {router : Router} {call : PendingCall}
    {target : TargetConfig} {provider : Provider}
    (found : router.providers.lookup target.provider = some provider) (now : Instant)
    (circuits : Circuits) :
    let added := Gathering.add crates call.request now
      { circuits := circuits
        compatible := call.compatible
        capabilityError := call.capabilityError } (provider, target)
    call.examine crates router now target circuits =
      (if added.panicked = true then none
        else some { call with
          compatible := added.compatible, capabilityError := added.capabilityError },
        added.circuits) := by
  unfold PendingCall.examine Gathering.add
  rw [found]
  dsimp only
  cases adaptRequest crates provider.capabilities call.request with
  | error error => rfl
  | ok adapted =>
      dsimp only
      rcases provider.available now circuits with ⟨_ | available, after⟩
      · rfl
      · cases available <;> rfl

/-! ### One step -/

namespace Shared

section Step

variable {crates : Crates} {runtime : Runtime} {threshold cooldown : Nat} {horizon : Instant}
  {shared : Shared}

/-- Calls that are ready leave the rest intact. -/
theorem Intact.withCalls {calls : List PendingCall} (intact : shared.Intact runtime)
    (ready : ∀ call ∈ calls, call.Ready runtime.router) :
    ({ shared with calls := calls } : Shared).Intact runtime :=
  { intact with calls := ready }

/-- A look at a target returns, and leaves everything intact. -/
theorem Intact.examine (intact : shared.Intact runtime) (place : Nat) (now : Instant) :
    (shared.examine crates runtime place now).1.isSome = true ∧
      (shared.examine crates runtime place now).2.Intact runtime := by
  unfold Shared.examine
  cases found : shared.calls[place]? with
  | none => exact ⟨rfl, intact⟩
  | some call =>
      have ready := intact.calls call (List.mem_of_getElem? found)
      dsimp only
      cases remaining : call.remaining with
      | nil => exact ⟨rfl, intact⟩
      | cons target rest =>
          have targets := ready.remaining
          rw [remaining, List.forall_mem_cons] at targets
          obtain ⟨next, examined, compatible, healthy⟩ :=
            ready.examine crates now targets.1 intact.circuits
          dsimp only
          split
          · next circuits panicked =>
              rw [panicked] at examined
              cases examined
          · next other circuits returned =>
              rw [returned] at examined healthy
              cases examined
              refine ⟨rfl, { intact with circuits := healthy, calls := ?_ }⟩
              intro call member
              rcases List.mem_or_eq_of_mem_set member with before | rfl
              · exact intact.calls call before
              · exact ⟨targets.2, compatible⟩

/-- So does the end of the look. -/
theorem Intact.finish (intact : shared.Intact runtime) (place : Nat) (draws : Nat → Nat) :
    (shared.finish place draws).1.isSome = true ∧
      (shared.finish place draws).2.Intact runtime := by
  unfold Shared.finish
  cases found : shared.calls[place]? with
  | none => exact ⟨rfl, intact⟩
  | some call =>
      have ready := intact.calls call (List.mem_of_getElem? found)
      dsimp only
      split
      · refine ⟨?_, intact.withCalls fun call member => ?_⟩
        · rw [Option.isSome_map]
          exact ready.finish draws
        · exact intact.calls call (List.mem_of_mem_eraseIdx member)
      · exact ⟨rfl, intact⟩

/-- A permit that was handed out comes back without a panic. -/
theorem releasePermit_sound {semaphore : Semaphore} (sound : semaphore.Sound maxPermits) :
    (releasePermit semaphore).1.isSome = true ∧
      (releasePermit semaphore).2.Sound maxPermits := by
  unfold releasePermit
  split
  · exact ⟨rfl, sound⟩
  · next out =>
      obtain ⟨filled, released, filledSound⟩ := sound.release (Nat.pos_of_ne_zero out)
      rw [released]
      exact ⟨rfl, filledSound⟩

/-- A sound semaphore in the place of another leaves the rest intact. -/
theorem Intact.withClientPermit {client : Nat} {semaphore : Semaphore}
    (intact : shared.Intact runtime) (sound : semaphore.Sound maxPermits) :
    ({ shared with clientPermits := shared.clientPermits.set client semaphore } : Shared).Intact
      runtime := by
  refine { intact with clientPermits := fun other member => ?_ }
  rcases List.mem_or_eq_of_mem_set member with before | rfl
  · exact intact.clientPermits other before
  · exact sound

/-- An operation that reads the clock early enough for a cooldown to end returns, and keeps the
invariant. -/
theorem Intact.step (crates : Crates) (ready : runtime.Ready threshold cooldown)
    (intact : shared.Intact runtime) (room : horizon + cooldown ≤ clockMax) {operation : Operation}
    (within : operation.Within horizon) :
    (shared.step crates runtime operation).1.isSome = true ∧
      (shared.step crates runtime operation).2.Intact runtime := by
  cases operation with
  | begin route request =>
      unfold Shared.step
      dsimp only
      split
      · exact ⟨rfl, intact⟩
      · next found =>
          refine ⟨rfl, intact.withCalls fun call member => ?_⟩
          rcases List.mem_append.mp member with before | added
          · exact intact.calls call before
          · rw [List.mem_singleton.mp added]
            exact ⟨ready.targets _ (List.mem_of_getElem? found), fun _ none => by cases none⟩
  | examine place now => exact intact.examine place now
  | finish place draws => exact intact.finish place draws
  | recordSuccess id =>
      unfold Shared.step
      dsimp only
      split
      · exact ⟨rfl, intact⟩
      · next provider _ =>
          obtain ⟨returned, healthy⟩ :=
            intact.circuits.withLock provider.id successSection_returns
          exact ⟨returned, { intact with circuits := healthy }⟩
  | recordFailure id now error =>
      unfold Shared.step
      dsimp only
      split
      · exact ⟨rfl, intact⟩
      · next provider found =>
          obtain ⟨-, -, cooldownEq⟩ := ready.limits id provider found
          have early : now + provider.cooldown ≤ clockMax := by
            rw [cooldownEq]
            exact (Nat.add_le_add_right within cooldown).trans room
          obtain ⟨returned, healthy⟩ :=
            provider.report_returns early (.failure error) intact.circuits
          exact ⟨returned, { intact with circuits := healthy }⟩
  | checkRate client now =>
      unfold Shared.step
      dsimp only
      split
      · exact ⟨rfl, intact⟩
      · next identity _ =>
          obtain ⟨returned, healthy⟩ :=
            identity.checkRateUnderLock_returns client now intact.limiters
          refine ⟨?_, { intact with limiters := healthy }⟩
          dsimp only
          rw [Option.isSome_map]
          exact returned
  | acquireClient client =>
      unfold Shared.step
      dsimp only
      split
      · exact ⟨rfl, intact⟩
      · next found =>
          have sound := intact.clientPermits _ (List.mem_of_getElem? found)
          exact ⟨rfl, intact.withClientPermit sound.tryAcquire⟩
  | releaseClient client =>
      unfold Shared.step
      dsimp only
      split
      · exact ⟨rfl, intact⟩
      · next found =>
          obtain ⟨returned, sound⟩ :=
            releasePermit_sound (intact.clientPermits _ (List.mem_of_getElem? found))
          exact ⟨returned, intact.withClientPermit sound⟩
  | acquireGlobal => exact ⟨rfl, { intact with globalPermits := intact.globalPermits.tryAcquire }⟩
  | releaseGlobal =>
      obtain ⟨returned, sound⟩ := releasePermit_sound intact.globalPermits
      exact ⟨returned, { intact with globalPermits := sound }⟩

end Step

end Shared

/-! ### From the configuration to the start -/

/-- The fields of a configuration fit the types they have in the source. -/
structure AppConfig.FitsTypes (config : AppConfig) : Prop where
  permits : ∀ client ∈ config.clients, client.concurrentRequests < 2 ^ 32
  threshold : config.limits.circuitFailureThreshold < 2 ^ 32

/-- The cooldown of all circuits, in nanoseconds. -/
def AppConfig.cooldown (config : AppConfig) : Nat :=
  config.limits.circuitCooldownSeconds * nanosecondsPerSecond

section Start

variable {crates : Crates} {environment : Environment} {hashKey : String → Digest}

/-- A valid configuration has a provider. -/
theorem ValidConfig.exists_provider (valid : ValidConfig crates environment) :
    ∃ id, id ∈ valid.config.providers.map (·.id) := by
  obtain ⟨provider, isProvider⟩ := List.exists_mem_of_ne_nil _ valid.checked.present
  exact ⟨provider.id, List.mem_map_of_mem isProvider⟩

/-- A provider of a router has its own id, and the limits of the configuration. -/
theorem Router.lookup_limits {config : AppConfig} {router : Router}
    (built : Router.new environment config = .ok router) {id : String} {provider : Provider}
    (found : router.providers.lookup id = some provider) :
    provider.id = id ∧ provider.failureThreshold = config.limits.circuitFailureThreshold ∧
      provider.cooldown = config.cooldown := by
  unfold Router.new at built
  simp only [Except.bind_eq_ok] at built
  obtain ⟨providers, providersEq, _, _, same⟩ := built
  cases same
  dsimp only at found
  have listed : (id, provider) ∈ providers := by
    obtain ⟨before, after, split, -⟩ := List.lookup_eq_some_iff.mp found
    rw [← List.mem_reverse, split]
    exact List.mem_append_right _ List.mem_cons_self
  obtain ⟨providerConfig, -, entryEq⟩ :=
    Except.exists_of_mem_right (Except.mapM_eq_ok.mp providersEq) listed
  obtain ⟨made, madeEq, same⟩ := Except.bind_eq_ok.mp entryEq
  cases same
  unfold Provider.new at madeEq
  simp only [Except.bind_eq_ok] at madeEq
  obtain ⟨_, _, _, _, same⟩ := madeEq
  cases same
  exact ⟨rfl, rfl, rfl⟩

/-- The runtime of a valid configuration is ready. -/
theorem Runtime.ready_of_valid (valid : ValidConfig crates environment) {runtime : Runtime}
    (built : Router.new environment valid.config = .ok runtime.router) :
    runtime.Ready valid.config.limits.circuitFailureThreshold valid.config.cooldown where
  targets := by
    intro route isRoute target isTarget
    obtain ⟨known, weighted⟩ := lookup_of_valid valid built isRoute isTarget
    exact ⟨known, Nat.pos_of_ne_zero weighted⟩
  limits := fun _ _ found => Router.lookup_limits built found

/-- The permits of every client fit into a semaphore. -/
theorem AuthRegistry.permits_fit {config : AppConfig} (fits : config.FitsTypes)
    {registry : AuthRegistry}
    (built : AuthRegistry.new environment hashKey config.clients = .ok registry) :
    ∀ identity ∈ registry, identity.concurrency ≤ maxPermits := by
  intro identity member
  obtain ⟨client, bound, rfl⟩ := List.getElem_of_mem member
  have lengths := (Except.mapM_eq_ok.mp built).length_eq
  have configured := List.getElem?_eq_getElem (lengths ▸ bound)
  obtain ⟨identity, found, -, concurrency⟩ := AuthRegistry.new_limits built configured
  rw [List.getElem?_eq_getElem bound] at found
  cases found
  have small := fits.permits _ (List.getElem_mem (lengths ▸ bound))
  rw [concurrency]
  unfold maxPermits
  omega

/-- What a runtime shares at its start is intact. -/
theorem Runtime.share_intact {runtime : Runtime}
    (clients : ∀ identity ∈ runtime.auth, identity.concurrency ≤ maxPermits)
    (global : runtime.config.limits.globalConcurrency ≤ maxPermits) :
    ∃ shared, runtime.share = some shared ∧ shared.Intact runtime := by
  obtain ⟨clientPermits, made⟩ := @Except.exists_mapM_eq_some _ _
    (fun identity : ClientIdentity => Semaphore.new maxPermits identity.concurrency) runtime.auth
    fun identity member => ⟨_, Semaphore.new_eq_some.mpr ⟨clients identity member, rfl⟩⟩
  have globalMade : Semaphore.new maxPermits runtime.config.limits.globalConcurrency =
      some { permits := runtime.config.limits.globalConcurrency } :=
    Semaphore.new_eq_some.mpr ⟨global, rfl⟩
  refine ⟨{ clientPermits := clientPermits
            globalPermits := { permits := runtime.config.limits.globalConcurrency } }, ?_, ?_⟩
  · unfold Runtime.share
    rw [made, globalMade]
    rfl
  · refine ⟨Locks.healthy_fresh _, Locks.healthy_fresh _, ?_, ?_, fun _ none => by cases none⟩
    · intro semaphore member
      obtain ⟨identity, isIdentity, semaphoreEq⟩ :=
        Except.exists_of_mem_right (Except.mapM_eq_some.mp made) member
      obtain ⟨fits, rfl⟩ := Semaphore.new_eq_some.mp semaphoreEq
      exact fits
    · exact global

end Start

/-! ### Runs -/

/-- No lock of a circuit or of a limiter is poisoned. -/
structure Shared.Unpoisoned (shared : Shared) : Prop where
  circuits : shared.circuits.Healthy
  limiters : shared.limiters.Healthy

/-- The runtime of the configuration is built, and no run of its operations panics or poisons a lock,
as long as the clock has not got beyond a bound. -/
def PanicFree (crates : Crates) (environment : Environment) (hashKey : String → Digest)
    (config : AppConfig) (horizon : Instant) : Prop :=
  ∃ runtime shared,
    Runtime.start crates environment hashKey config = some (.ok (runtime, shared)) ∧
    ∀ operations : List Operation, (∀ operation ∈ operations, operation.Within horizon) →
      (operations.foldl (Observed.step crates runtime) { shared := shared }).panicked = false ∧
      (operations.foldl (Observed.step crates runtime) { shared := shared }).shared.Unpoisoned

section Runs

variable {crates : Crates} {environment : Environment} {hashKey : String → Digest}
  {runtime : Runtime} {threshold cooldown : Nat} {horizon : Instant}

/-- With room for the cooldown after the last reading of the clock, a run from an intact start does
not panic. -/
theorem run_intact (crates : Crates) (ready : runtime.Ready threshold cooldown)
    (room : horizon + cooldown ≤ clockMax) {shared : Shared} (intact : shared.Intact runtime)
    {operations : List Operation} (within : ∀ operation ∈ operations, operation.Within horizon) :
    (operations.foldl (Observed.step crates runtime) { shared := shared }).panicked = false ∧
      (operations.foldl (Observed.step crates runtime) { shared := shared }).shared.Intact
        runtime := by
  refine foldl_invariant_of_mem
    (fun observed : Observed => observed.panicked = false ∧ observed.shared.Intact runtime)
    ?_ ⟨rfl, intact⟩
  rintro observed operation member ⟨calm, intact⟩
  obtain ⟨returned, after⟩ :=
    Shared.Intact.step crates ready intact room (within operation member)
  refine ⟨?_, after⟩
  unfold Observed.step
  dsimp only
  rw [calm, Option.isNone_eq_false_iff.mpr returned]
  rfl

/-- The failure that a run may record any number of times. -/
def gatewayFailure : ProxyError := .new .upstream "provider unavailable"

/-- Any number of failures at one time is within a horizon. -/
theorem gatewayFailures_within (id : String) (count : Nat) :
    ∀ operation ∈ List.replicate count (Operation.recordFailure id horizon gatewayFailure),
      operation.Within horizon := by
  intro operation member
  rw [List.eq_of_mem_replicate member]
  exact Nat.le_refl horizon

/-- A failure is recorded at the circuit of its provider. -/
theorem step_gatewayFailure {id : String} {provider : Provider}
    (found : runtime.router.providers.lookup id = some provider) (shared : Shared) (now : Instant) :
    shared.step crates runtime (.recordFailure id now gatewayFailure) =
      let (returned, circuits) := shared.circuits.withLock provider.id
        (failureSection provider.failureThreshold provider.cooldown now)
      (returned, { shared with circuits := circuits }) := by
  unfold Shared.step
  dsimp only
  rw [found]
  rfl

/-- Failures recorded in a row, at a time after which there is no room for the cooldown: the one that
reaches the threshold panics. -/
theorem failures_panic (crates : Crates) {id : String} {provider : Provider}
    (found : runtime.router.providers.lookup id = some provider)
    (tooLate : clockMax < horizon + provider.cooldown) (small : provider.failureThreshold < 2 ^ 32)
    (left : Nat) (observed : Observed) (healthy : observed.shared.circuits.Healthy)
    (count : (observed.shared.circuits provider.id).value.failures + left + 1 =
      max provider.failureThreshold 1) :
    ((List.replicate (left + 1) (Operation.recordFailure id horizon gatewayFailure)).foldl
      (Observed.step crates runtime) observed).panicked = true := by
  induction left generalizing observed with
  | zero =>
      have reached : provider.failureThreshold ≤
          ((observed.shared.circuits provider.id).value.failures + 1) % 2 ^ 32 := by
        rw [Nat.mod_eq_of_lt] <;> omega
      rw [List.replicate_one, List.foldl_cons, List.foldl_nil]
      unfold Observed.step
      rw [step_gatewayFailure found, Locks.withLock_healthy (healthy provider.id)]
      dsimp only
      rw [failureSection_panics tooLate reached]
      exact Bool.or_true _
  | succ left inductionHypothesis =>
      have below : (observed.shared.circuits provider.id).value.failures + 1 <
          provider.failureThreshold := by omega
      have unwrapped : ((observed.shared.circuits provider.id).value.failures + 1) % 2 ^ 32 =
          (observed.shared.circuits provider.id).value.failures + 1 :=
        Nat.mod_eq_of_lt (below.trans small)
      have counted := failureSection_counts provider.cooldown horizon
        (unwrapped.trans_lt below)
      rw [List.replicate_succ, List.foldl_cons]
      apply inductionHypothesis
      · unfold Observed.step
        rw [step_gatewayFailure found]
        dsimp only
        rw [Locks.healthy_withLock healthy, Locks.withLock_healthy (healthy provider.id), counted]
        rfl
      · unfold Observed.step
        rw [step_gatewayFailure found, Locks.withLock_healthy (healthy provider.id), counted]
        dsimp only
        rw [Function.update_self]
        dsimp only
        rw [unwrapped]
        omega

/-- What a start that succeeds has built. -/
theorem Runtime.start_eq_ok {config : AppConfig} {shared : Shared}
    (started : Runtime.start crates environment hashKey config = some (.ok (runtime, shared))) :
    Runtime.new crates environment hashKey config = some (.ok runtime) ∧
      runtime.share = some shared := by
  unfold Runtime.start at started
  split at started
  · cases started
  · cases started
  · next made built =>
      obtain ⟨others, shares, same⟩ := Option.map_eq_some_iff.mp started
      cases same
      exact ⟨built, shares⟩

/-- What is shared at the start has room for the global permits, and closed circuits. -/
theorem Runtime.share_eq_some {shared : Shared} (shares : runtime.share = some shared) :
    runtime.config.limits.globalConcurrency ≤ maxPermits ∧ shared.circuits = .fresh {} := by
  unfold Runtime.share at shares
  obtain ⟨clientPermits, -, rest⟩ := Option.bind_eq_some_iff.mp shares
  obtain ⟨globalPermits, made, same⟩ := Option.bind_eq_some_iff.mp rest
  cases same
  exact ⟨(Semaphore.new_eq_some.mp made).1, rfl⟩

/-- A valid configuration that does not fail to be built, with permits that fit, is built. -/
theorem Runtime.new_of_fits {config : AppConfig}
    (noError : ∀ error, Runtime.new crates environment hashKey config ≠ some (.error error))
    (global : config.limits.globalConcurrency ≤ maxPermits) :
    ∃ runtime, Runtime.new crates environment hashKey config = some (.ok runtime) := by
  unfold Runtime.new at noError ⊢
  dsimp only at noError ⊢
  split at noError
  · next error failed => exact absurd rfl (noError error)
  · next auth router built =>
      rw [if_pos global]
      exact ⟨_, rfl⟩

/-- A configuration that keeps its runtime from panicking has permits and a cooldown that fit. -/
theorem PanicFree.bounds {config : AppConfig} (fits : config.FitsTypes)
    (validated : config.validate crates environment = .ok ())
    (free : PanicFree crates environment hashKey config horizon) :
    config.limits.globalConcurrency ≤ maxPermits ∧ horizon + config.cooldown ≤ clockMax := by
  obtain ⟨runtime, shared, started, runs⟩ := free
  obtain ⟨built, shares⟩ := Runtime.start_eq_ok started
  obtain ⟨sameConfig, -, -, routerBuilt⟩ := Runtime.new_eq_ok built
  obtain ⟨global, fresh⟩ := Runtime.share_eq_some shares
  rw [sameConfig] at global
  refine ⟨global, Nat.le_of_not_lt fun tooLate => ?_⟩
  -- some provider is configured, and enough failures of it in a row open its circuit
  obtain ⟨id, configured⟩ := ValidConfig.exists_provider ⟨config, validated⟩
  obtain ⟨provider, found⟩ :=
    Option.isSome_iff_exists.mp (Router.lookup_configured routerBuilt configured)
  obtain ⟨-, thresholdEq, cooldownEq⟩ := Router.lookup_limits routerBuilt found
  have panics := failures_panic crates found (by rw [cooldownEq]; exact tooLate)
    (by rw [thresholdEq]; exact fits.threshold) (max provider.failureThreshold 1 - 1)
    { shared := shared }
    (by rw [fresh]; exact Locks.healthy_fresh _)
    (by rw [fresh]; simp only [Locks.fresh]; omega)
  obtain ⟨calm, -⟩ := runs _ (gatewayFailures_within id (max provider.failureThreshold 1 - 1 + 1))
  rw [panics] at calm
  cases calm

/-- A valid configuration that can be built keeps its runtime from panicking, if its permits and its
cooldown fit. -/
theorem PanicFree.of_bounds {config : AppConfig} (fits : config.FitsTypes)
    (validated : config.validate crates environment = .ok ())
    (noError : ∀ error, Runtime.new crates environment hashKey config ≠ some (.error error))
    (global : config.limits.globalConcurrency ≤ maxPermits)
    (room : horizon + config.cooldown ≤ clockMax) :
    PanicFree crates environment hashKey config horizon := by
  obtain ⟨runtime, built⟩ := Runtime.new_of_fits noError global
  obtain ⟨sameConfig, -, authBuilt, routerBuilt⟩ := Runtime.new_eq_ok built
  obtain ⟨shared, shares, intact⟩ := Runtime.share_intact
    (AuthRegistry.permits_fit fits authBuilt) (by rw [sameConfig]; exact global)
  have ready := Runtime.ready_of_valid ⟨config, validated⟩ routerBuilt
  refine ⟨runtime, shared, ?_, fun operations within => ?_⟩
  · unfold Runtime.start
    rw [built]
    dsimp only
    rw [shares]
    rfl
  · obtain ⟨calm, after⟩ := run_intact crates ready room intact within
    exact ⟨calm, after.circuits, after.limiters⟩

/-- Of the configurations that are valid and can be built, those keep the runtime from panicking whose
global permits fit into a semaphore and whose cooldown, counted from the last reading of the clock,
ends within the range of the clock. -/
theorem panicFree_iff (crates : Crates) (environment : Environment) (hashKey : String → Digest)
    {config : AppConfig} (fits : config.FitsTypes)
    (validated : config.validate crates environment = .ok ())
    (noError : ∀ error, Runtime.new crates environment hashKey config ≠ some (.error error))
    (horizon : Instant) :
    PanicFree crates environment hashKey config horizon ↔
      config.limits.globalConcurrency ≤ maxPermits ∧ horizon + config.cooldown ≤ clockMax :=
  ⟨fun free => free.bounds fits validated,
    fun ⟨global, room⟩ => .of_bounds fits validated noError global room⟩

end Runs

/-! ### Samples -/

/-- The sample's numbers fit their types. -/
theorem officeConfig_fitsTypes : officeConfig.FitsTypes where
  permits := by decide
  threshold := by decide

/-- The sample's configuration, on a clock that has only begun. -/
theorem panicFree_iff_office :
    PanicFree officeCrates officeEnvironment (fun _ => []) officeConfig 0 ↔
      officeConfig.limits.globalConcurrency ≤ maxPermits ∧ 0 + officeConfig.cooldown ≤ clockMax :=
  panicFree_iff officeCrates officeEnvironment (fun _ => []) officeConfig_fitsTypes rfl
    (fun error failed => by cases failed) 0

/-- More permits than a semaphore can have. -/
def crowdedConfig : AppConfig :=
  { officeConfig with limits := { globalConcurrency := 2 ^ 61 } }

/-- The numbers of the configuration whose cooldown is too long fit as well. -/
theorem eternalConfig_fitsTypes : eternalConfig.FitsTypes where
  permits := by decide
  threshold := by decide

/-- Both configurations are valid. The runtime of the one is built, and panics before any time has
passed; the runtime of the other is not built. -/
theorem valid_config_panics :
    eternalConfig.validate officeCrates officeEnvironment = .ok () ∧
    (Runtime.new officeCrates officeEnvironment (fun _ => []) eternalConfig).any
      (fun made => made.isOk) = true ∧
    ¬ PanicFree officeCrates officeEnvironment (fun _ => []) eternalConfig 0 ∧
    crowdedConfig.validate officeCrates officeEnvironment = .ok () ∧
    Runtime.new officeCrates officeEnvironment (fun _ => []) crowdedConfig = none := by
  refine ⟨rfl, rfl, fun free => ?_, rfl, rfl⟩
  obtain ⟨-, room⟩ := free.bounds eternalConfig_fitsTypes rfl
  exact absurd room (by decide)

end ClaudeProxy
