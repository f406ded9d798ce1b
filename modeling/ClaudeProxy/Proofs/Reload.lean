/-
Module: ClaudeProxy.Proofs.Reload
Layer: Proofs
Purpose: The limits of a client and of the proxy across reloads. Every runtime keeps its own limits,
  whatever the order in which requests come, take their steps and end. But a reload swaps in a runtime
  with limiters and semaphores of its own, while the requests in flight keep the permits of the old
  one; so the limits do not hold over all runtimes together.
Trusted boundary: none
Main exports: Admissions.inFlight, Admissions.inFlightGlobal, PermitsSound, permitsSound_step,
  LimitsHold, limits_per_runtime
-/
import ClaudeProxy.Proofs.Fallback
import ClaudeProxy.Proofs.RateLimit
import ClaudeProxy.Server.Runtime
import Mathlib.Data.List.Perm.Basic

namespace ClaudeProxy

open Library
open Library.SlidingWindow (countWithin)

/-! ### Counting -/

section Counting

variable {α : Type} {items : List α} {index : Nat} {item : α} (counted : α → Bool)

theorem countP_eraseIdx_add (found : items[index]? = some item) :
    (items.eraseIdx index).countP counted + [item].countP counted = items.countP counted := by
  obtain ⟨bound, rfl⟩ := List.getElem?_eq_some_iff.mp found
  have split := (List.getElem_cons_eraseIdx_perm bound).countP_eq counted
  rw [← List.singleton_append, List.countP_append] at split
  omega

theorem countP_set_add (found : items[index]? = some item) (other : α) :
    (items.set index other).countP counted + [item].countP counted =
      items.countP counted + [other].countP counted := by
  have bound := (List.getElem?_eq_some_iff.mp found).1
  have split := (List.set_perm_cons_eraseIdx bound other).countP_eq counted
  rw [← List.singleton_append, List.countP_append] at split
  have taken := countP_eraseIdx_add counted found
  omega

end Counting

/-! ### Permits -/

/-- The request holds a permit of a client of a runtime. -/
def Visit.holdsPermitOf (number client : Nat) (visit : Visit) : Bool :=
  visit.generation = number && visit.client = client && visit.holdsPermit

/-- The request holds a global permit of a runtime. -/
def Visit.holdsGlobalOf (number : Nat) (visit : Visit) : Bool :=
  visit.generation = number && visit.holdsGlobal

/-- How many requests of a client are in flight on a runtime. -/
def Admissions.inFlight (number client : Nat) (state : Admissions) : Nat :=
  state.visits.countP (Visit.holdsPermitOf number client)

/-- How many `/v1/messages` requests are in flight on a runtime. -/
def Admissions.inFlightGlobal (number : Nat) (state : Admissions) : Nat :=
  state.visits.countP (Visit.holdsGlobalOf number)

/-- Every permit of a runtime is free or held by a request. -/
structure Balanced (registry : AuthRegistry) (globalConcurrency number : Nat)
    (generation : Generation) (state : Admissions) : Prop where
  permits : ∀ client, (generation.limits.clients client).permits + state.inFlight number client =
    ((Limits.fresh registry globalConcurrency).clients client).permits
  global : generation.limits.global + state.inFlightGlobal number = globalConcurrency

structure PermitsSound (registry : AuthRegistry) (globalConcurrency : Nat) (state : Admissions) :
    Prop where
  started : state.generations ≠ []
  placed : ∀ visit ∈ state.visits, visit.generation < state.generations.length
  balanced : ∀ number generation, state.generations[number]? = some generation →
    Balanced registry globalConcurrency number generation state

/-- A step of a request takes as many permits as it frees, counting those that the request holds. -/
structure Exchange (visit : Visit) (before : Generation) (next : Option Stage)
    (after : Generation) : Prop where
  permits : ∀ client, (after.limits.clients client).permits +
      (next.map fun stage => { visit with stage := stage }).toList.countP
        (Visit.holdsPermitOf visit.generation client) =
    (before.limits.clients client).permits +
      [visit].countP (Visit.holdsPermitOf visit.generation client)
  global : after.limits.global +
      (next.map fun stage => { visit with stage := stage }).toList.countP
        (Visit.holdsGlobalOf visit.generation) =
    before.limits.global + [visit].countP (Visit.holdsGlobalOf visit.generation)

section Steps

variable {registry : AuthRegistry} {globalConcurrency : Nat} {state : Admissions} {index : Nat}
  {visit : Visit} {identity : ClientIdentity} {generation before after : Generation}

/-- A rate check takes no permit. -/
theorem checkRate_permits (identity : ClientIdentity) (now : Instant) (limits : ClientLimits) :
    (identity.checkRate now limits).2.permits = limits.permits := by
  rcases Nat.lt_or_ge (limits.evict now).limiter.length identity.requestsPerMinute with room | full
  · rw [ClientIdentity.checkRate_room room]
    rfl
  · rw [ClientIdentity.checkRate_full full]
    rfl

theorem Limits.set_permits {client other : Nat} {changed : ClientLimits} {limits : Limits}
    (same : changed.permits = (limits.clients client).permits) :
    ((limits.set client changed).clients other).permits = (limits.clients other).permits := by
  by_cases here : other = client
  · rw [here, Limits.set_self, same]
  · rw [Limits.set_of_ne here]

theorem countP_holdsPermitOf (visit : Visit) (client : Nat) :
    [visit].countP (Visit.holdsPermitOf visit.generation client) =
      if visit.client = client ∧ visit.holdsPermit = true then 1 else 0 := by
  simp [Visit.holdsPermitOf, List.countP_cons]

theorem countP_holdsGlobalOf (visit : Visit) :
    [visit].countP (Visit.holdsGlobalOf visit.generation) =
      if visit.holdsGlobal = true then 1 else 0 := by
  simp [Visit.holdsGlobalOf, List.countP_cons]

/-- The permits stay as they are, and so does what the request holds. -/
theorem Exchange.same {stage : Stage} (permits : ∀ client,
      (after.limits.clients client).permits = (before.limits.clients client).permits)
    (global : after.limits.global = before.limits.global)
    (holdsPermit : Visit.holdsPermit { visit with stage := stage } = visit.holdsPermit)
    (holdsGlobal : Visit.holdsGlobal { visit with stage := stage } = visit.holdsGlobal) :
    Exchange visit before (some stage) after := by
  constructor
  · intro client
    simp only [Option.map_some, Option.toList_some]
    rw [permits, countP_holdsPermitOf visit client,
      countP_holdsPermitOf { visit with stage := stage } client, holdsPermit]
  · simp only [Option.map_some, Option.toList_some]
    rw [global, countP_holdsGlobalOf visit, countP_holdsGlobalOf { visit with stage := stage },
      holdsGlobal]

/-- A refused request that holds nothing leaves the permits as they are. -/
theorem Exchange.refused (permits : ∀ client,
      (after.limits.clients client).permits = (before.limits.clients client).permits)
    (global : after.limits.global = before.limits.global)
    (noPermit : visit.holdsPermit = false) (noGlobal : visit.holdsGlobal = false) :
    Exchange visit before none after := by
  constructor
  · intro client
    rw [permits, countP_holdsPermitOf, noPermit]
    simp
  · rw [global, countP_holdsGlobalOf, noGlobal]
    simp

/-- So it exchanges nothing. -/
theorem checkRate_exchange (identity : ClientIdentity) (before : Generation) {now : Instant}
    (stage : visit.stage = .timed now) :
    Exchange visit before
      (if (before.checkRate identity visit.client now).1.isOk = true then some .counted else none)
      (before.checkRate identity visit.client now).2 := by
  have permits : ∀ client,
      ((before.checkRate identity visit.client now).2.limits.clients client).permits =
        (before.limits.clients client).permits := by
    intro client
    exact Limits.set_permits (checkRate_permits identity now _)
  have noPermit : visit.holdsPermit = false := by simp [Visit.holdsPermit, stage]
  have noGlobal : visit.holdsGlobal = false := by simp [Visit.holdsGlobal, stage]
  split
  · apply Exchange.same permits rfl
    · rw [noPermit]
      rfl
    · rw [noGlobal]
      rfl
  · exact Exchange.refused permits rfl noPermit noGlobal

/-- The client's permit is taken, if there is one. -/
theorem acquirePermit_exchange (before : Generation) (stage : visit.stage = .counted) :
    Exchange visit before
      (if (before.acquirePermit visit.client).1.isOk = true then some .permitted else none)
      (before.acquirePermit visit.client).2 := by
  have noPermit : visit.holdsPermit = false := by simp [Visit.holdsPermit, stage]
  have noGlobal : visit.holdsGlobal = false := by simp [Visit.holdsGlobal, stage]
  by_cases none : (before.limits.clients visit.client).permits = 0
  · have outcome : (before.limits.clients visit.client).acquirePermit =
        (.error concurrencyExceeded, before.limits.clients visit.client) := if_pos none
    simp only [Generation.acquirePermit, outcome, Except.isOk, Except.toBool, Bool.false_eq_true,
      if_false]
    apply Exchange.refused
    · intro client
      exact Limits.set_permits rfl
    · rfl
    · exact noPermit
    · exact noGlobal
  · have outcome : (before.limits.clients visit.client).acquirePermit =
        (.ok (), { before.limits.clients visit.client with
          permits := (before.limits.clients visit.client).permits - 1 }) := if_neg none
    simp only [Generation.acquirePermit, outcome, Except.isOk, Except.toBool, if_true]
    constructor
    · intro client
      have after := countP_holdsPermitOf { visit with stage := .permitted } client
      simp only [Option.map_some, Option.toList_some]
      rw [countP_holdsPermitOf, noPermit, after]
      by_cases here : client = visit.client
      · subst here
        simp only [Limits.set_self, Visit.holdsPermit, and_self, if_true, Bool.false_eq_true,
          and_false, if_false]
        omega
      · rw [Limits.set_of_ne here]
        simp [Ne.symm here]
    · have after := countP_holdsGlobalOf { visit with stage := .permitted }
      simp only [Option.map_some, Option.toList_some]
      rw [countP_holdsGlobalOf, noGlobal, after]
      rfl

/-- A global permit is taken, or the client's permit is given back. -/
theorem acquireGlobal_exchange (before : Generation) (stage : visit.stage = .permitted) :
    Exchange visit before
      (if before.acquireGlobal.1.isOk = true then some .admitted else none)
      (if before.acquireGlobal.1.isOk = true then before.acquireGlobal.2
        else before.acquireGlobal.2.releasePermit visit.client) := by
  have onePermit : visit.holdsPermit = true := by simp [Visit.holdsPermit, stage]
  have noGlobal : visit.holdsGlobal = false := by simp [Visit.holdsGlobal, stage]
  by_cases none : before.limits.global = 0
  · have outcome : before.limits.acquireGlobal = (.error globalExceeded, before.limits) :=
      if_pos none
    simp only [Generation.acquireGlobal, outcome, Except.isOk, Except.toBool, Bool.false_eq_true,
      if_false]
    constructor
    · intro client
      rw [countP_holdsPermitOf, onePermit]
      by_cases here : client = visit.client
      · subst here
        simp [Generation.releasePermit, Limits.releasePermit, ClientLimits.releasePermit]
      · simp [Generation.releasePermit, Limits.releasePermit, Limits.set_of_ne here, Ne.symm here]
    · rw [countP_holdsGlobalOf, noGlobal]
      rfl
  · have outcome : before.limits.acquireGlobal =
        (.ok (), { before.limits with global := before.limits.global - 1 }) := if_neg none
    simp only [Generation.acquireGlobal, outcome, Except.isOk, Except.toBool, if_true]
    constructor
    · intro client
      have after := countP_holdsPermitOf { visit with stage := .admitted } client
      simp only [Option.map_some, Option.toList_some]
      rw [countP_holdsPermitOf, onePermit, after]
      rfl
    · have after := countP_holdsGlobalOf { visit with stage := .admitted }
      simp only [Option.map_some, Option.toList_some]
      rw [countP_holdsGlobalOf, noGlobal, after]
      simp only [Visit.holdsGlobal, decide_true, if_true, Bool.false_eq_true, if_false]
      omega

/-- What the request holds is freed. -/
theorem release_exchange : Exchange visit before none (before.release visit) := by
  constructor
  · intro client
    rw [countP_holdsPermitOf]
    simp only [Generation.release]
    by_cases here : client = visit.client
    · subst here
      cases visit.holdsPermit <;> cases visit.holdsGlobal <;>
        simp [Generation.releasePermit, Generation.releaseGlobal, Limits.releasePermit,
          Limits.releaseGlobal, ClientLimits.releasePermit]
    · cases visit.holdsPermit <;> cases visit.holdsGlobal <;>
        simp [Generation.releasePermit, Generation.releaseGlobal, Limits.releasePermit,
          Limits.releaseGlobal, Limits.set_of_ne here, Ne.symm here]
  · rw [countP_holdsGlobalOf]
    simp only [Generation.release]
    cases visit.holdsPermit <;> cases visit.holdsGlobal <;>
      simp [Generation.releasePermit, Generation.releaseGlobal, Limits.releasePermit,
        Limits.releaseGlobal]

/-- Every step of a request is an exchange. -/
theorem advance_exchange (identity : ClientIdentity) (clock : Instant) :
    Exchange visit before (visit.advance identity clock before).1
      (visit.advance identity clock before).2 := by
  have kept : ∀ client, (before.limits.clients client).permits =
      (before.limits.clients client).permits := fun _ => rfl
  cases stage : visit.stage with
  | arrived =>
      simp only [Visit.advance, stage]
      apply Exchange.same kept rfl
      · simp [Visit.holdsPermit, stage]
      · simp [Visit.holdsGlobal, stage]
  | timed now =>
      have exchange := checkRate_exchange identity before stage
      simp only [Visit.advance, stage]
      revert exchange
      rcases before.checkRate identity visit.client now with ⟨_ | _, after⟩ <;> exact id
  | counted =>
      have exchange := acquirePermit_exchange before stage
      simp only [Visit.advance, stage]
      revert exchange
      rcases before.acquirePermit visit.client with ⟨_ | _, after⟩ <;> exact id
  | permitted =>
      cases endpoint : visit.endpoint with
      | countTokens =>
          simp only [Visit.advance, stage, endpoint]
          apply Exchange.same kept rfl
          · simp [Visit.holdsPermit, stage]
          · simp [Visit.holdsGlobal, stage]
      | messages =>
          have exchange := acquireGlobal_exchange before stage
          simp only [Visit.advance, stage, endpoint]
          revert exchange
          rcases before.acquireGlobal with ⟨_ | _, after⟩ <;> exact id
  | admitted =>
      simp only [Visit.advance, stage]
      apply Exchange.same kept rfl
      · simp [Visit.holdsPermit, stage]
      · simp [Visit.holdsGlobal, stage]

/-- The requests after a step of one of them. -/
theorem settle_countP (counted : Visit → Bool) (isVisit : state.visits[index]? = some visit)
    (next : Option Stage) (generation : Generation) :
    (state.settle index visit next generation).visits.countP counted + [visit].countP counted =
      state.visits.countP counted +
        (next.map fun stage => { visit with stage := stage }).toList.countP counted := by
  cases next with
  | some stage => exact countP_set_add counted isVisit _
  | none => exact countP_eraseIdx_add counted isVisit

theorem not_holdsPermitOf {number client : Nat} (elsewhere : visit.generation ≠ number) :
    visit.holdsPermitOf number client = false := by
  simp [Visit.holdsPermitOf, elsewhere]

theorem not_holdsGlobalOf {number : Nat} (elsewhere : visit.generation ≠ number) :
    visit.holdsGlobalOf number = false := by
  simp [Visit.holdsGlobalOf, elsewhere]

/-- What a request is counted as on the runtimes that are not its own. -/
theorem settle_countP_elsewhere {counted : Visit → Bool}
    (isVisit : state.visits[index]? = some visit) {next : Option Stage} {generation : Generation}
    (uncounted : ∀ stage, counted { visit with stage := stage } = false) :
    (state.settle index visit next generation).visits.countP counted =
      state.visits.countP counted := by
  have total := settle_countP counted isVisit next generation
  have own : [visit].countP counted = 0 := by simpa using uncounted visit.stage
  have later : (next.map fun stage => { visit with stage := stage }).toList.countP counted = 0 := by
    cases next with
    | some stage => simpa using uncounted stage
    | none => rfl
  omega

/-- A step that exchanges what it takes keeps the balance of permits. -/
theorem PermitsSound.settle (sound : PermitsSound registry globalConcurrency state)
    (isVisit : state.visits[index]? = some visit)
    (isGeneration : state.generations[visit.generation]? = some before) {next : Option Stage}
    (exchange : Exchange visit before next after) :
    PermitsSound registry globalConcurrency (state.settle index visit next after) := by
  obtain ⟨started, placed, balanced⟩ := sound
  have sameLength : (state.settle index visit next after).generations.length =
      state.generations.length := List.length_set
  constructor
  · intro isNil
    have noLength := congrArg List.length isNil
    rw [sameLength, List.length_nil] at noLength
    exact started (List.eq_nil_of_length_eq_zero noLength)
  · intro other member
    rw [sameLength]
    cases next with
    | some stage =>
        rcases List.mem_or_eq_of_mem_set member with old | rfl
        · exact placed other old
        · exact placed visit (List.mem_of_getElem? isVisit)
    | none => exact placed other (List.mem_of_mem_eraseIdx member)
  · intro number generation isHere
    by_cases own : visit.generation = number
    · subst own
      have bound := (List.getElem?_eq_some_iff.mp isGeneration).1
      have same : after = generation := by
        simpa [Admissions.settle, List.getElem?_set_self bound] using isHere
      subst same
      obtain ⟨permits, global⟩ := balanced _ _ isGeneration
      constructor
      · intro client
        have counts := settle_countP (Visit.holdsPermitOf visit.generation client) isVisit next after
        have exchanged := exchange.permits client
        have kept := permits client
        simp only [Admissions.inFlight] at kept ⊢
        omega
      · have counts := settle_countP (Visit.holdsGlobalOf visit.generation) isVisit next after
        have exchanged := exchange.global
        simp only [Admissions.inFlightGlobal] at global ⊢
        omega
    · have old : state.generations[number]? = some generation := by
        simpa [Admissions.settle, List.getElem?_set_ne own] using isHere
      obtain ⟨permits, global⟩ := balanced number generation old
      constructor
      · intro client
        rw [← permits client]
        simp only [Admissions.inFlight]
        rw [settle_countP_elsewhere isVisit]
        intro stage
        exact not_holdsPermitOf own
      · rw [← global]
        simp only [Admissions.inFlightGlobal]
        rw [settle_countP_elsewhere isVisit]
        intro stage
        exact not_holdsGlobalOf own

/-- A request that comes in holds nothing. -/
theorem PermitsSound.arrive (sound : PermitsSound registry globalConcurrency state)
    (client : Nat) (endpoint : ApiEndpoint) :
    PermitsSound registry globalConcurrency
      (state.step registry globalConcurrency (.arrive client endpoint)) := by
  obtain ⟨started, placed, balanced⟩ := sound
  constructor
  · exact started
  · intro visit member
    rcases List.mem_append.mp member with old | new
    · exact placed visit old
    · rw [List.mem_singleton.mp new]
      exact Nat.sub_lt (List.length_pos_iff.mpr started) Nat.one_pos
  · intro number generation isHere
    obtain ⟨permits, global⟩ := balanced number generation isHere
    constructor
    · intro other
      rw [← permits other]
      simp [Admissions.inFlight, Admissions.step, List.countP_append, Visit.holdsPermitOf,
        Visit.holdsPermit]
    · rw [← global]
      simp [Admissions.inFlightGlobal, Admissions.step, List.countP_append, Visit.holdsGlobalOf,
        Visit.holdsGlobal]

/-- The new runtime has all its permits, and nobody has come to it yet. -/
theorem PermitsSound.reload (sound : PermitsSound registry globalConcurrency state) :
    PermitsSound registry globalConcurrency (state.step registry globalConcurrency .reload) := by
  obtain ⟨started, placed, balanced⟩ := sound
  constructor
  · simp [Admissions.step]
  · intro visit member
    simp only [Admissions.step, List.length_append, List.length_singleton]
    exact Nat.lt_succ_of_lt (placed visit member)
  · intro number generation isHere
    rcases Nat.lt_or_ge number state.generations.length with old | new
    · obtain ⟨permits, global⟩ := balanced number generation
        (by simpa [Admissions.step, List.getElem?_append_left old] using isHere)
      exact ⟨permits, global⟩
    · have last : number = state.generations.length ∧
          Generation.fresh registry globalConcurrency = generation := by
        simp only [Admissions.step, List.getElem?_append_right new] at isHere
        obtain ⟨bound, same⟩ := List.getElem?_eq_some_iff.mp isHere
        simp only [List.length_singleton] at bound
        refine ⟨by omega, ?_⟩
        simpa using same
      obtain ⟨rfl, rfl⟩ := last
      have nobody : ∀ visit ∈ state.visits, visit.generation ≠ state.generations.length :=
        fun visit member => Nat.ne_of_lt (placed visit member)
      constructor
      · intro client
        have none : state.inFlight state.generations.length client = 0 := by
          simp only [Admissions.inFlight, List.countP_eq_zero, Bool.not_eq_true]
          exact fun visit member => not_holdsPermitOf (nobody visit member)
        exact congrArg ((Limits.fresh registry globalConcurrency).clients client).permits.add none
      · have none : state.inFlightGlobal state.generations.length = 0 := by
          simp only [Admissions.inFlightGlobal, List.countP_eq_zero, Bool.not_eq_true]
          exact fun visit member => not_holdsGlobalOf (nobody visit member)
        exact congrArg globalConcurrency.add none

/-- So does every move. -/
theorem permitsSound_step (move : AdmissionMove)
    (sound : PermitsSound registry globalConcurrency state) :
    PermitsSound registry globalConcurrency (state.step registry globalConcurrency move) := by
  cases move with
  | tick elapsed =>
      obtain ⟨started, placed, balanced⟩ := sound
      refine ⟨started, placed, fun number generation isHere => ?_⟩
      obtain ⟨permits, global⟩ := balanced number generation isHere
      exact ⟨permits, global⟩
  | arrive client endpoint => exact sound.arrive client endpoint
  | reload => exact sound.reload
  | advance index =>
      rcases step_advance_cases registry globalConcurrency state index with
        idle | ⟨visit, identity, generation, found, settled⟩
      · rw [idle]
        exact sound
      · obtain ⟨isVisit, _, isGeneration⟩ := find_eq_some found
        rw [settled]
        exact sound.settle isVisit isGeneration (advance_exchange identity state.clock)
  | leave index =>
      rcases step_leave_cases registry globalConcurrency state index with
        idle | ⟨visit, identity, generation, found, settled⟩
      · rw [idle]
        exact sound
      · obtain ⟨isVisit, _, isGeneration⟩ := find_eq_some found
        rw [settled]
        exact sound.settle isVisit isGeneration release_exchange

/-- In the beginning no permit is held. -/
theorem permitsSound_initial : PermitsSound registry globalConcurrency
    (.initial registry globalConcurrency) := by
  constructor
  · exact List.cons_ne_nil _ _
  · intro visit member
    cases member
  · intro number generation isHere
    obtain rfl : Generation.fresh registry globalConcurrency = generation := by
      have member := List.mem_of_getElem? isHere
      exact (List.mem_singleton.mp member).symm
    constructor
    · intro client
      rfl
    · rfl

end Steps

/-! ### One runtime, and all of them -/

section Limits

variable {registry : AuthRegistry} {globalConcurrency : Nat} {state : Admissions}

/-- In a sound state the requests of a client hold no more permits than it has. -/
theorem inFlight_le (sound : PermitsSound registry globalConcurrency state) (number client : Nat) :
    state.inFlight number client ≤
      ((Limits.fresh registry globalConcurrency).clients client).permits := by
  cases isHere : state.generations[number]? with
  | some generation =>
      have permits := (sound.balanced number generation isHere).permits client
      omega
  | none =>
      have nobody : state.inFlight number client = 0 := by
        simp only [Admissions.inFlight, List.countP_eq_zero, Bool.not_eq_true]
        intro visit member
        have placed := sound.placed visit member
        have beyond := List.getElem?_eq_none_iff.mp isHere
        exact not_holdsPermitOf (by omega)
      omega

/-- All requests hold no more global permits than there are. -/
theorem inFlightGlobal_le (sound : PermitsSound registry globalConcurrency state) (number : Nat) :
    state.inFlightGlobal number ≤ globalConcurrency := by
  cases isHere : state.generations[number]? with
  | some generation =>
      have global := (sound.balanced number generation isHere).global
      omega
  | none =>
      have nobody : state.inFlightGlobal number = 0 := by
        simp only [Admissions.inFlightGlobal, List.countP_eq_zero, Bool.not_eq_true]
        intro visit member
        have placed := sound.placed visit member
        have beyond := List.getElem?_eq_none_iff.mp isHere
        exact not_holdsGlobalOf (by omega)
      omega

end Limits

/-- The limits over all runtimes together. -/
structure LimitsHold (registry : AuthRegistry) (globalConcurrency : Nat) (state : Admissions) :
    Prop where
  concurrency : ∀ client identity, registry[client]? = some identity →
    state.visits.countP (fun visit => visit.client = client && visit.holdsPermit) ≤
      identity.concurrency
  global : state.visits.countP Visit.holdsGlobal ≤ globalConcurrency
  rate : ∀ client identity, registry[client]? = some identity → ∀ last,
    countWithin rateWindow last
      (state.generations.flatMap fun generation => generation.passed client) ≤
        identity.requestsPerMinute

/-- Each runtime keeps the limits of its configuration, through all reloads: those on the requests in
flight in every run, and the rate limit in every run whose requests are timely. -/
theorem limits_per_runtime {crates : Crates} {environment : Environment} {hashKey : String → Digest}
    {config : AppConfig} {runtime : Runtime}
    (built : Runtime.new crates environment hashKey config = some (.ok runtime))
    (moves : List AdmissionMove) :
    let step := Admissions.step runtime.auth config.limits.globalConcurrency
    let start := Admissions.initial runtime.auth config.limits.globalConcurrency
    let state := moves.foldl step start
    (∀ (number client : Nat) (settings : ClientConfig), config.clients[client]? = some settings →
      state.inFlight number client ≤ settings.concurrentRequests) ∧
    (∀ number, state.inFlightGlobal number ≤ config.limits.globalConcurrency) ∧
    (Along step (Timely runtime.auth) start moves →
      ∀ generation ∈ state.generations, ∀ (client : Nat) (settings : ClientConfig),
        config.clients[client]? = some settings → ∀ last,
          countWithin rateWindow last (generation.passed client) ≤ settings.requestsPerMinute) := by
  intro step start state
  obtain ⟨_, _, isAuth, _⟩ := Runtime.new_eq_ok built
  have sound : PermitsSound runtime.auth config.limits.globalConcurrency state :=
    foldl_invariant _ (fun _ move => permitsSound_step move) moves permitsSound_initial
  refine ⟨?_, inFlightGlobal_le sound, ?_⟩
  · intro number client settings configured
    obtain ⟨identity, isClient, _, concurrency⟩ := AuthRegistry.new_limits isAuth configured
    have bound := inFlight_le sound number client
    simp only [Limits.fresh, isClient, Option.map_some, Option.getD_some, concurrency] at bound
    exact bound
  · intro timely generation member client settings configured last
    obtain ⟨identity, isClient, rate, _⟩ := AuthRegistry.new_limits isAuth configured
    rw [← rate]
    exact (rateSound_run timely generation member client identity isClient).bound last

/-! ### A reload with a request in flight -/

/-- The sample configuration, built. -/
def officeRuntime : Runtime where
  config := officeConfig
  auth :=
    [{ id := "c", keyHash := [], allowedRoutes := [], requestsPerMinute := 600, concurrency := 100 }]
  router := officeRouter

/-- A client that may make one request in a minute, and one at a time. -/
def singleRegistry : AuthRegistry :=
  [{ id := "c", keyHash := [], allowedRoutes := [], requestsPerMinute := 1, concurrency := 1 }]

/-- A request that is admitted. -/
def admittedMoves (index : Nat) : List AdmissionMove :=
  checkedMoves index ++ [.advance index, .advance index]

/-- After a reload one request is admitted, and a minute later another, whose check pops the entry of
the first off; then a third is checked. -/
def minuteMoves : List AdmissionMove :=
  [.reload] ++ admittedMoves 0 ++ [.tick (secondsLong 60)] ++ admittedMoves 1 ++ checkedMoves 2

/-- The run is timely, and two requests hold their permits when it ends. -/
theorem limits_per_runtime_office :
    let step := Admissions.step officeRuntime.auth 512
    let start := Admissions.initial officeRuntime.auth 512
    let state := minuteMoves.foldl step start
    (state.inFlight 1 0 = 2 ∧ state.inFlightGlobal 1 = 2 ∧
      state.generations.map (fun generation => (generation.passed 0, generation.evicted 0)) =
        [([], []), ([0, secondsLong 60, secondsLong 60], [0])]) ∧
    state.inFlight 1 0 ≤ 100 ∧ state.inFlightGlobal 1 ≤ 512 ∧
    ∀ generation ∈ state.generations, ∀ last,
      countWithin rateWindow last (generation.passed 0) ≤ 600 := by
  intro step start state
  obtain ⟨permits, global, rate⟩ := @limits_per_runtime officeCrates officeEnvironment (fun _ => [])
    officeConfig officeRuntime rfl minuteMoves
  have timely : Along step (Timely officeRuntime.auth) start minuteMoves := by decide +kernel
  refine ⟨by decide +kernel, permits 1 0 _ rfl, global 1, ?_⟩
  intro generation member last
  exact rate timely generation member 0 _ rfl last

/-- One request is admitted, the unchanged configuration is reloaded, and another is admitted. -/
def reloadedMoves : List AdmissionMove := admittedMoves 0 ++ [.reload] ++ admittedMoves 1

/-- Two requests are in flight, and two have passed the rate check in one minute. -/
theorem limits_exceeded :
    ¬ LimitsHold singleRegistry 1
      (reloadedMoves.foldl (Admissions.step singleRegistry 1) (.initial singleRegistry 1)) := by
  intro limits
  have inFlight : (reloadedMoves.foldl (Admissions.step singleRegistry 1)
      (.initial singleRegistry 1)).visits.countP Visit.holdsGlobal = 2 := by
    decide +kernel
  have bound := limits.global
  rw [inFlight] at bound
  exact absurd bound (by decide)

end ClaudeProxy
