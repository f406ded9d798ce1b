/-
Module: ClaudeProxy.Proofs.Refusals
Layer: Proofs
Purpose: What a refused request leaves behind. The rate check comes first and counts a request before
  its permits are asked for, so a request that is refused for want of a permit has used up some of its
  client's rate; one that the rate check itself refuses leaves nothing, and any number of those changes
  nothing for the requests after them.
Trusted boundary: none
Main exports: Limits.evict, RateFull, Admitted, admission_cases, Knock, refusals_harmless
-/
import ClaudeProxy.Library.Run
import ClaudeProxy.Proofs.RateLimit

namespace ClaudeProxy

open Library

/-! ### One request -/

/-- Old entries of a client's limiter are popped off, and nothing else changes. -/
def Limits.evict (client : Nat) (now : Instant) (limits : Limits) : Limits :=
  limits.set client ((limits.clients client).evict now)

/-- The client's limiter is full of entries of the last sixty seconds. -/
def RateFull (identity : ClientIdentity) (client : Nat) (now : Instant) (limits : Limits) : Prop :=
  identity.requestsPerMinute ≤ ((limits.clients client).evict now).limiter.length

/-- The client's limits after a request has passed the rate check. -/
def ClientLimits.counted (now : Instant) (limits : ClientLimits) : ClientLimits :=
  { limits.evict now with limiter := (limits.evict now).limiter ++ [now] }

/-- All there is to an admission: each check in turn may refuse the request, and then this is what is
left. -/
inductive Admitted (identity : ClientIdentity) (client : Nat) (now : Instant) (limits : Limits) :
    Except ProxyError Unit × Limits → Prop where
  | rate (full : RateFull identity client now limits) :
      Admitted identity client now limits (.error rateExceeded, limits.evict client now)
  | concurrency (room : ¬ RateFull identity client now limits)
      (none : (limits.clients client).permits = 0) :
      Admitted identity client now limits
        (.error concurrencyExceeded, limits.set client ((limits.clients client).counted now))
  | global (room : ¬ RateFull identity client now limits)
      (some : (limits.clients client).permits ≠ 0) (none : limits.global = 0) :
      Admitted identity client now limits
        (.error globalExceeded, limits.set client ((limits.clients client).counted now))
  | passed (room : ¬ RateFull identity client now limits)
      (some : (limits.clients client).permits ≠ 0) (free : limits.global ≠ 0) (after : Limits) :
      Admitted identity client now limits (.ok (), after)

section Admission

variable {identity : ClientIdentity} {client other : Nat} {now earlier : Instant} {limits : Limits}

theorem Limits.set_set (first second : ClientLimits) :
    (limits.set client first).set client second = limits.set client second := by
  simp only [Limits.set, Limits.mk.injEq, and_true]
  funext other
  by_cases same : other = client <;> simp [same]

theorem admission_cases (identity : ClientIdentity) (client : Nat) (now : Instant) (limits : Limits) :
    Admitted identity client now limits (limits.admission identity client now) := by
  by_cases full : RateFull identity client now limits
  · have outcome : limits.admission identity client now =
        (.error rateExceeded, limits.evict client now) := by
      simp only [Limits.admission, ClientIdentity.acquire, ClientIdentity.checkRate_full full,
        Limits.evict]
    rw [outcome]
    exact .rate full
  · have checked : identity.checkRate now (limits.clients client) =
        (.ok (), (limits.clients client).counted now) :=
      ClientIdentity.checkRate_room (Nat.lt_of_not_le full)
    have permits : ((limits.clients client).counted now).permits =
        (limits.clients client).permits := rfl
    by_cases noPermit : (limits.clients client).permits = 0
    · have outcome : limits.admission identity client now =
          (.error concurrencyExceeded,
            limits.set client ((limits.clients client).counted now)) := by
        simp only [Limits.admission, ClientIdentity.acquire, checked, ClientLimits.acquirePermit,
          permits, noPermit, if_true]
      rw [outcome]
      exact .concurrency full noPermit
    · by_cases noGlobal : limits.global = 0
      · have givenBack : ClientLimits.releasePermit
            { (limits.clients client).counted now with
              permits := (limits.clients client).permits - 1 } =
            (limits.clients client).counted now := by
          have restored := Nat.sub_one_add_one noPermit
          simp only [ClientLimits.releasePermit, restored]
          rfl
        have outcome : limits.admission identity client now =
            (.error globalExceeded,
              limits.set client ((limits.clients client).counted now)) := by
          simp only [Limits.admission, ClientIdentity.acquire, checked, ClientLimits.acquirePermit,
            permits, noPermit, if_false, Limits.acquireGlobal, Limits.set_global, noGlobal, if_true,
            Limits.releasePermit, Limits.set_self, Limits.set_set, givenBack]
        rw [outcome]
        exact .global full noPermit noGlobal
      · have outcome : (limits.admission identity client now).1 = .ok () := by
          simp only [Limits.admission, ClientIdentity.acquire, checked, ClientLimits.acquirePermit,
            permits, noPermit, if_false, Limits.acquireGlobal, Limits.set_global, noGlobal]
        have passed := Admitted.passed full noPermit noGlobal (limits.admission identity client now).2
        rw [← outcome] at passed
        exact passed

/-- A request that passed the rate check stays in the limiter. -/
theorem counted_ne_evict :
    limits.set client ((limits.clients client).counted now) ≠ limits.evict client now := by
  intro same
  have sameLimiter := congrArg (fun limits => (limits.clients client).limiter.length) same
  simp only [Limits.evict, Limits.set_self, ClientLimits.counted, List.length_append,
    List.length_singleton] at sameLimiter
  exact absurd sameLimiter (Nat.succ_ne_self _)

/-- A refused request leaves no trace exactly when the rate check refused it. -/
theorem refused_leaves_nothing_iff {error : ProxyError}
    (refused : (limits.admission identity client now).1 = .error error) :
    (limits.admission identity client now).2 = limits.evict client now ↔
      RateFull identity client now limits := by
  have outcome := admission_cases identity client now limits
  revert refused outcome
  generalize limits.admission identity client now = admitted
  intro refused outcome
  cases outcome with
  | rate full => exact iff_of_true rfl full
  | concurrency room noPermit => exact iff_of_false counted_ne_evict room
  | global room somePermit noGlobal => exact iff_of_false counted_ne_evict room
  | passed room somePermit free after => cases refused

/-- Popping off what is old now changes nothing for a request that comes later. -/
theorem ClientLimits.evict_evict (notLater : earlier ≤ now) (limits : ClientLimits) :
    (limits.evict earlier).evict now = limits.evict now := by
  simp only [ClientLimits.evict, ClientLimits.mk.injEq, and_true]
  exact SlidingWindow.evict_evict notLater limits.limiter

end Admission

/-! ### Any number of refusals -/

/-- A request at the door. -/
structure Knock where
  identity : ClientIdentity
  client : Nat
  now : Instant
deriving DecidableEq, Repr, Inhabited

def Limits.knock (limits : Limits) (knock : Knock) : Limits :=
  (limits.admission knock.identity knock.client knock.now).2

/-- What an admission says depends on the limits only after old entries are popped off. -/
theorem admission_evict {identity : ClientIdentity} {client other : Nat} {now earlier : Instant}
    {limits : Limits} (notLater : earlier ≤ now) :
    ((limits.evict other earlier).admission identity client now).1 =
      (limits.admission identity client now).1 := by
  have sameRate : RateFull identity client now (limits.evict other earlier) ↔
      RateFull identity client now limits := by
    simp only [RateFull, Limits.evict]
    by_cases same : client = other
    · subst same
      rw [Limits.set_self, ClientLimits.evict_evict notLater]
    · rw [Limits.set_of_ne same]
  have samePermits : ((limits.evict other earlier).clients client).permits =
      (limits.clients client).permits := by
    simp only [Limits.evict]
    by_cases same : client = other
    · subst same
      rw [Limits.set_self]
      rfl
    · rw [Limits.set_of_ne same]
  have first := admission_cases identity client now (limits.evict other earlier)
  have second := admission_cases identity client now limits
  revert first second
  generalize (limits.evict other earlier).admission identity client now = early
  generalize limits.admission identity client now = late
  intro first second
  cases first <;> cases second <;> simp_all [Limits.evict, Limits.set_global]

/-- Refusals leave nothing exactly when they come from the rate check; and after any number of those,
a request is admitted or refused as it would have been without them. -/
theorem refusals_harmless (limits : Limits) :
    (∀ identity client now error,
      (limits.admission identity client now).1 = .error error →
        ((limits.admission identity client now).2 = limits.evict client now ↔
          RateFull identity client now limits)) ∧
    ∀ (knocks : List Knock) (now : Instant),
      Along Limits.knock (fun limits knock =>
        knock.now ≤ now ∧ RateFull knock.identity knock.client knock.now limits) limits knocks →
      ∀ identity client, ((knocks.foldl Limits.knock limits).admission identity client now).1 =
        (limits.admission identity client now).1 := by
  constructor
  · intro identity client now error refused
    exact refused_leaves_nothing_iff refused
  · intro knocks now along identity client
    refine along.invariant (fun state : Limits =>
      (state.admission identity client now).1 = (limits.admission identity client now).1) ?_ rfl
    rintro state knock ⟨notLater, full⟩ same
    have left : state.knock knock = state.evict knock.client knock.now := by
      have outcome := admission_cases knock.identity knock.client knock.now state
      simp only [Limits.knock]
      revert outcome
      generalize state.admission knock.identity knock.client knock.now = admitted
      intro outcome
      cases outcome with
      | rate _ => rfl
      | concurrency room _ => exact absurd full room
      | global room _ _ => exact absurd full room
      | passed room _ _ _ => exact absurd full room
    rw [left, admission_evict notLater]
    exact same

/-! ### A client that comes back too soon -/

/-- One request at a time, and two in a minute. -/
def strictClient : ClientIdentity where
  id := "c"
  keyHash := []
  allowedRoutes := []
  requestsPerMinute := 2
  concurrency := 1

/-- One request is in flight. -/
def busyLimits : Limits := ((Limits.fresh [strictClient] 8).admission strictClient 0 1).2

/-- A second request is refused for want of a permit, and leaves an entry in the limiter. When the
first one is over, a third is refused by the rate check; without the second it would have been
admitted. -/
theorem refusal_consumes_rate :
    (busyLimits.admission strictClient 0 2).1 = .error concurrencyExceeded ∧
      (busyLimits.admission strictClient 0 2).2 ≠ busyLimits.evict 0 2 ∧
      (((busyLimits.admission strictClient 0 2).2.releasePermit 0).admission strictClient 0 3).1 =
        .error rateExceeded ∧
      ((busyLimits.releasePermit 0).admission strictClient 0 3).1 = .ok () := by
  refine ⟨by rfl, ?_, by rfl, by rfl⟩
  intro same
  have sameLimiter := congrArg (fun limits => (limits.clients 0).limiter) same
  exact absurd sameLimiter (by decide)

end ClaudeProxy
