/-
Module: ClaudeProxy.Proofs.WindowExact
Layer: Proofs
Purpose: The rate limit of a client whose calls come one after the other. Each call counts exactly the
  calls that have passed in the sixty seconds before it, although the limiter looks only at the front
  of its queue and only when it is called.
Trusted boundary: none
Main exports: LimitEvent, LimitedRun, limitedRun, WindowExact, windowExact_of_ordered
-/
import ClaudeProxy.Auth
import ClaudeProxy.Library.SlidingWindow

namespace ClaudeProxy

open Library
open Library.SlidingWindow (History countWithin)

/-! ### A client and its calls -/

/-- What happens to the limits of a client: a call of `acquire`, with what it reads off the clock, or
the drop of a permit that an earlier call was given. -/
inductive LimitEvent where
  | acquire (now : Instant)
  | release
deriving DecidableEq, Repr, Inhabited

def LimitEvent.reading : LimitEvent → Option Instant
  | .acquire now => some now
  | .release => none

/-- The limits of a client, and the readings of the calls that have passed its rate check. -/
structure LimitedRun where
  limits : ClientLimits
  passed : List Instant := []
deriving DecidableEq, Repr, Inhabited

/-- A call passes the rate check unless it is told that its rate is exceeded. -/
def ClientIdentity.passesRate (identity : ClientIdentity) (now : Instant) (limits : ClientLimits) :
    Bool :=
  match (identity.acquire now limits).1 with
  | .ok _ => true
  | .error error => error ≠ rateExceeded

def LimitedRun.step (identity : ClientIdentity) (run : LimitedRun) : LimitEvent → LimitedRun
  | .acquire now =>
      { limits := (identity.acquire now run.limits).2
        passed := run.passed ++
          if identity.passesRate now run.limits = true then [now] else [] }
  | .release => { run with limits := run.limits.releasePermit }

/-- A client from its first call on. -/
def limitedRun (identity : ClientIdentity) (events : List LimitEvent) : LimitedRun :=
  events.foldl (LimitedRun.step identity) { limits := { permits := identity.concurrency } }

/-! ### One call -/

section Call

variable {identity : ClientIdentity} {now : Instant} {limits : ClientLimits}

theorem acquirePermit_limiter : limits.acquirePermit.2.limiter = limits.limiter := by
  unfold ClientLimits.acquirePermit
  split <;> rfl

theorem acquirePermit_verdict :
    limits.acquirePermit.1 = .ok () ∨ limits.acquirePermit.1 = .error concurrencyExceeded := by
  unfold ClientLimits.acquirePermit
  split
  · exact .inr rfl
  · exact .inl rfl

theorem acquire_full
    (full : identity.requestsPerMinute ≤ (limits.evict now).limiter.length) :
    identity.acquire now limits = (.error rateExceeded, limits.evict now) := by
  unfold ClientIdentity.acquire
  rw [ClientIdentity.checkRate_full full]

theorem acquire_room
    (room : (limits.evict now).limiter.length < identity.requestsPerMinute) :
    identity.acquire now limits = ClientLimits.acquirePermit
      { limits.evict now with limiter := (limits.evict now).limiter ++ [now] } := by
  unfold ClientIdentity.acquire
  rw [ClientIdentity.checkRate_room room]

/-- A call passes the rate check if its limiter has room; want of a permit is another error. -/
theorem passesRate_iff : identity.passesRate now limits = true ↔
    (limits.evict now).limiter.length < identity.requestsPerMinute := by
  unfold ClientIdentity.passesRate
  rcases Nat.lt_or_ge (limits.evict now).limiter.length identity.requestsPerMinute with room | full
  · rw [acquire_room room]
    rcases @acquirePermit_verdict
      { limits.evict now with limiter := (limits.evict now).limiter ++ [now] } with free | none'
    · simp [room, free]
    · simp [room, none', concurrencyExceeded, rateExceeded, ProxyError.new]
  · rw [acquire_full full]
    simp [full]

end Call

/-! ### The limiter of a run -/

/-- The run shows what the limiter's history shows. -/
structure LimitedRun.Shows (run : LimitedRun) (history : History) : Prop where
  queue : run.limits.limiter = history.queue
  passed : run.passed = history.passed

theorem LimitedRun.Shows.acquire {identity : ClientIdentity} {run : LimitedRun} {history : History}
    (shows : run.Shows history) (now : Instant) :
    (run.step identity (.acquire now)).Shows
      (history.enter rateWindow identity.requestsPerMinute now) := by
  have kept : (run.limits.evict now).limiter = SlidingWindow.evict rateWindow now history.queue := by
    rw [← shows.queue]
    rfl
  unfold LimitedRun.step History.enter
  dsimp only
  rcases Nat.lt_or_ge (run.limits.evict now).limiter.length identity.requestsPerMinute with
    room | full
  · rw [passesRate_iff.mpr room, acquire_room room]
    rw [kept] at room
    rw [if_pos room]
    constructor
    · dsimp only
      rw [acquirePermit_limiter, kept]
    · simp [shows.passed]
  · have refused : identity.passesRate now run.limits = false := by
      rw [← Bool.not_eq_true, passesRate_iff]
      exact Nat.not_lt_of_le full
    rw [refused, acquire_full full]
    rw [kept] at full
    rw [if_neg (Nat.not_lt_of_le full)]
    constructor
    · exact kept
    · simp [shows.passed]

/-- The limiter of a run is that of the readings of its calls. -/
theorem limitedRun_shows (identity : ClientIdentity) (events : List LimitEvent) :
    (limitedRun identity events).Shows
      (History.run rateWindow identity.requestsPerMinute
        (events.filterMap LimitEvent.reading)) := by
  unfold limitedRun History.run
  have start : LimitedRun.Shows { limits := { permits := identity.concurrency } } {} := ⟨rfl, rfl⟩
  revert start
  generalize ({ limits := { permits := identity.concurrency } } : LimitedRun) = run
  generalize ({} : History) = history
  induction events generalizing run history with
  | nil => exact id
  | cons event rest inductionHypothesis =>
      intro shows
      cases event with
      | acquire now => exact inductionHypothesis _ _ (shows.acquire now)
      | release => exact inductionHypothesis _ _ ⟨shows.queue, shows.passed⟩

/-! ### Exactness -/

/-- What the rate limit of a client comes to over a run. -/
structure WindowExact (identity : ClientIdentity) (events : List LimitEvent) : Prop where
  /-- A call passes exactly if fewer calls than the limit have passed in its window. -/
  passes : ∀ before now after, events = before ++ .acquire now :: after →
    (identity.passesRate now (limitedRun identity before).limits = true ↔
      countWithin rateWindow now (limitedRun identity before).passed < identity.requestsPerMinute)
  /-- No window has more passes than the limit. -/
  bound : ∀ last,
    countWithin rateWindow last (limitedRun identity events).passed ≤ identity.requestsPerMinute
  sorted : (limitedRun identity events).limits.limiter.Pairwise (· ≤ ·)
  room : (limitedRun identity events).limits.limiter.length ≤ identity.requestsPerMinute
  /-- After a call the queue is what has passed in the window of the call. -/
  recent : ∀ before now, events = before ++ [.acquire now] →
    (limitedRun identity events).limits.limiter =
      (limitedRun identity events).passed.filter fun time => time ≤ now ∧ now < time + rateWindow

/-- Whatever a client's calls and however they are spaced, as long as the clock does not run
backwards between them, the rate limit is exact. -/
theorem windowExact_of_ordered (identity : ClientIdentity) (events : List LimitEvent)
    (ordered : (events.filterMap LimitEvent.reading).Pairwise (· ≤ ·)) :
    WindowExact identity events := by
  have positive : 0 < rateWindow := by decide
  obtain ⟨isExact, bounded⟩ := @History.run_exact _ identity.requestsPerMinute positive _ ordered
  have shows := limitedRun_shows identity events
  constructor
  · rintro before now after rfl
    rw [List.filterMap_append, List.pairwise_append] at ordered
    obtain ⟨orderedBefore, -, notLater⟩ := ordered
    obtain ⟨exactBefore, -⟩ :=
      @History.run_exact _ identity.requestsPerMinute positive _ orderedBefore
    have showsBefore := limitedRun_shows identity before
    have later : (before.filterMap LimitEvent.reading).getLast?.getD 0 ≤ now := by
      cases lastEq : (before.filterMap LimitEvent.reading).getLast? with
      | none => exact Nat.zero_le now
      | some last => exact notLater last (List.mem_of_getLast? lastEq) now List.mem_cons_self
    have counted := exactBefore.counts later
    rw [passesRate_iff, showsBefore.passed, ← counted, ← showsBefore.queue]
    rfl
  · intro last
    rw [shows.passed]
    exact bounded.bound last
  · rw [shows.queue, isExact.queue, SlidingWindow.evict_eq_filter isExact.sorted]
    exact isExact.sorted.filter _
  · rw [shows.queue]
    exact bounded.room
  · rintro before now rfl
    rw [List.filterMap_append] at isExact
    have lastReading : (before.filterMap LimitEvent.reading ++
        [LimitEvent.acquire now].filterMap LimitEvent.reading).getLast?.getD 0 = now := by
      simp [LimitEvent.reading]
    rw [lastReading, ← List.filterMap_append] at isExact
    rw [shows.queue, shows.passed, isExact.queue, SlidingWindow.evict_eq_filter isExact.sorted]
    apply List.filter_congr
    intro time member
    have past := isExact.past time member
    simp [past]

/-- Two calls a minute: the third in a minute is refused, one a minute after the first is not. -/
def sampleClient : ClientIdentity where
  id := "c"
  keyHash := []
  allowedRoutes := []
  requestsPerMinute := 2
  concurrency := 1

def sampleEvents : List LimitEvent :=
  [.acquire 5, .release, .acquire 5, .acquire 6, .acquire (5 + rateWindow)]

/-- The sample's readings are in order. -/
theorem windowExact_sample : WindowExact sampleClient sampleEvents :=
  windowExact_of_ordered sampleClient sampleEvents (by decide)

end ClaudeProxy
