/-
Module: ClaudeProxy.Proofs.RateLimit
Layer: Proofs
Purpose: The rate limit when requests overlap. A request reads the clock before it enters the critical
  section, so another with a later reading can enter first and pop entries that are still in the
  window of the earlier reading. As long as no request passes with such a reading, the limit holds in
  every window, whatever the order of the steps; one that does may exceed it.
Trusted boundary: none
Main exports: Generation.history, Timely, RateSound, rateSound_step, RateLimited, rate_limit
-/
import ClaudeProxy.Library.Run
import ClaudeProxy.Library.SlidingWindow
import ClaudeProxy.Server.Admission

namespace ClaudeProxy

open Library
open Library.SlidingWindow (History countWithin)

/-! ### The limiter is a sliding window -/

/-- The limiter of a client with its past. -/
def Generation.history (client : Nat) (generation : Generation) : History where
  queue := (generation.limits.clients client).limiter
  evicted := generation.evicted client
  passed := generation.passed client

section Sections

variable {identity : ClientIdentity} {client other : Nat} {now : Instant} {generation : Generation}

@[simp] theorem Limits.set_self (client : Nat) (state : ClientLimits) (limits : Limits) :
    (limits.set client state).clients client = state := if_pos rfl

/-- A change of one client's limits is none of another's. -/
theorem Limits.set_of_ne (different : other ≠ client) (state : ClientLimits) (limits : Limits) :
    (limits.set client state).clients other = limits.clients other := if_neg different

@[simp] theorem Limits.set_global (client : Nat) (state : ClientLimits) (limits : Limits) :
    (limits.set client state).global = limits.global := rfl

/-- The critical section is an entry into the window. -/
theorem checkRate_history :
    (generation.checkRate identity client now).2.history client =
      (generation.history client).enter rateWindow identity.requestsPerMinute now := by
  rcases Nat.lt_or_ge ((generation.limits.clients client).evict now).limiter.length
    identity.requestsPerMinute with room | full
  · have entered : (generation.history client).enter rateWindow identity.requestsPerMinute now =
        { queue := ((generation.limits.clients client).evict now).limiter ++ [now]
          evicted := generation.evicted client ++ generation.expired client now
          passed := generation.passed client ++ [now] } := if_pos room
    rw [entered]
    simp [Generation.checkRate, Generation.history, ClientIdentity.checkRate_room room,
      Except.isOk, Except.toBool]
  · have entered : (generation.history client).enter rateWindow identity.requestsPerMinute now =
        { queue := ((generation.limits.clients client).evict now).limiter
          evicted := generation.evicted client ++ generation.expired client now
          passed := generation.passed client } := if_neg (Nat.not_lt_of_le full)
    rw [entered]
    simp [Generation.checkRate, Generation.history, ClientIdentity.checkRate_full full,
      Except.isOk, Except.toBool]

/-- The history of a client is changed by its own rate checks only. -/
theorem checkRate_history_of_ne (different : other ≠ client) :
    (generation.checkRate identity client now).2.history other = generation.history other := by
  simp [Generation.checkRate, Generation.history, Limits.set_of_ne different, different]

theorem acquirePermit_history (client other : Nat) (generation : Generation) :
    (generation.acquirePermit client).2.history other = generation.history other := by
  by_cases same : other = client
  · subst same
    simp only [Generation.acquirePermit, Generation.history, ClientLimits.acquirePermit,
      Limits.set_self]
    split <;> rfl
  · simp [Generation.acquirePermit, Generation.history, Limits.set_of_ne same]

theorem acquireGlobal_history (other : Nat) (generation : Generation) :
    generation.acquireGlobal.2.history other = generation.history other := by
  simp only [Generation.acquireGlobal, Generation.history, Limits.acquireGlobal]
  split <;> rfl

theorem releasePermit_history :
    (generation.releasePermit client).history other = generation.history other := by
  by_cases same : other = client
  · subst same
    simp [Generation.releasePermit, Generation.history, Limits.releasePermit,
      ClientLimits.releasePermit]
  · simp [Generation.releasePermit, Generation.history, Limits.releasePermit,
      Limits.set_of_ne same]

/-- What a request gives back is no part of it. -/
theorem release_history (visit : Visit) :
    (generation.release visit).history other = generation.history other := by
  simp only [Generation.release]
  split
  · rw [releasePermit_history]
    split <;> rfl
  · split <;> rfl

/-- A step of a request is its critical section, or leaves the limiters alone. -/
theorem advance_history (identity : ClientIdentity) (clock : Instant) (generation : Generation)
    (visit : Visit) :
    (∃ now, visit.stage = .timed now ∧ (visit.advance identity clock generation).2 =
      (generation.checkRate identity visit.client now).2) ∨
    ∀ client, (visit.advance identity clock generation).2.history client =
      generation.history client := by
  simp only [Visit.advance]
  cases visit.stage with
  | arrived => exact .inr fun _ => rfl
  | timed now =>
      refine .inl ⟨now, rfl, ?_⟩
      dsimp only
      rcases generation.checkRate identity visit.client now with ⟨_ | _, after⟩ <;> rfl
  | counted =>
      apply Or.inr
      intro client
      have same := acquirePermit_history visit.client client generation
      revert same
      dsimp only
      rcases generation.acquirePermit visit.client with ⟨_ | _, after⟩ <;> exact id
  | permitted =>
      apply Or.inr
      intro client
      cases visit.endpoint with
      | countTokens => rfl
      | messages =>
          have same := acquireGlobal_history client generation
          revert same
          dsimp only
          rcases generation.acquireGlobal with ⟨_ | _, after⟩
          · intro same
            exact releasePermit_history.trans same
          · exact id
  | admitted => exact .inr fun _ => rfl

end Sections

/-! ### Runs -/

/-- A request that finds room in the limiter comes with a reading that is at least sixty seconds later
than every entry that was popped off before. -/
def Timely (registry : AuthRegistry) (state : Admissions) (move : AdmissionMove) : Prop :=
  ∀ index visit identity generation now, move = .advance index →
    state.find registry index = some (visit, identity, generation) → visit.stage = .timed now →
      ((generation.limits.clients visit.client).evict now).limiter.length <
          identity.requestsPerMinute →
        ∀ entry ∈ generation.evicted visit.client, entry + rateWindow ≤ now

/-- The check of `Timely` on the request that takes its next step. -/
def timelyNow (registry : AuthRegistry) (state : Admissions) : AdmissionMove → Bool
  | .advance index =>
      match state.find registry index with
      | none => true
      | some (visit, identity, generation) =>
          match visit.stage with
          | .timed now =>
              decide (((generation.limits.clients visit.client).evict now).limiter.length <
                  identity.requestsPerMinute →
                ∀ entry ∈ generation.evicted visit.client, entry + rateWindow ≤ now)
          | _ => true
  | _ => true

/-- Whether a move is timely can be computed. -/
theorem timelyNow_iff {registry : AuthRegistry} {state : Admissions} {move : AdmissionMove} :
    timelyNow registry state move = true ↔ Timely registry state move := by
  cases move with
  | advance index =>
      unfold timelyNow
      dsimp only
      constructor
      · intro checked index' visit identity generation now same found stage
        cases same
        rw [found] at checked
        dsimp only at checked
        rw [stage] at checked
        exact of_decide_eq_true checked
      · intro timely
        split
        · rfl
        · rename_i visit identity generation found
          split
          · rename_i now stage
            exact decide_eq_true (timely index visit identity generation now rfl found stage)
          · rfl
  | tick elapsed => exact iff_of_true rfl fun _ _ _ _ _ same => by cases same
  | arrive client endpoint => exact iff_of_true rfl fun _ _ _ _ _ same => by cases same
  | leave index => exact iff_of_true rfl fun _ _ _ _ _ same => by cases same
  | reload => exact iff_of_true rfl fun _ _ _ _ _ same => by cases same

instance (registry : AuthRegistry) (state : Admissions) (move : AdmissionMove) :
    Decidable (Timely registry state move) :=
  decidable_of_iff _ timelyNow_iff

/-- Every limiter of every runtime has kept its limit in every window. -/
def RateSound (registry : AuthRegistry) (state : Admissions) : Prop :=
  ∀ generation ∈ state.generations, ∀ client identity, registry[client]? = some identity →
    (generation.history client).Bounded rateWindow identity.requestsPerMinute

section Runs

variable {registry : AuthRegistry} {globalConcurrency : Nat} {state : Admissions} {index : Nat}
  {visit : Visit} {identity : ClientIdentity} {generation : Generation}

theorem find_eq_some (found : state.find registry index = some (visit, identity, generation)) :
    state.visits[index]? = some visit ∧ registry[visit.client]? = some identity ∧
      state.generations[visit.generation]? = some generation := by
  simp only [Admissions.find, Option.bind_eq_bind, Option.bind_eq_some_iff] at found
  obtain ⟨_, visitEq, _, identityEq, _, generationEq, same⟩ := found
  cases same
  exact ⟨visitEq, identityEq, generationEq⟩

/-- A visit takes its next step, or there is none. -/
theorem step_advance_cases (registry : AuthRegistry) (globalConcurrency : Nat) (state : Admissions)
    (index : Nat) :
    state.step registry globalConcurrency (.advance index) = state ∨
      ∃ visit identity generation,
        state.find registry index = some (visit, identity, generation) ∧
        state.step registry globalConcurrency (.advance index) =
          state.settle index visit (visit.advance identity state.clock generation).1
            (visit.advance identity state.clock generation).2 := by
  simp only [Admissions.step]
  cases found : state.find registry index with
  | none => exact .inl rfl
  | some here => exact .inr ⟨here.1, here.2.1, here.2.2, rfl, rfl⟩

/-- A visit leaves, or there is none. -/
theorem step_leave_cases (registry : AuthRegistry) (globalConcurrency : Nat) (state : Admissions)
    (index : Nat) :
    state.step registry globalConcurrency (.leave index) = state ∨
      ∃ visit identity generation,
        state.find registry index = some (visit, identity, generation) ∧
        state.step registry globalConcurrency (.leave index) =
          state.settle index visit none (generation.release visit) := by
  simp only [Admissions.step]
  cases found : state.find registry index with
  | none => exact .inl rfl
  | some here => exact .inr ⟨here.1, here.2.1, here.2.2, rfl, rfl⟩

/-- In the beginning nothing has passed. -/
theorem fresh_bounded (client limit : Nat) :
    ((Generation.fresh registry globalConcurrency).history client).Bounded rateWindow limit :=
  History.Bounded.empty

/-- A step that keeps the history of each client within its bound keeps the bound. -/
theorem RateSound.settle (sound : RateSound registry state) (next : Option Stage)
    (kept : ∀ client identity, registry[client]? = some identity →
      (generation.history client).Bounded rateWindow identity.requestsPerMinute) :
    RateSound registry (state.settle index visit next generation) := by
  intro other member
  rcases List.mem_or_eq_of_mem_set member with old | rfl
  · exact sound other old
  · exact kept

/-- A timely move keeps every client within its limit. -/
theorem rateSound_step (move : AdmissionMove) (timely : Timely registry state move)
    (sound : RateSound registry state) :
    RateSound registry (state.step registry globalConcurrency move) := by
  cases move with
  | tick elapsed => exact sound
  | arrive client endpoint => exact sound
  | reload =>
      intro generation member
      rcases List.mem_append.mp member with old | new
      · exact sound generation old
      · rw [List.mem_singleton.mp new]
        intro client identity _
        exact fresh_bounded client _
  | advance index =>
      rcases step_advance_cases registry globalConcurrency state index with
        idle | ⟨visit, identity, generation, found, settled⟩
      · rw [idle]
        exact sound
      · obtain ⟨_, isClient, isGeneration⟩ := find_eq_some found
        have before := sound generation (List.mem_of_getElem? isGeneration)
        rw [settled]
        apply sound.settle
        rcases advance_history identity state.clock generation visit
          with ⟨now, stage, entered⟩ | unchanged
        · intro client owner isOwner
          rw [entered]
          by_cases same : client = visit.client
          · subst same
            rw [isClient] at isOwner
            cases isOwner
            rw [checkRate_history]
            apply (before _ _ isClient).enter
            exact timely index visit identity generation now rfl found stage
          · rw [checkRate_history_of_ne same]
            exact before client owner isOwner
        · intro client owner isOwner
          rw [unchanged]
          exact before client owner isOwner
  | leave index =>
      rcases step_leave_cases registry globalConcurrency state index with
        idle | ⟨visit, identity, generation, found, settled⟩
      · rw [idle]
        exact sound
      · obtain ⟨_, _, isGeneration⟩ := find_eq_some found
        rw [settled]
        apply sound.settle
        intro client owner isOwner
        rw [release_history]
        exact sound generation (List.mem_of_getElem? isGeneration) client owner isOwner

/-- So a timely run does. -/
theorem rateSound_run {moves : List AdmissionMove}
    (timely : Along (Admissions.step registry globalConcurrency) (Timely registry)
      (.initial registry globalConcurrency) moves) :
    RateSound registry (moves.foldl (Admissions.step registry globalConcurrency)
      (.initial registry globalConcurrency)) := by
  refine timely.invariant (RateSound registry) (fun state move => rateSound_step move) ?_
  intro generation member
  rw [List.mem_singleton.mp member]
  intro client identity _
  exact fresh_bounded client _

end Runs

/-! ### The rate limit -/

/-- No window of sixty seconds has more requests of a client than the client may make in a minute,
counting those that one runtime let pass, by their readings of the clock. -/
def RateLimited (registry : AuthRegistry) (state : Admissions) : Prop :=
  ∀ generation ∈ state.generations, ∀ client identity, registry[client]? = some identity →
    ∀ last, countWithin rateWindow last (generation.passed client) ≤ identity.requestsPerMinute

/-- In a run whose requests are timely, the rate limit holds in every state that is reached. -/
theorem rate_limit (registry : AuthRegistry) (globalConcurrency : Nat) (moves : List AdmissionMove)
    (timely : Along (Admissions.step registry globalConcurrency) (Timely registry)
      (.initial registry globalConcurrency) moves) :
    RateLimited registry (moves.foldl (Admissions.step registry globalConcurrency)
      (.initial registry globalConcurrency)) := by
  intro generation member client identity isClient last
  exact (rateSound_run timely generation member client identity isClient).bound last

/-! ### A request that is overtaken -/

def secondsLong (count : Nat) : Nat := count * nanosecondsPerSecond

/-- A client that may make two requests in a minute. -/
def pairRegistry : AuthRegistry :=
  [{ id := "c", keyHash := [], allowedRoutes := [], requestsPerMinute := 2, concurrency := 8 }]

/-- A request that comes in, reads the clock and is checked. -/
def checkedMoves (index : Nat) : List AdmissionMove :=
  [.arrive 0 .messages, .advance index, .advance index]

/-- Two requests pass with the reading 50 s. A third reads 100 s, and before it is checked a fourth
reads 110 s, is checked and pops both entries off. -/
def overtakenMoves : List AdmissionMove :=
  [.tick (secondsLong 50)] ++ checkedMoves 0 ++ checkedMoves 1 ++
    [.tick (secondsLong 50), .arrive 0 .messages, .advance 2, .tick (secondsLong 10)] ++
      checkedMoves 3 ++ [.advance 2]

/-- Three requests pass in the minute that ends at 100 s. -/
theorem rate_limit_overtaken :
    ¬ RateLimited pairRegistry (overtakenMoves.foldl (Admissions.step pairRegistry 8)
      (.initial pairRegistry 8)) := by
  intro limited
  have passed : (overtakenMoves.foldl (Admissions.step pairRegistry 8)
      (.initial pairRegistry 8)).generations.map (fun generation => generation.passed 0) =
      [[secondsLong 50, secondsLong 50, secondsLong 110, secondsLong 100]] := by
    decide +kernel
  obtain ⟨generation, member, passedEq⟩ := List.mem_map.mp (passed ▸ List.mem_singleton_self _)
  have bound := limited generation member 0 _ rfl (secondsLong 100)
  rw [passedEq] at bound
  exact absurd bound (by decide)

/-- Two requests read the clock at 50 s and are checked in the other order. A third reads 110 s, and
before it is checked a fourth reads 115 s, is checked and pops both entries off. -/
def interleavedMoves : List AdmissionMove :=
  [.tick (secondsLong 50), .arrive 0 .messages, .arrive 0 .messages, .advance 0, .advance 1,
    .advance 1, .advance 0, .tick (secondsLong 60), .arrive 0 .messages, .arrive 0 .messages,
    .advance 2, .tick (secondsLong 5), .advance 3, .advance 3, .advance 2]

/-- The third request is overtaken, but its reading is late enough: no window has three requests. -/
theorem rate_limit_interleaved :
    (interleavedMoves.foldl (Admissions.step pairRegistry 8)
        (.initial pairRegistry 8)).generations.map (fun generation =>
      (generation.passed 0, generation.evicted 0)) =
      [([secondsLong 50, secondsLong 50, secondsLong 115, secondsLong 110],
        [secondsLong 50, secondsLong 50])] ∧
    RateLimited pairRegistry (interleavedMoves.foldl (Admissions.step pairRegistry 8)
      (.initial pairRegistry 8)) :=
  ⟨by decide +kernel, rate_limit pairRegistry 8 interleavedMoves (by decide +kernel)⟩

end ClaudeProxy
