/-
Module: ClaudeProxy.Proofs.CircuitHistory
Layer: Proofs
Purpose: When a circuit is open, read off the history of the calls made on it. The circuit is open
  exactly while the cooldown of an opening lasts: a counting failure that was, since the last success,
  at least the one the threshold asks for. Looks at the circuit and errors of other kinds leave no
  trace in what it answers later.
Trusted boundary: none
Main exports: CircuitCall, Provider.afterCalls, Chronological, InRange, Opening, circuit_specification
-/
import ClaudeProxy.Proofs.Reports
import Mathlib.Data.List.DropRight

namespace ClaudeProxy

open Library

/-! ### Histories -/

/-- A call of one of the three methods, with the time at which it is made. A success reads no
clock. -/
inductive CircuitCall where
  | available (now : Instant)
  | success
  | failure (now : Instant) (error : ProxyError)
deriving DecidableEq, Repr, Inhabited

namespace CircuitCall

def reading : CircuitCall → Option Instant
  | .available now => some now
  | .success => none
  | .failure now _ => some now

def isSuccess : CircuitCall → Bool
  | .success => true
  | _ => false

/-- A failure of one of the kinds that count. -/
def counts : CircuitCall → Bool
  | .failure _ error => countsAsFailure error
  | _ => false

/-- Everything but looks at the circuit and errors of other kinds. -/
def relevant (call : CircuitCall) : Bool := call.isSuccess || call.counts

end CircuitCall

def Provider.call (provider : Provider) (circuits : Circuits) : CircuitCall → Circuits
  | .available now => (provider.available now circuits).2
  | .success => (provider.recordSuccess circuits).2
  | .failure now error => (provider.recordFailure now error circuits).2

/-- The circuits of new providers after a history of calls of one of them. -/
def Provider.afterCalls (provider : Provider) (calls : List CircuitCall) : Circuits :=
  calls.foldl provider.call (.fresh {})

/-- The clock never ran backwards, and shows `now` after the last call. -/
structure Chronological (calls : List CircuitCall) (now : Instant) : Prop where
  ordered : (calls.filterMap CircuitCall.reading).Pairwise (· ≤ ·)
  upTo : ∀ reading ∈ calls.filterMap CircuitCall.reading, reading ≤ now

/-- Fewer failures count than a `u32` does, and the clock has room for the cooldown of each. -/
structure InRange (cooldown : Nat) (calls : List CircuitCall) : Prop where
  few : calls.countP CircuitCall.counts < 2 ^ 32
  room : ∀ now error, .failure now error ∈ calls → countsAsFailure error = true →
    now + cooldown ≤ clockMax

/-- How many failures have counted since the last success. -/
def countSinceSuccess (calls : List CircuitCall) : Nat :=
  (calls.rtakeWhile fun call => !call.isSuccess).countP CircuitCall.counts

/-- A failure at `time` opened the circuit: it counts, no success follows it, and it is at least the
one that the threshold asks for since the success before it. -/
def Opening (threshold : Nat) (calls : List CircuitCall) (time : Instant) : Prop :=
  ∃ before error after, calls = before ++ .failure time error :: after ∧
    countsAsFailure error = true ∧ (∀ call ∈ after, call.isSuccess = false) ∧
    threshold ≤ countSinceSuccess before + 1

/-! ### One call more -/

section Concat

variable {threshold cooldown : Nat} {calls : List CircuitCall} {call : CircuitCall}
  {time : Instant}

/-- A further call adds a failure that counts, or begins anew. -/
theorem countSinceSuccess_concat (calls : List CircuitCall) (call : CircuitCall) :
    countSinceSuccess (calls ++ [call]) =
      if call.isSuccess = true then 0
      else countSinceSuccess calls + if call.counts = true then 1 else 0 := by
  unfold countSinceSuccess
  rw [List.rtakeWhile_concat]
  cases isSuccess : call.isSuccess with
  | true => simp
  | false => simp [List.countP_append, List.countP_cons]

/-- What a call adds to the openings, or takes away from them. -/
theorem opening_concat :
    Opening threshold (calls ++ [call]) time ↔
      call.isSuccess = false ∧ (Opening threshold calls time ∨
        threshold ≤ countSinceSuccess calls + 1 ∧
          ∃ error, call = .failure time error ∧ countsAsFailure error = true) := by
  constructor
  · rintro ⟨before, error, after, split, counted, unbroken, reached⟩
    rcases List.eq_nil_or_concat after with rfl | ⟨earlier, last, rfl⟩
    · obtain ⟨rfl, sameCall⟩ := List.append_inj' split rfl
      obtain rfl : call = .failure time error := by simpa using sameCall
      exact ⟨rfl, .inr ⟨reached, error, rfl, counted⟩⟩
    · rw [List.concat_eq_append] at split unbroken
      rw [← List.cons_append, ← List.append_assoc] at split
      obtain ⟨rfl, sameCall⟩ := List.append_inj' split rfl
      obtain rfl : call = last := by simpa using sameCall
      refine ⟨unbroken call (by simp), .inl ⟨before, error, earlier, rfl, counted, ?_, reached⟩⟩
      intro other member
      exact unbroken other (by simp [member])
  · rintro ⟨noSuccess, ⟨before, error, after, rfl, counted, unbroken, reached⟩ | new⟩
    · refine ⟨before, error, after ++ [call], by simp, counted, ?_, reached⟩
      intro other member
      rcases List.mem_append.mp member with earlier | last
      · exact unbroken other earlier
      · rw [List.mem_singleton.mp last]
        exact noSuccess
    · obtain ⟨reached, error, rfl, counted⟩ := new
      refine ⟨calls, error, [], rfl, counted, ?_, reached⟩
      intro other member
      cases member

theorem Opening.reading (opening : Opening threshold calls time) :
    time ∈ calls.filterMap CircuitCall.reading := by
  obtain ⟨before, error, after, rfl, -⟩ := opening
  simp [List.filterMap_append, CircuitCall.reading]

/-- The calls are made one after the other. -/
theorem afterCalls_concat (provider : Provider) :
    provider.afterCalls (calls ++ [call]) = provider.call (provider.afterCalls calls) call := by
  simp [Provider.afterCalls, List.foldl_append]

theorem countSinceSuccess_le (calls : List CircuitCall) :
    countSinceSuccess calls ≤ calls.countP CircuitCall.counts :=
  (List.rtakeWhile_suffix _ _).sublist.countP_le

/-- What is within the range of the machine was so before. -/
theorem InRange.of_concat (inRange : InRange cooldown (calls ++ [call])) :
    InRange cooldown calls := by
  obtain ⟨few, room⟩ := inRange
  rw [List.countP_append] at few
  constructor
  · omega
  · intro now error member counted
    exact room now error (List.mem_append_left _ member) counted

/-- The calls that matter decide what is in range. -/
theorem InRange.of_filter (inRange : InRange cooldown (calls.filter CircuitCall.relevant)) :
    InRange cooldown calls := by
  obtain ⟨few, room⟩ := inRange
  constructor
  · rw [List.countP_filter] at few
    have same : calls.countP CircuitCall.counts =
        calls.countP (fun call => call.counts && call.relevant) := by
      apply List.countP_congr
      intro call _
      cases counts : call.counts <;> simp [CircuitCall.relevant, counts]
    rwa [same]
  · intro now error member counted
    apply room now error _ counted
    rw [List.mem_filter]
    exact ⟨member, by simp [CircuitCall.relevant, CircuitCall.counts, counted]⟩

theorem InRange.filter (inRange : InRange cooldown calls) :
    InRange cooldown (calls.filter CircuitCall.relevant) := by
  obtain ⟨few, room⟩ := inRange
  constructor
  · exact Nat.lt_of_le_of_lt List.filter_sublist.countP_le few
  · intro now error member counted
    exact room now error (List.mem_of_mem_filter member) counted

theorem Chronological.of_concat {now : Instant}
    (chronological : Chronological (calls ++ [call]) now) : Chronological calls now := by
  obtain ⟨ordered, upTo⟩ := chronological
  rw [List.filterMap_append] at ordered upTo
  constructor
  · exact (List.pairwise_append.mp ordered).1
  · intro reading member
    exact upTo reading (List.mem_append_left _ member)

/-- The clock had not yet passed the last call. -/
theorem Chronological.before {now last : Instant}
    (chronological : Chronological (calls ++ [call]) now) (read : call.reading = some last) :
    Chronological calls last := by
  obtain ⟨ordered, upTo⟩ := chronological
  rw [List.filterMap_append] at ordered
  obtain ⟨earlier, -, across⟩ := List.pairwise_append.mp ordered
  constructor
  · exact earlier
  · intro reading member
    exact across reading member last (by simp [read])

end Concat

/-! ### The state tells the history -/

/-- What the state of a circuit has to do with the calls made on it so far. -/
structure Records (threshold cooldown : Nat) (calls : List CircuitCall) (state : CircuitState) :
    Prop where
  /-- The count goes on through cooldowns. -/
  failures : state.failures = countSinceSuccess calls
  /-- An open circuit was opened by some failure. -/
  justified : ∀ limit, state.openUntil = some limit →
    ∃ time, Opening threshold calls time ∧ limit = time + cooldown
  /-- Each opening is still in force, has been overtaken by a later one, or has run out. -/
  remembered : ∀ time, Opening threshold calls time →
    (∃ limit, state.openUntil = some limit ∧ time + cooldown ≤ limit) ∨
      ∃ reading ∈ calls.filterMap CircuitCall.reading, time + cooldown ≤ reading

section Records

variable {threshold cooldown : Nat} {calls : List CircuitCall} {state : CircuitState}
  {now : Instant} {error : ProxyError}

theorem opening_concat_available {time : Instant} :
    Opening threshold (calls ++ [CircuitCall.available now]) time ↔ Opening threshold calls time := by
  rw [opening_concat]
  simp [CircuitCall.isSuccess]

/-- A look at the circuit keeps the record of what was called. -/
theorem Records.available (records : Records threshold cooldown calls state) :
    Records threshold cooldown (calls ++ [.available now]) (state.available now).2 := by
  obtain ⟨failures, justified, remembered⟩ := records
  have sameCount : countSinceSuccess (calls ++ [.available now]) = countSinceSuccess calls := by
    simp [countSinceSuccess_concat, CircuitCall.isSuccess, CircuitCall.counts]
  have older : ∀ reading ∈ calls.filterMap CircuitCall.reading,
      reading ∈ (calls ++ [CircuitCall.available now]).filterMap CircuitCall.reading := by
    intro reading member
    rw [List.filterMap_append]
    exact List.mem_append_left _ member
  unfold CircuitState.available
  cases opened : state.openUntil with
  | none =>
      constructor
      · rw [sameCount]
        exact failures
      · intro limit isOpen
        rw [opened] at isOpen
        cases isOpen
      · intro time opening
        rcases remembered time (opening_concat_available.mp opening) with ⟨limit, isOpen, _⟩ | past
        · rw [opened] at isOpen
          cases isOpen
        · obtain ⟨reading, member, expired⟩ := past
          exact .inr ⟨reading, older reading member, expired⟩
  | some limit =>
      by_cases lasts : now < limit
      · simp only [lasts, if_true]
        constructor
        · rw [sameCount]
          exact failures
        · intro other isOpen
          obtain ⟨time, opening, limitEq⟩ := justified other isOpen
          exact ⟨time, opening_concat_available.mpr opening, limitEq⟩
        · intro time opening
          rcases remembered time (opening_concat_available.mp opening) with inForce | past
          · exact .inl inForce
          · obtain ⟨reading, member, expired⟩ := past
            exact .inr ⟨reading, older reading member, expired⟩
      · simp only [lasts, if_false]
        constructor
        · rw [sameCount]
          exact failures
        · intro other isOpen
          cases isOpen
        · intro time opening
          -- the opening that is forgotten had run out when the circuit was looked at
          rcases remembered time (opening_concat_available.mp opening) with inForce | past
          · obtain ⟨other, isOpen, within⟩ := inForce
            obtain rfl : limit = other := by
              rw [opened] at isOpen
              exact Option.some.inj isOpen
            refine .inr ⟨now, ?_, Nat.le_trans within (Nat.le_of_not_lt lasts)⟩
            simp [List.filterMap_append, CircuitCall.reading]
          · obtain ⟨reading, member, expired⟩ := past
            exact .inr ⟨reading, older reading member, expired⟩

/-- So does a success, which forgets it. -/
theorem Records.success (state : CircuitState) :
    Records threshold cooldown (calls ++ [.success]) (successSection state).2 := by
  constructor
  · simp [successSection, countSinceSuccess_concat, CircuitCall.isSuccess]
  · intro limit isOpen
    cases isOpen
  · intro time opening
    rw [opening_concat] at opening
    cases opening.1

/-- An error of another kind is no event in the history. -/
theorem Records.ignored (records : Records threshold cooldown calls state)
    (ignored : countsAsFailure error = false) :
    Records threshold cooldown (calls ++ [.failure now error]) state := by
  obtain ⟨failures, justified, remembered⟩ := records
  have sameOpenings : ∀ time, Opening threshold (calls ++ [CircuitCall.failure now error]) time ↔
      Opening threshold calls time := by
    intro time
    rw [opening_concat]
    constructor
    · rintro ⟨_, old | ⟨_, other, isCall, counted⟩⟩
      · exact old
      · cases isCall
        rw [ignored] at counted
        cases counted
    · intro old
      exact ⟨rfl, .inl old⟩
  constructor
  · simp [failures, countSinceSuccess_concat, CircuitCall.isSuccess, CircuitCall.counts, ignored]
  · intro limit isOpen
    obtain ⟨time, opening, limitEq⟩ := justified limit isOpen
    exact ⟨time, (sameOpenings time).mpr opening, limitEq⟩
  · intro time opening
    rcases remembered time ((sameOpenings time).mp opening) with inForce | past
    · exact .inl inForce
    · obtain ⟨reading, member, expired⟩ := past
      exact .inr ⟨reading, by simp [List.filterMap_append, member], expired⟩

/-- So does a failure, which may open the circuit. -/
theorem Records.failure (records : Records threshold cooldown calls state)
    (chronological : Chronological calls now) (counted : countsAsFailure error = true)
    (few : state.failures + 1 < 2 ^ 32) (room : now + cooldown ≤ clockMax) :
    Records threshold cooldown (calls ++ [.failure now error])
      (failureSection threshold cooldown now state).2 := by
  obtain ⟨failures, justified, remembered⟩ := records
  have nextCount : countSinceSuccess (calls ++ [.failure now error]) = state.failures + 1 := by
    simp [failures, countSinceSuccess_concat, CircuitCall.isSuccess, CircuitCall.counts, counted]
  have openings : ∀ time, Opening threshold (calls ++ [.failure now error]) time ↔
      Opening threshold calls time ∨ threshold ≤ state.failures + 1 ∧ time = now := by
    intro time
    rw [opening_concat, failures]
    constructor
    · rintro ⟨_, old | ⟨reached, other, isCall, _⟩⟩
      · exact .inl old
      · cases isCall
        exact .inr ⟨reached, rfl⟩
    · rintro (old | ⟨reached, rfl⟩)
      · exact ⟨rfl, .inl old⟩
      · exact ⟨rfl, .inr ⟨reached, error, rfl, counted⟩⟩
  have older : ∀ reading ∈ calls.filterMap CircuitCall.reading,
      reading ∈ (calls ++ [CircuitCall.failure now error]).filterMap CircuitCall.reading := by
    intro reading member
    rw [List.filterMap_append]
    exact List.mem_append_left _ member
  rw [failureSection_in_range threshold few room]
  by_cases reached : threshold ≤ state.failures + 1
  · simp only [reached, if_true]
    constructor
    · exact nextCount.symm
    · intro limit isOpen
      cases isOpen
      exact ⟨now, (openings now).mpr (.inr ⟨reached, rfl⟩), rfl⟩
    · intro time opening
      -- a later failure opens the circuit for at least as long
      apply Or.inl
      refine ⟨now + cooldown, rfl, ?_⟩
      rcases (openings time).mp opening with old | ⟨_, rfl⟩
      · have notLater : time ≤ now := chronological.upTo time old.reading
        exact Nat.add_le_add_right notLater cooldown
      · exact Nat.le_refl _
  · simp only [reached, if_false]
    constructor
    · exact nextCount.symm
    · intro limit isOpen
      obtain ⟨time, opening, limitEq⟩ := justified limit isOpen
      exact ⟨time, (openings time).mpr (.inl opening), limitEq⟩
    · intro time opening
      rcases (openings time).mp opening with old | ⟨impossible, _⟩
      · rcases remembered time old with inForce | past
        · exact .inl inForce
        · obtain ⟨reading, member, expired⟩ := past
          exact .inr ⟨reading, older reading member, expired⟩
      · exact absurd impossible reached

/-- Through any history in range whose clock does not run backwards. No call of it panics. -/
theorem records_afterCalls (provider : Provider) (chronological : Chronological calls now)
    (inRange : InRange provider.cooldown calls) :
    (provider.afterCalls calls provider.id).poisoned = false ∧
      Records provider.failureThreshold provider.cooldown calls
        (provider.afterCalls calls provider.id).value := by
  induction calls using List.reverseRecOn generalizing now with
  | nil =>
      refine ⟨rfl, ?_⟩
      constructor
      · rfl
      · intro limit isOpen
        cases isOpen
      · rintro time ⟨before, error, after, isNil, -⟩
        simp at isNil
  | append_singleton calls call inductionHypothesis =>
      obtain ⟨healthy, records⟩ := inductionHypothesis chronological.of_concat inRange.of_concat
      rw [afterCalls_concat]
      cases call with
      | available now =>
          unfold Provider.call
          dsimp only
          rw [Provider.available_of_healthy healthy]
          dsimp only
          rw [Function.update_self]
          exact ⟨rfl, records.available⟩
      | success =>
          have after := @Provider.report_success provider 0 _ healthy
          unfold Provider.call
          dsimp only
          unfold Provider.report at after
          rw [after]
          exact ⟨rfl, Records.success (provider.afterCalls calls provider.id).value⟩
      | failure time error =>
          unfold Provider.call
          dsimp only
          cases counted : countsAsFailure error with
          | true =>
              have room := inRange.room time error (by simp) counted
              have few : (provider.afterCalls calls provider.id).value.failures + 1 < 2 ^ 32 := by
                have bound := inRange.few
                have atMost := countSinceSuccess_le calls
                rw [List.countP_append] at bound
                simp only [List.countP_singleton, CircuitCall.counts, counted, if_true] at bound
                rw [records.failures]
                omega
              have after := @Provider.report_counted provider time _ _ counted healthy
              unfold Provider.report at after
              dsimp only at after
              rw [after]
              dsimp only
              rw [Option.isNone_eq_false_iff]
              exact ⟨failureSection_returns provider.failureThreshold room _,
                records.failure (chronological.before rfl) counted few room⟩
          | false =>
              have same : provider.recordFailure time error (provider.afterCalls calls) =
                  (some (), provider.afterCalls calls) := if_pos counted
              rw [same]
              exact ⟨healthy, records.ignored counted⟩

end Records

/-! ### The specification -/

section Specification

variable {threshold cooldown : Nat} {calls other : List CircuitCall} {now : Instant}

/-- A look at the circuit after a history returns. -/
theorem available_afterCalls (provider : Provider) (chronological : Chronological calls now)
    (inRange : InRange provider.cooldown calls) :
    (provider.available now (provider.afterCalls calls)).1 =
      some ((provider.afterCalls calls provider.id).value.available now).1 := by
  rw [Provider.available_of_healthy (records_afterCalls provider chronological inRange).1]

/-- The circuit is open exactly while the cooldown of an opening lasts. -/
theorem available_eq_false_iff (provider : Provider) (chronological : Chronological calls now)
    (inRange : InRange provider.cooldown calls) :
    (provider.available now (provider.afterCalls calls)).1 = some false ↔
      ∃ time, Opening provider.failureThreshold calls time ∧ now < time + provider.cooldown := by
  obtain ⟨_, justified, remembered⟩ := (records_afterCalls provider chronological inRange).2
  have shut : (provider.available now (provider.afterCalls calls)).1 = some false ↔
      ∃ limit, (provider.afterCalls calls provider.id).value.openUntil = some limit ∧
        now < limit := by
    rw [available_afterCalls provider chronological inRange]
    unfold CircuitState.available
    cases (provider.afterCalls calls provider.id).value.openUntil with
    | none => simp
    | some limit =>
        by_cases lasts : now < limit <;> simp [lasts]
  rw [shut]
  constructor
  · rintro ⟨limit, isOpen, lasts⟩
    obtain ⟨time, opening, rfl⟩ := justified limit isOpen
    exact ⟨time, opening, lasts⟩
  · rintro ⟨time, opening, lasts⟩
    rcases remembered time opening with ⟨limit, isOpen, within⟩ | ⟨reading, member, expired⟩
    · exact ⟨limit, isOpen, Nat.lt_of_lt_of_le lasts within⟩
    · have seen : reading ≤ now := chronological.upTo reading member
      exact absurd (Nat.le_trans expired seen) (Nat.not_le_of_lt lasts)

/-- Only reports count. -/
theorem countSinceSuccess_filter (calls : List CircuitCall) :
    countSinceSuccess (calls.filter CircuitCall.relevant) = countSinceSuccess calls := by
  induction calls using List.reverseRecOn with
  | nil => rfl
  | append_singleton calls call inductionHypothesis =>
      rw [List.filter_append, countSinceSuccess_concat]
      cases isSuccess : call.isSuccess with
      | true =>
          simp [CircuitCall.relevant, isSuccess, countSinceSuccess_concat]
      | false =>
          cases counts : call.counts <;>
            simp [CircuitCall.relevant, isSuccess, counts,
              countSinceSuccess_concat, inductionHypothesis]

/-- The openings are those of the calls that matter. -/
theorem opening_filter {time : Instant} :
    Opening threshold (calls.filter CircuitCall.relevant) time ↔ Opening threshold calls time := by
  induction calls using List.reverseRecOn with
  | nil => rfl
  | append_singleton calls call inductionHypothesis =>
      rw [opening_concat, List.filter_append]
      cases matters : call.relevant with
      | true =>
          have kept : [call].filter CircuitCall.relevant = [call] := by simp [matters]
          rw [kept, opening_concat, inductionHypothesis, countSinceSuccess_filter]
      | false =>
          have dropped : [call].filter CircuitCall.relevant = [] := by simp [matters]
          rw [dropped, List.append_nil, inductionHypothesis]
          simp only [CircuitCall.relevant, Bool.or_eq_false_iff] at matters
          constructor
          · intro old
            exact ⟨matters.1, .inl old⟩
          · rintro ⟨_, old | ⟨_, error, rfl, counted⟩⟩
            · exact old
            · rw [CircuitCall.counts, counted] at matters
              cases matters.2

/-- A counting failure after an opening, with no success in between, is an opening itself. -/
theorem Opening.again {time later : Instant} {error : ProxyError}
    (opening : Opening threshold calls time) (counted : countsAsFailure error = true) :
    Opening threshold (calls ++ [.failure later error]) later := by
  rw [opening_concat]
  refine ⟨rfl, .inr ⟨?_, error, rfl, counted⟩⟩
  obtain ⟨before, first, after, rfl, _, unbroken, reached⟩ := opening
  have grown : ∀ after : List CircuitCall, (∀ call ∈ after, call.isSuccess = false) →
      countSinceSuccess before ≤ countSinceSuccess (before ++ after) := by
    intro after
    induction after using List.reverseRecOn with
    | nil => simp
    | append_singleton after call inductionHypothesis =>
        intro unbroken
        have earlier := inductionHypothesis fun call member =>
          unbroken call (List.mem_append_left _ member)
        rw [← List.append_assoc, countSinceSuccess_concat,
          if_neg (by simp [unbroken call (by simp)])]
        omega
  have more := grown (.failure time first :: after) (by simpa [CircuitCall.isSuccess] using unbroken)
  omega

end Specification

/-- The circuit breaker in closed form. After a history in range each look at it returns. It is open
exactly while the cooldown of an opening lasts; two histories that agree on successes and counting
failures have the same answer; and once the circuit has opened, each further counting failure before a
success opens it for another cooldown. -/
theorem circuit_specification (provider : Provider) (calls : List CircuitCall) (now : Instant)
    (chronological : Chronological calls now) (inRange : InRange provider.cooldown calls) :
    (provider.available now (provider.afterCalls calls)).1.isSome = true ∧
    ((provider.available now (provider.afterCalls calls)).1 = some false ↔
      ∃ time, Opening provider.failureThreshold calls time ∧ time ≤ now ∧
        now < time + provider.cooldown) ∧
    (∀ other, Chronological other now →
      other.filter CircuitCall.relevant = calls.filter CircuitCall.relevant →
      (provider.available now (provider.afterCalls other)).1 =
        (provider.available now (provider.afterCalls calls)).1) ∧
    ∀ error, countsAsFailure error = true →
      InRange provider.cooldown (calls ++ [.failure now error]) →
      (∃ time, Opening provider.failureThreshold calls time) →
      ∀ later, now ≤ later → later < now + provider.cooldown →
        (provider.available later
          (provider.afterCalls (calls ++ [.failure now error]))).1 = some false := by
  refine ⟨?_, ?_, ?_, ?_⟩
  · rw [available_afterCalls provider chronological inRange]
    rfl
  · rw [available_eq_false_iff provider chronological inRange]
    constructor
    · rintro ⟨time, opening, lasts⟩
      exact ⟨time, opening, chronological.upTo time opening.reading, lasts⟩
    · rintro ⟨time, opening, _, lasts⟩
      exact ⟨time, opening, lasts⟩
  · intro other otherChronological agree
    have otherInRange : InRange provider.cooldown other := by
      apply InRange.of_filter
      rw [agree]
      exact inRange.filter
    have sameOpen : (provider.available now (provider.afterCalls other)).1 = some false ↔
        (provider.available now (provider.afterCalls calls)).1 = some false := by
      rw [available_eq_false_iff provider otherChronological otherInRange,
        available_eq_false_iff provider chronological inRange]
      apply exists_congr
      intro time
      rw [← opening_filter, agree, opening_filter]
    rw [available_afterCalls provider otherChronological otherInRange,
      available_afterCalls provider chronological inRange] at sameOpen ⊢
    rw [Option.some.injEq, Option.some.injEq, Bool.coe_false_iff_false] at sameOpen
    exact congrArg some (Bool.eq_iff_iff.mpr (not_iff_not.mp (by simpa using sameOpen)))
  · rintro error counted longerInRange ⟨time, opening⟩ later notBefore lasts
    have longer : Chronological (calls ++ [.failure now error]) later := by
      obtain ⟨ordered, upTo⟩ := chronological
      constructor
      · rw [List.filterMap_append, List.pairwise_append]
        refine ⟨ordered, List.pairwise_singleton _ _, ?_⟩
        intro reading member last isLast
        obtain rfl : last = now := by simpa [CircuitCall.reading] using isLast
        exact upTo reading member
      · intro reading member
        rw [List.filterMap_append] at member
        rcases List.mem_append.mp member with earlier | last
        · exact Nat.le_trans (upTo reading earlier) notBefore
        · obtain rfl : reading = now := by simpa [CircuitCall.reading] using last
          exact notBefore
    rw [available_eq_false_iff provider longer longerInRange]
    exact ⟨now, opening.again counted, lasts⟩

/-- Two failures in a row, a look after the cooldown, and one failure more. -/
def reopenedCalls : List CircuitCall :=
  [.failure 10 (.new .upstream "HTTP 500"), .failure 20 (.new .timeout "upstream request timed out"),
    .available 60, .failure 70 (.new .overloaded "HTTP 503")]

def reopenedProvider : Provider :=
  { (default : Provider) with id := "p", failureThreshold := 2, cooldown := 30 }

/-- The circuit of the sample has opened again, and is still open within its cooldown. -/
theorem circuit_specification_reopened :
    ((reopenedProvider.available 80 (reopenedProvider.afterCalls reopenedCalls)).1 = some false ↔
      ∃ time, Opening 2 reopenedCalls time ∧ time ≤ 80 ∧ 80 < time + 30) ∧
    (reopenedProvider.available 80 (reopenedProvider.afterCalls reopenedCalls)).1 = some false := by
  have inRange : InRange reopenedProvider.cooldown reopenedCalls := by
    constructor
    · decide
    · intro now error member _
      have early : ∀ call ∈ reopenedCalls, ∀ reading ∈ call.reading, reading ≤ 70 := by decide
      exact Nat.le_trans (Nat.add_le_add_right (early _ member now rfl) _) (by decide)
  exact ⟨(circuit_specification reopenedProvider reopenedCalls 80 ⟨by decide, by decide⟩ inRange).2.1,
    rfl⟩

end ClaudeProxy
