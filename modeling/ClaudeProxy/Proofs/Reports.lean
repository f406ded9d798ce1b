/-
Module: ClaudeProxy.Proofs.Reports
Layer: Proofs
Purpose: The reports to the circuits of the providers: when one returns, and what it leaves behind. A
  report that takes the lock panics if the lock is poisoned, and that of a failure which reaches the
  threshold if the cooldown ends after the last instant. The stream that `Router::stream` wraps around
  a provider's events makes its report before it yields an error, and is broken off if that panics.
Trusted boundary: none
Main exports: failureSection_returns, Provider.CanReport, Provider.report_isSome_iff,
  Provider.report_returns, Provider.available_of_healthy, streamReport, forwardEvents_append,
  forwardEvents_circuits
-/
import ClaudeProxy.Server.BodyStream

namespace ClaudeProxy

open Library

/-! ### Under the lock -/

section Sections

variable {threshold cooldown : Nat} {now : Instant} {state : CircuitState}

theorem availableSection_returns (now : Instant) (state : CircuitState) :
    (availableSection now state).1.isSome = true := rfl

theorem successSection_returns (state : CircuitState) :
    (successSection state).1.isSome = true := rfl

/-- A look at a circuit leaves the count as it is. -/
theorem available_failures (state : CircuitState) (now : Instant) :
    (state.available now).2.failures = state.failures := by
  unfold CircuitState.available
  cases state.openUntil with
  | none => rfl
  | some limit => by_cases lasts : now < limit <;> simp [lasts]

theorem failureSection_failures (threshold cooldown : Nat) (now : Instant) (state : CircuitState) :
    (failureSection threshold cooldown now state).2.failures = (state.failures + 1) % 2 ^ 32 := by
  unfold failureSection
  dsimp only
  split
  · split <;> rfl
  · rfl

/-- A failure is recorded if the cooldown ends within the range of the clock. -/
theorem failureSection_returns (threshold : Nat) (room : now + cooldown ≤ clockMax)
    (state : CircuitState) : (failureSection threshold cooldown now state).1.isSome = true := by
  have added : addDuration now cooldown = some (now + cooldown) := if_pos room
  unfold failureSection
  dsimp only
  rw [added]
  split <;> rfl

/-- A failure that reaches the threshold panics if the cooldown does not end within that range. -/
theorem failureSection_panics (tooLate : clockMax < now + cooldown)
    (reached : threshold ≤ (state.failures + 1) % 2 ^ 32) :
    (failureSection threshold cooldown now state).1 = none := by
  have notAdded : addDuration now cooldown = none := if_neg (Nat.not_le.mpr tooLate)
  unfold failureSection
  dsimp only
  rw [if_pos reached, notAdded]

/-- A failure below the threshold is counted. -/
theorem failureSection_counts (cooldown : Nat) (now : Instant)
    (below : (state.failures + 1) % 2 ^ 32 < threshold) :
    failureSection threshold cooldown now state =
      (some (), { state with failures := (state.failures + 1) % 2 ^ 32 }) := by
  unfold failureSection
  dsimp only
  rw [if_neg (Nat.not_le.mpr below)]

/-- Below the end of the count and of the clock, the section does what it says. -/
theorem failureSection_in_range (threshold : Nat) (few : state.failures + 1 < 2 ^ 32)
    (room : now + cooldown ≤ clockMax) :
    failureSection threshold cooldown now state =
      (some (), if threshold ≤ state.failures + 1 then
        { failures := state.failures + 1, openUntil := some (now + cooldown) }
      else { state with failures := state.failures + 1 }) := by
  have added : addDuration now cooldown = some (now + cooldown) := if_pos room
  unfold failureSection
  dsimp only
  rw [Nat.mod_eq_of_lt few, added]
  split <;> rfl

theorem failureSection_isSome_iff :
    (failureSection threshold cooldown now state).1.isSome = true ↔
      (threshold ≤ (state.failures + 1) % 2 ^ 32 → now + cooldown ≤ clockMax) := by
  constructor
  · intro returns reached
    by_contra tooLate
    rw [failureSection_panics (Nat.not_le.mp tooLate) reached] at returns
    cases returns
  · intro fits
    by_cases reached : threshold ≤ (state.failures + 1) % 2 ^ 32
    · exact failureSection_returns threshold (fits reached) state
    · rw [failureSection_counts cooldown now (Nat.not_le.mp reached)]
      rfl

end Sections

/-! ### Reports of a provider -/

/-- The report takes the lock of the circuit. -/
def CircuitReport.locks : CircuitReport → Bool
  | .success => true
  | .failure error => countsAsFailure error

/-- The report is one of a failure that counts. -/
def CircuitReport.counts : CircuitReport → Bool
  | .success => false
  | .failure error => countsAsFailure error

/-- A report can be made on a circuit on which, since it was seen, some more failures have counted: it
takes no lock, or finds the lock healthy and, where it reaches the threshold, room for the cooldown. -/
def Provider.CanReport (provider : Provider) (now : Instant) (report : CircuitReport)
    (circuit : Mutex CircuitState) (more : Nat) : Prop :=
  report.locks = true → circuit.poisoned = false ∧
    (report.counts = true →
      provider.failureThreshold ≤ (circuit.value.failures + more + 1) % 2 ^ 32 →
        now + provider.cooldown ≤ clockMax)

instance (provider : Provider) (now : Instant) (report : CircuitReport)
    (circuit : Mutex CircuitState) (more : Nat) :
    Decidable (provider.CanReport now report circuit more) :=
  inferInstanceAs (Decidable (_ → _))

section Reports

variable {provider : Provider} {now : Instant} {report : CircuitReport} {error : ProxyError}
  {circuits : Circuits}

theorem Provider.report_unlocked (unlocked : report.locks = false) :
    provider.report now report circuits = (some (), circuits) := by
  cases report with
  | success => cases unlocked
  | failure error => exact if_pos unlocked

theorem Provider.recordFailure_counted (counted : countsAsFailure error = true) :
    provider.recordFailure now error circuits =
      circuits.withLock provider.id
        (failureSection provider.failureThreshold provider.cooldown now) :=
  if_neg (by simp [counted])

theorem Provider.report_poisoned (locks : report.locks = true)
    (poisoned : (circuits provider.id).poisoned = true) :
    (provider.report now report circuits).1 = none ∧
      (provider.report now report circuits).2 provider.id = circuits provider.id := by
  have stuck : ∀ {β : Type} (critical : CircuitState → Option β × CircuitState),
      (circuits.withLock provider.id critical).1 = none ∧
        (circuits.withLock provider.id critical).2 provider.id = circuits provider.id := by
    intro β critical
    rw [Locks.withLock_fst, Locks.withLock_self, Mutex.withLock_poisoned poisoned]
    exact ⟨rfl, rfl⟩
  cases report with
  | success => exact stuck successSection
  | failure error =>
      unfold Provider.report
      dsimp only
      rw [recordFailure_counted locks]
      exact stuck _

theorem Provider.report_isSome_iff :
    (provider.report now report circuits).1.isSome = true ↔
      provider.CanReport now report (circuits provider.id) 0 := by
  cases locks : report.locks with
  | false =>
      rw [report_unlocked locks]
      simp [CanReport, locks]
  | true =>
      cases state : (circuits provider.id).poisoned with
      | true =>
          rw [(report_poisoned locks state).1]
          simp [CanReport, locks, state]
      | false =>
          cases report with
          | success =>
              unfold Provider.report Provider.recordSuccess CanReport
              dsimp only
              rw [Locks.withLock_healthy state]
              simp [successSection, state, CircuitReport.counts]
          | failure error =>
              have counted : countsAsFailure error = true := locks
              unfold Provider.report CanReport
              dsimp only
              rw [recordFailure_counted counted, Locks.withLock_healthy state,
                failureSection_isSome_iff]
              simp [state, CircuitReport.counts, CircuitReport.locks, counted]

/-- A report is to the circuit of its own provider only. -/
theorem Provider.report_of_ne {other : String} (different : other ≠ provider.id) :
    (provider.report now report circuits).2 other = circuits other := by
  cases report with
  | success => exact Locks.withLock_of_ne different circuits successSection
  | failure error =>
      unfold Provider.report Provider.recordFailure
      dsimp only
      split
      · rfl
      · exact Locks.withLock_of_ne different _ _

/-- The circuit after a failure that counted. -/
theorem Provider.report_counted (counted : countsAsFailure error = true)
    (healthy : (circuits provider.id).poisoned = false) :
    (provider.report now (.failure error) circuits).2 provider.id =
      { value := (failureSection provider.failureThreshold provider.cooldown now
          (circuits provider.id).value).2
        poisoned := (failureSection provider.failureThreshold provider.cooldown now
          (circuits provider.id).value).1.isNone } := by
  unfold Provider.report
  dsimp only
  rw [recordFailure_counted counted, Locks.withLock_self, Mutex.withLock_healthy healthy]

theorem Provider.report_success (healthy : (circuits provider.id).poisoned = false) :
    (provider.report now .success circuits).2 provider.id =
      { value := { failures := 0, openUntil := none } } := by
  unfold Provider.report Provider.recordSuccess
  dsimp only
  rw [Locks.withLock_self, Mutex.withLock_healthy healthy]
  rfl

/-- While the cooldown fits into the clock, every report returns and poisons nothing. -/
theorem Provider.report_returns (room : now + provider.cooldown ≤ clockMax)
    (report : CircuitReport) (healthy : circuits.Healthy) :
    (provider.report now report circuits).1.isSome = true ∧
      (provider.report now report circuits).2.Healthy := by
  cases report with
  | success => exact healthy.withLock provider.id successSection_returns
  | failure error =>
      unfold Provider.report Provider.recordFailure
      dsimp only
      split
      · exact ⟨rfl, healthy⟩
      · exact healthy.withLock provider.id (failureSection_returns provider.failureThreshold room)

/-- A look at a circuit whose lock is healthy. -/
theorem Provider.available_of_healthy (healthy : (circuits provider.id).poisoned = false) :
    provider.available now circuits =
      (some ((circuits provider.id).value.available now).1,
        Function.update circuits provider.id
          { value := ((circuits provider.id).value.available now).2 }) := by
  unfold Provider.available
  rw [Locks.withLock_healthy healthy]
  rfl

theorem Provider.available_of_poisoned (poisoned : (circuits provider.id).poisoned = true) :
    provider.available now circuits = (none, circuits) := by
  unfold Provider.available Locks.withLock
  rw [Mutex.withLock_poisoned poisoned]
  dsimp only
  rw [Function.update_eq_self]

end Reports

/-! ### The wrapped stream -/

/-- The report that is made on a stream, if it comes to its end. -/
def streamReport : List (Except ProxyError ProviderEvent) → Tail → Option CircuitReport
  | [], .closed => some .success
  | [], .pending => none
  | .error error :: _, _ => some (.failure error)
  | .ok _ :: rest, tail => streamReport rest tail

section Forwarding

variable {provider : Provider} {now : Instant} {circuits : Circuits}

theorem forwardEvents_append (events : List ProviderEvent)
    (rest : List (Except ProxyError ProviderEvent)) (tail : Tail) :
    forwardEvents provider now circuits (events.map .ok ++ rest) tail =
      { forwardEvents provider now circuits rest tail with
        feed := ⟨events.map .ok ++ (forwardEvents provider now circuits rest tail).feed.items,
          (forwardEvents provider now circuits rest tail).feed.tail⟩ } := by
  induction events with
  | nil => rfl
  | cons event more inductionHypothesis =>
      rw [List.map_cons, List.cons_append, forwardEvents, inductionHypothesis]
      rfl

/-- What the wrapped stream makes of its report. -/
theorem forwardEvents_circuits (provider : Provider) (now : Instant) (circuits : Circuits)
    (items : List (Except ProxyError ProviderEvent)) (tail : Tail) :
    let forwarded := forwardEvents provider now circuits items tail
    forwarded.report = streamReport items tail ∧
      match streamReport items tail with
      | some report =>
          forwarded.circuits = (provider.report now report circuits).2 ∧
            forwarded.panicked = (provider.report now report circuits).1.isNone
      | none => forwarded.circuits = circuits ∧ forwarded.panicked = false := by
  induction items with
  | nil =>
      cases tail with
      | closed => exact ⟨rfl, rfl, rfl⟩
      | pending => exact ⟨rfl, rfl, rfl⟩
  | cons item rest inductionHypothesis =>
      cases item with
      | ok event => exact inductionHypothesis
      | error error =>
          unfold forwardEvents streamReport
          dsimp only [Provider.report]
          rcases provider.recordFailure now error circuits with ⟨_ | _, after⟩
          · exact ⟨rfl, rfl, rfl⟩
          · exact ⟨rfl, rfl, rfl⟩

/-- A failure that is recorded is passed on. -/
theorem forwardEvents_failed {error : ProxyError} {tail : Tail}
    {rest : List (Except ProxyError ProviderEvent)}
    (records : provider.CanReport now (.failure error) (circuits provider.id) 0) :
    (forwardEvents provider now circuits (.error error :: rest) tail).feed =
      ⟨[.error error], .closed⟩ := by
  have returned := Provider.report_isSome_iff.mpr records
  unfold Provider.report at returned
  unfold forwardEvents
  dsimp only at returned ⊢
  rcases recorded : provider.recordFailure now error circuits with ⟨_ | _, after⟩
  · rw [recorded] at returned
    cases returned
  · rfl

/-- A failure whose record panics is not, and nothing else either. -/
theorem forwardEvents_broken {error : ProxyError} {tail : Tail}
    {rest : List (Except ProxyError ProviderEvent)}
    (fails : ¬ provider.CanReport now (.failure error) (circuits provider.id) 0) :
    let forwarded := forwardEvents provider now circuits (.error error :: rest) tail
    forwarded.feed = ⟨[], .closed⟩ ∧ forwarded.panicked = true := by
  rw [← Provider.report_isSome_iff, Bool.not_eq_true] at fails
  unfold Provider.report at fails
  unfold forwardEvents
  dsimp only at fails ⊢
  rcases recorded : provider.recordFailure now error circuits with ⟨_ | _, after⟩
  · exact ⟨rfl, rfl⟩
  · rw [recorded] at fails
    cases fails

end Forwarding

end ClaudeProxy
