/-
Module: ClaudeProxy.Proofs.Fallback
Layer: Proofs
Purpose: How the router falls back. It calls its candidates in order up to the first outcome that is
  no retryable error, and an error is retryable only when the target could not be reached or answered
  with one of seven statuses; so no work that a target has done is thrown away. The loop reports each
  attempt to the circuit of its provider, and keeps this discipline exactly if it can make the reports.
Trusted boundary: none
Main exports: isFinal, FallsBack, attemptReport, Reportable, tryCandidates_met,
  tryCandidates_fallsBack_iff, IsNew, adaptRequest_isNew, convertResponse_isNew, send_careful,
  router_fallback_iff
-/
import ClaudeProxy.Library.Attempts
import ClaudeProxy.Library.Outcome
import ClaudeProxy.Proofs.Candidates

namespace ClaudeProxy

open Library
open Library.Except (Fails)

/-! ### The policy -/

/-- Everything but a retryable error ends the attempts. -/
def isFinal {α : Type} : Timed α → Bool
  | some (.error error) => !error.retryable
  | some (.ok _) => true
  | none => true

/-- What is returned when an outcome is the last. -/
def settled {α : Type} (elapsed : ProxyError) : Timed α → Except ProxyError α
  | some result => result
  | none => .error elapsed

/-- The request that a candidate sends to its provider. -/
def Candidate.posts (crates : Crates) (environment : Environment) (stream : Bool)
    (candidate : Candidate) : Except ProxyError HttpRequest := do
  let body ← candidate.provider.prepare crates candidate.request candidate.target.model stream
  candidate.provider.httpRequest environment body

/-- The target could not be reached with a request, or answered it with a status after which another
target may be tried. -/
def MayFallBack (posted : Except ProxyError HttpRequest) (upstream : Upstream) : Prop :=
  ∃ sent, posted = .ok sent ∧
    ((∃ error, upstream.reply sent = some (.broken error) ∧ error.isConnect = true) ∨
      ∃ response, upstream.reply sent = some (.answered response) ∧
        response.status ∈ retryableStatuses)

/-- The outcome of each candidate, if it is called. -/
def outcomesOf {α : Type} (call : Candidate → Upstream → Timed α) (upstreams : Nat → Upstream)
    (candidates : List Candidate) : List (Timed α) :=
  candidates.zipIdx.map fun entry => call entry.1 (upstreams entry.2)

/-- How many candidates are called: at most `maxAttempts`, at most all of them, and none after the
first final outcome. -/
def attemptCount {α : Type} (maxAttempts : Nat) (outcomes : List (Timed α)) : Nat :=
  min maxAttempts (min outcomes.length (outcomes.findIdx isFinal + 1))

/-- After an outcome that is not final the loop goes on: it is a retryable error, and no elapsed
timeout. -/
theorem isFinal_eq_false {α : Type} {outcome : Timed α} :
    isFinal outcome = false ↔
      ∃ error : ProxyError, outcome = some (.error error) ∧ error.retryable = true := by
  cases outcome with
  | none => simp [isFinal]
  | some returned =>
      cases returned with
      | ok value => simp [isFinal]
      | error error => simp [isFinal]

/-- Where there is a candidate and an attempt is allowed, one is made. -/
theorem attemptCount_pos {α : Type} {maxAttempts : Nat} {outcomes : List (Timed α)}
    (attemptsPos : 0 < maxAttempts) (present : outcomes ≠ []) :
    0 < attemptCount maxAttempts outcomes := by
  have lengthPos := List.length_pos_iff.mpr present
  unfold attemptCount
  omega

theorem attemptCount_le_length {α : Type} (maxAttempts : Nat) (outcomes : List (Timed α)) :
    attemptCount maxAttempts outcomes ≤ outcomes.length := by
  unfold attemptCount
  omega

/-- Before the last attempt that is made no outcome is final. -/
theorem lt_findIdx_of_lt_attemptCount {α : Type} {maxAttempts : Nat} {outcomes : List (Timed α)}
    {index : Nat} (early : index + 1 < attemptCount maxAttempts outcomes) :
    index < outcomes.findIdx isFinal := by
  unfold attemptCount at early
  omega

/-- The discipline of a fallback. -/
structure FallsBack {α : Type} (maxAttempts : Nat) (candidates : List Candidate)
    (posts : Candidate → Except ProxyError HttpRequest) (upstreams : Nat → Upstream)
    (outcomes : List (Timed α)) (elapsed : ProxyError) (routed : Routed α) : Prop where
  contacted : routed.contacted = candidates.take (attemptCount maxAttempts outcomes)
  result : ∃ last, outcomes[attemptCount maxAttempts outcomes - 1]? = some last ∧
    routed.result = some (settled elapsed last)
  cautious : ∀ index, index + 1 < attemptCount maxAttempts outcomes →
    (∃ error, outcomes[index]? = some (some (.error error)) ∧ error.retryable = true) ∧
      ∃ candidate, candidates[index]? = some candidate ∧
        MayFallBack (posts candidate) (upstreams index)
  positive : 0 < attemptCount maxAttempts outcomes
  explained : routed.unexplained = false

/-! ### Reports -/

/-- The report that an attempt makes at the circuit of its provider: what the loop makes of a success,
and a failure of every error. -/
def attemptReport {α : Type} (onSuccess : Option CircuitReport) (elapsed : ProxyError) :
    Timed α → Option CircuitReport
  | some (.ok _) => onSuccess
  | some (.error error) => some (.failure error)
  | none => some (.failure elapsed)

/-- How many of the attempts at a provider made a report that counted. -/
def countedAt (reportOf : Candidate × Upstream → Option CircuitReport) (id : String)
    (attempts : List (Candidate × Upstream)) : Nat :=
  attempts.countP fun attempt =>
    attempt.1.provider.id = id ∧ (reportOf attempt).any CircuitReport.counts = true

/-- All reports of the attempts can be made, the one after the other. -/
def Reportable (reportOf : Candidate × Upstream → Option CircuitReport) (circuits : Circuits)
    (attempts : List (Candidate × Upstream)) : Prop :=
  ∀ before candidate upstream after, attempts = before ++ (candidate, upstream) :: after →
    ∀ report, reportOf (candidate, upstream) = some report →
      candidate.provider.CanReport upstream.finishedAt report (circuits candidate.provider.id)
        (countedAt reportOf candidate.provider.id before)

section Reports

variable {reportOf : Candidate × Upstream → Option CircuitReport} {circuits after : Circuits}
  {candidate : Candidate} {upstream : Upstream} {rest : List (Candidate × Upstream)}

theorem reportable_nil : Reportable reportOf circuits [] := by
  intro before candidate upstream after split
  cases before <;> cases split

/-- The first report finds the circuits as they are. -/
theorem Reportable.head {report : CircuitReport}
    (reportable : Reportable reportOf circuits ((candidate, upstream) :: rest))
    (reported : reportOf (candidate, upstream) = some report) :
    candidate.provider.CanReport upstream.finishedAt report (circuits candidate.provider.id) 0 :=
  reportable [] candidate upstream rest rfl report reported

/-- After a failure that was recorded, a report meets one failure more if it counted here. -/
theorem canReport_after {provider other : Provider} {now later : Instant} {error : ProxyError}
    {report : CircuitReport} {more : Nat}
    (recorded : provider.report now (.failure error) circuits = (some (), after)) :
    other.CanReport later report (after other.id) more ↔
      other.CanReport later report (circuits other.id)
        (if provider.id = other.id ∧ countsAsFailure error = true then more + 1 else more) := by
  have returned : (provider.report now (.failure error) circuits).1.isSome = true := by
    rw [recorded]
    rfl
  obtain rfl : (provider.report now (.failure error) circuits).2 = after := by rw [recorded]
  by_cases here : provider.id = other.id
  · cases counts : countsAsFailure error with
    | false => simp [@Provider.report_unlocked _ _ (.failure error) _ counts]
    | true =>
        have healthy := (Provider.report_isSome_iff.mp returned counts).1
        have section' : (failureSection provider.failureThreshold provider.cooldown now
            (circuits provider.id).value).1.isSome = true := by
          unfold Provider.report at returned
          dsimp only at returned
          rw [Provider.recordFailure_counted counts, Locks.withLock_healthy healthy] at returned
          exact returned
        have counted := @Provider.report_counted _ now _ _ counts healthy
        have found := failureSection_failures provider.failureThreshold provider.cooldown now
          (circuits provider.id).value
        have sum : ∀ failures : Nat, ((failures + 1) % 2 ^ 32 + more + 1) % 2 ^ 32 =
            (failures + (more + 1) + 1) % 2 ^ 32 := by
          intro failures
          omega
        rw [← here, counted, if_pos ⟨rfl, rfl⟩]
        unfold Provider.CanReport
        rw [found, sum, Option.isNone_eq_false_iff.mpr section', healthy]
  · rw [Provider.report_of_ne (Ne.symm here), if_neg fun both => here both.1]

/-- After a failure that was recorded, the other reports can be made if all could be made before. -/
theorem reportable_cons_iff {error : ProxyError}
    (failed : reportOf (candidate, upstream) = some (.failure error))
    (recorded : candidate.provider.report upstream.finishedAt (.failure error) circuits =
      (some (), after)) :
    Reportable reportOf circuits ((candidate, upstream) :: rest) ↔
      Reportable reportOf after rest := by
  have moreCounted : ∀ (id : String) (before : List (Candidate × Upstream)),
      countedAt reportOf id ((candidate, upstream) :: before) =
        if candidate.provider.id = id ∧ countsAsFailure error = true then
          countedAt reportOf id before + 1
        else countedAt reportOf id before := by
    intro id before
    have same : ((reportOf (candidate, upstream)).any CircuitReport.counts) =
        countsAsFailure error := by
      rw [failed]
      rfl
    unfold countedAt
    rw [List.countP_cons, same]
    by_cases counted : candidate.provider.id = id ∧ countsAsFailure error = true
    · rw [if_pos counted, if_pos (by simpa using counted)]
    · rw [if_neg counted, if_neg (by simpa using counted), Nat.add_zero]
  constructor
  · intro reportable before later laterUpstream rest' split report reported
    rw [canReport_after recorded, ← moreCounted]
    apply reportable ((candidate, upstream) :: before) later laterUpstream rest'
    · rw [split, List.cons_append]
    · exact reported
  · intro reportable before later laterUpstream rest' split report reported
    cases before with
    | nil =>
        cases split
        rw [failed] at reported
        cases reported
        exact Provider.report_isSome_iff.mp (by rw [recorded]; rfl)
    | cons first before =>
        cases split
        rw [moreCounted, ← canReport_after recorded]
        exact reportable before later laterUpstream rest' rfl report reported

/-- The report of the last attempt is alone. -/
theorem reportable_singleton :
    Reportable reportOf circuits [(candidate, upstream)] ↔
      ∀ report, reportOf (candidate, upstream) = some report →
        (candidate.provider.report upstream.finishedAt report circuits).1.isSome = true := by
  constructor
  · intro reportable report reported
    exact Provider.report_isSome_iff.mpr (reportable.head reported)
  · intro returns before other otherUpstream rest' split report reported
    cases before with
    | nil =>
        cases split
        exact Provider.report_isSome_iff.mp (returns report reported)
    | cons first before => cases before <;> cases split

/-- While the cooldowns fit into the clock and no lock is poisoned, all reports can be made. -/
theorem reportable_of_room {attempts : List (Candidate × Upstream)}
    (room : ∀ attempt ∈ attempts,
      (circuits attempt.1.provider.id).poisoned = false ∧
        attempt.2.finishedAt + attempt.1.provider.cooldown ≤ clockMax) :
    Reportable reportOf circuits attempts := by
  rintro before candidate upstream rest rfl report - -
  obtain ⟨healthy, fits⟩ := room (candidate, upstream) (by simp)
  exact ⟨healthy, fun _ _ => fits⟩

end Reports

/-! ### The loop -/

section Loop

variable {α : Type} (call : Candidate → Upstream → Timed α)
  (settle : Candidate → Circuits → Option Unit × Circuits) (onSuccess : Option CircuitReport)
  (elapsed : ProxyError)

/-- The report that the loop makes of an attempt. -/
def loopReport (attempt : Candidate × Upstream) : Option CircuitReport :=
  attemptReport onSuccess elapsed (call attempt.1 attempt.2)

/-- How a success is settled: with a report of it, or with none. -/
def SettlesWith : Prop :=
  ∀ candidate now circuits, settle candidate circuits =
    match onSuccess with
    | some report => candidate.provider.report now report circuits
    | none => (some (), circuits)

/-- Whether an attempt is the last. -/
def endsLoop (attempt : Candidate × Upstream) : Bool := isFinal (call attempt.1 attempt.2)

variable {call settle onSuccess elapsed}

/-- The turn of the loop that is its last: the outcome is returned if its report returns. -/
theorem tryCandidates_final (settles : SettlesWith settle onSuccess) {candidate : Candidate}
    {upstream : Upstream} (final : isFinal (call candidate upstream) = true)
    (rest : List (Candidate × Upstream)) (errors : List ProxyError) (circuits : Circuits) :
    let routed := tryCandidates call settle elapsed ((candidate, upstream) :: rest) errors circuits
    routed.contacted = [candidate] ∧ routed.unexplained = false ∧
      (routed.result.isSome = true ↔ Reportable (loopReport call onSuccess elapsed) circuits
        [(candidate, upstream)]) ∧
      (routed.result.isSome = true →
        routed.result = some (settled elapsed (call candidate upstream))) := by
  rw [reportable_singleton]
  unfold tryCandidates loopReport
  cases outcome : call candidate upstream with
  | none =>
      dsimp only [attemptReport, settled]
      unfold Provider.report
      refine ⟨rfl, rfl, by simp, ?_⟩
      rcases candidate.provider.recordFailure upstream.finishedAt elapsed circuits with ⟨_ | _, after⟩
      · simp
      · simp
  | some returned =>
      cases returned with
      | ok value =>
          dsimp only [attemptReport, settled]
          rw [settles candidate upstream.finishedAt circuits]
          cases onSuccess with
          | none => simp
          | some report =>
              dsimp only
              refine ⟨rfl, rfl, by simp, ?_⟩
              rcases candidate.provider.report upstream.finishedAt report circuits with ⟨_ | _, after⟩
              · simp
              · simp
      | error error =>
          have ends : error.retryable = false := by
            rw [outcome] at final
            simpa [isFinal] using final
          dsimp only [attemptReport, settled]
          unfold Provider.report
          rcases recorded : candidate.provider.recordFailure upstream.finishedAt error circuits with
            ⟨_ | _, after⟩
          · simp [recorded]
          · simp [recorded, ends]

/-- The loop calls its first candidate, and another one only after a retryable error. -/
theorem tryCandidates_contacted (candidate : Candidate) (upstream : Upstream)
    (rest : List (Candidate × Upstream)) (errors : List ProxyError) (circuits : Circuits) :
    ∃ later, (tryCandidates call settle elapsed ((candidate, upstream) :: rest) errors
        circuits).contacted = candidate :: later ∧
      (later ≠ [] → ∃ error, call candidate upstream = some (.error error) ∧
        error.retryable = true) := by
  unfold tryCandidates
  cases outcome : call candidate upstream with
  | none => exact ⟨[], rfl, fun more => absurd rfl more⟩
  | some returned =>
      cases returned with
      | ok value => exact ⟨[], rfl, fun more => absurd rfl more⟩
      | error error =>
          dsimp only
          rcases candidate.provider.recordFailure upstream.finishedAt error circuits with
            ⟨_ | _, after⟩
          · exact ⟨[], rfl, fun more => absurd rfl more⟩
          · cases retryable : error.retryable with
            | false => exact ⟨[], rfl, fun more => absurd rfl more⟩
            | true => exact ⟨_, rfl, fun _ => ⟨error, rfl, retryable⟩⟩

/-- The loop returns exactly if the attempts up to the first final outcome can be reported. Then it has
met these, and returns the last. The induction is on the attempts that are left. -/
theorem tryCandidates_met (settles : SettlesWith settle onSuccess)
    (attempts : List (Candidate × Upstream)) (errors : List ProxyError) (circuits : Circuits) :
    let routed := tryCandidates call settle elapsed attempts errors circuits
    let met := untilFinal (endsLoop call) attempts
    (routed.result.isSome = true ↔
      Reportable (loopReport call onSuccess elapsed) circuits met) ∧
    (routed.result.isSome = true →
      routed.contacted = met.map Prod.fst ∧
      routed.result = some
        (match met.getLast? with
          | none => .error (errors.getLast?.getD noHealthyTarget)
          | some attempt => settled elapsed (call attempt.1 attempt.2))) ∧
    routed.unexplained = (attempts.isEmpty && errors.isEmpty) := by
  induction attempts generalizing errors circuits with
  | nil =>
      dsimp only [untilFinal]
      exact ⟨iff_of_true rfl reportable_nil, fun _ => ⟨rfl, rfl⟩, rfl⟩
  | cons attempt rest inductionHypothesis =>
      obtain ⟨candidate, upstream⟩ := attempt
      cases final : isFinal (call candidate upstream) with
      | true =>
          obtain ⟨contacted, unexplained, returns, result⟩ :=
            @tryCandidates_final _ _ _ _ elapsed settles _ _ final rest errors circuits
          have ends : endsLoop call (candidate, upstream) = true := final
          dsimp only
          rw [untilFinal_cons_of_final ends]
          exact ⟨returns, fun returned => ⟨contacted, result returned⟩, unexplained⟩
      | false =>
          obtain ⟨error, outcome, retryable⟩ := isFinal_eq_false.mp final
          have failed : loopReport call onSuccess elapsed (candidate, upstream) =
              some (.failure error) := by
            unfold loopReport
            rw [outcome]
            rfl
          have goesOn : endsLoop call (candidate, upstream) = false := final
          dsimp only
          rw [untilFinal_cons_of_not_final goesOn]
          unfold tryCandidates
          rw [outcome]
          dsimp only
          rcases recorded : candidate.provider.recordFailure upstream.finishedAt error circuits with
            ⟨_ | _, after⟩
          · refine ⟨iff_of_false (by simp) ?_, by simp, by simp⟩
            intro reportable
            have returned : (candidate.provider.recordFailure upstream.finishedAt error
                circuits).1.isSome = true :=
              Provider.report_isSome_iff.mpr (reportable.head failed)
            rw [recorded] at returned
            cases returned
          · obtain ⟨returns, result, unexplained⟩ := inductionHypothesis (errors ++ [error]) after
            dsimp only
            rw [if_neg (by simp [retryable]), reportable_cons_iff failed recorded]
            refine ⟨returns, ?_, by simp [unexplained]⟩
            intro returned
            obtain ⟨contacted, sameResult⟩ := result returned
            refine ⟨by rw [contacted, List.map_cons], ?_⟩
            dsimp only
            rw [sameResult]
            cases met : (untilFinal (endsLoop call) rest).getLast? with
            | none =>
                have nothing := List.getLast?_eq_none_iff.mp met
                simp [nothing, outcome, settled]
            | some last =>
                rw [List.getLast?_cons, met]
                rfl

variable (call)

/-- The candidates with what is at the other end of each. -/
def paired (upstreams : Nat → Upstream) (candidates : List Candidate) :
    List (Candidate × Upstream) :=
  candidates.zipIdx.map fun entry => (entry.1, upstreams entry.2)

theorem paired_fst (upstreams : Nat → Upstream) (candidates : List Candidate) :
    (paired upstreams candidates).map Prod.fst = candidates := by
  unfold paired
  rw [List.map_map]
  exact List.zipIdx_map_fst 0 candidates

/-- The attempts that are allowed are the first ones of all. -/
theorem attemptsOf_eq_take (maxAttempts : Nat) (upstreams : Nat → Upstream)
    (candidates : List Candidate) :
    attemptsOf maxAttempts upstreams candidates =
      (paired upstreams candidates).take maxAttempts := by
  unfold attemptsOf paired
  rw [← List.map_take]
  congr 1
  apply List.ext_getElem?
  intro index
  rw [List.getElem?_zipIdx, List.getElem?_take, List.getElem?_take, List.getElem?_zipIdx]
  split <;> rfl

theorem outcomesOf_eq_map (upstreams : Nat → Upstream) (candidates : List Candidate) :
    outcomesOf call upstreams candidates =
      (paired upstreams candidates).map fun attempt => call attempt.1 attempt.2 := by
  simp [outcomesOf, paired]

theorem outcomesOf_getElem? (upstreams : Nat → Upstream) (candidates : List Candidate)
    (index : Nat) :
    (outcomesOf call upstreams candidates)[index]? =
      (paired upstreams candidates)[index]?.map fun attempt => call attempt.1 attempt.2 := by
  rw [outcomesOf_eq_map, List.getElem?_map]

theorem paired_getElem? {upstreams : Nat → Upstream} {candidates : List Candidate} {index : Nat}
    {attempt : Candidate × Upstream}
    (held : (paired upstreams candidates)[index]? = some attempt) :
    candidates[index]? = some attempt.1 ∧ attempt.2 = upstreams index := by
  unfold paired at held
  rw [List.getElem?_map, List.getElem?_zipIdx] at held
  cases found : candidates[index]? with
  | none => simp [found] at held
  | some candidate =>
      simp only [found, Option.map_some, Nat.zero_add, Option.some.injEq] at held
      rw [← held]
      exact ⟨rfl, rfl⟩

/-- The attempts that the loop meets. -/
theorem met_eq_take (maxAttempts : Nat) (upstreams : Nat → Upstream) (candidates : List Candidate) :
    untilFinal (endsLoop call) (attemptsOf maxAttempts upstreams candidates) =
      (paired upstreams candidates).take
        (attemptCount maxAttempts (outcomesOf call upstreams candidates)) := by
  have sameIdx : (paired upstreams candidates).findIdx (endsLoop call) =
      (outcomesOf call upstreams candidates).findIdx isFinal := by
    rw [outcomesOf_eq_map, List.findIdx_map]
    rfl
  have sameLength : (outcomesOf call upstreams candidates).length =
      (paired upstreams candidates).length := by
    rw [outcomesOf_eq_map, List.length_map]
  unfold attemptCount
  rw [attemptsOf_eq_take, untilFinal_eq_take, List.findIdx_take, sameIdx, List.take_take,
    List.take_eq_take_iff, sameLength]
  omega

/-- The attempts that the discipline has the router make. -/
def attemptsMade {α : Type} (maxAttempts : Nat) (upstreams : Nat → Upstream)
    (candidates : List Candidate) (outcomes : List (Timed α)) : List (Candidate × Upstream) :=
  (paired upstreams candidates).take (attemptCount maxAttempts outcomes)

/-- A loop that keeps the discipline comes to a result. -/
theorem FallsBack.returned {maxAttempts : Nat} {candidates : List Candidate}
    {posts : Candidate → Except ProxyError HttpRequest} {upstreams : Nat → Upstream}
    {outcomes : List (Timed α)} {routed : Routed α}
    (fallsBack : FallsBack maxAttempts candidates posts upstreams outcomes elapsed routed) :
    routed.result.isSome = true := by
  obtain ⟨last, -, result⟩ := fallsBack.result
  rw [result]
  rfl

/-- A loop over candidates never ends without an error that an attempt gave. -/
theorem tryCandidates_explained (settles : SettlesWith settle onSuccess) {maxAttempts : Nat}
    (attemptsPos : 0 < maxAttempts) {candidates : List Candidate} (present : candidates ≠ [])
    (upstreams : Nat → Upstream) (circuits : Circuits) :
    (tryCandidates call settle elapsed (attemptsOf maxAttempts upstreams candidates) []
      circuits).unexplained = false := by
  have nonempty : attemptsOf maxAttempts upstreams candidates ≠ [] := by
    simpa [attemptsOf, Nat.pos_iff_ne_zero.mp attemptsPos] using present
  rw [(tryCandidates_met settles (attemptsOf maxAttempts upstreams candidates) [] circuits).2.2]
  simp [nonempty]

/-- The loop returns exactly if the attempts that it has to make can be reported. -/
theorem tryCandidates_returned_iff (settles : SettlesWith settle onSuccess) (maxAttempts : Nat)
    (upstreams : Nat → Upstream) (circuits : Circuits) (candidates : List Candidate) :
    (tryCandidates call settle elapsed (attemptsOf maxAttempts upstreams candidates) []
        circuits).result.isSome = true ↔
      Reportable (loopReport call onSuccess elapsed) circuits
        (attemptsMade maxAttempts upstreams candidates (outcomesOf call upstreams candidates)) := by
  unfold attemptsMade
  rw [← met_eq_take]
  exact (tryCandidates_met settles (attemptsOf maxAttempts upstreams candidates) [] circuits).1

/-- The loop keeps the discipline, for any list of candidates that is not empty, exactly if the attempts
that it has to make can be reported. -/
theorem tryCandidates_fallsBack_iff (settles : SettlesWith settle onSuccess) {maxAttempts : Nat}
    (attemptsPos : 0 < maxAttempts) {candidates : List Candidate} (present : candidates ≠ [])
    {posts : Candidate → Except ProxyError HttpRequest}
    (careful : ∀ candidate upstream error, call candidate upstream = some (.error error) →
      error.retryable = true → MayFallBack (posts candidate) upstream)
    (upstreams : Nat → Upstream) (circuits : Circuits) :
    FallsBack maxAttempts candidates posts upstreams (outcomesOf call upstreams candidates) elapsed
        (tryCandidates call settle elapsed (attemptsOf maxAttempts upstreams candidates) []
          circuits) ↔
      Reportable (loopReport call onSuccess elapsed) circuits
        (attemptsMade maxAttempts upstreams candidates (outcomesOf call upstreams candidates)) := by
  rw [← tryCandidates_returned_iff call settles maxAttempts upstreams circuits candidates]
  refine ⟨FallsBack.returned, fun returned => ?_⟩
  obtain ⟨contacted, result⟩ :=
    (tryCandidates_met settles (attemptsOf maxAttempts upstreams candidates) [] circuits).2.1 returned
  rw [met_eq_take] at contacted result
  have someOutcome : outcomesOf call upstreams candidates ≠ [] := by
    simpa [outcomesOf] using present
  have countPos := attemptCount_pos attemptsPos someOutcome
  constructor
  · rw [contacted, List.map_take, paired_fst]
  · obtain ⟨attempt, lastMet⟩ : ∃ attempt, (paired upstreams candidates)[
        attemptCount maxAttempts (outcomesOf call upstreams candidates) - 1]? = some attempt := by
      have fits := attemptCount_le_length maxAttempts (outcomesOf call upstreams candidates)
      rw [outcomesOf_eq_map, List.length_map, ← outcomesOf_eq_map] at fits
      exact ⟨_, List.getElem?_eq_getElem (by omega)⟩
    rw [List.getLast?_take, if_neg (by omega), lastMet] at result
    exact ⟨call attempt.1 attempt.2, by rw [outcomesOf_getElem?, lastMet]; rfl, result⟩
  · intro index early
    have beforeFinal := lt_findIdx_of_lt_attemptCount early
    have bound : index < (outcomesOf call upstreams candidates).length := by
      have fits := attemptCount_le_length maxAttempts (outcomesOf call upstreams candidates)
      omega
    have held := List.getElem?_eq_getElem bound
    obtain ⟨error, failed, retryable⟩ := isFinal_eq_false.mp (not_final_before beforeFinal held)
    rw [failed] at held
    obtain ⟨attempt, attemptEq, called⟩ : ∃ attempt,
        (paired upstreams candidates)[index]? = some attempt ∧
          call attempt.1 attempt.2 = some (.error error) := by
      rw [outcomesOf_getElem?] at held
      exact Option.map_eq_some_iff.mp held
    obtain ⟨candidateEq, other⟩ := paired_getElem? attemptEq
    rw [other] at called
    exact ⟨⟨error, held, retryable⟩, _, candidateEq, careful _ _ error called retryable⟩
  · exact countPos
  · exact tryCandidates_explained call settles attemptsPos present upstreams circuits

end Loop

/-! ### Errors that end the attempts -/

/-- An error that the proxy makes itself. -/
def IsNew (kind : ErrorKind) (error : ProxyError) : Prop := ∃ message, error = .new kind message

theorem IsNew.kind_eq {kind : ErrorKind} {error : ProxyError} (isNew : IsNew kind error) :
    error.kind = kind := by
  obtain ⟨message, rfl⟩ := isNew
  rfl

/-- Whatever is refused before a request is sent, or found wrong in a reply, is not retried. -/
theorem IsNew.not_retryable {kind : ErrorKind} {error : ProxyError} (isNew : IsNew kind error) :
    ¬ error.retryable = true := by
  obtain ⟨message, rfl⟩ := isNew
  simp

section Made

variable {kind : ErrorKind} {message : String}

theorem rejectIf_isNew {condition : Prop} [Decidable condition] :
    Fails (IsNew kind) (rejectIf condition (.new kind message)) := by
  unfold rejectIf
  split
  · exact .error ⟨message, rfl⟩
  · exact .ok ()

theorem orReject_isNew {α : Type} {found : Option α} :
    Fails (IsNew kind) (orReject found (.new kind message)) := by
  cases found with
  | none => exact .error ⟨message, rfl⟩
  | some value => exact .ok value

/-- The adaptation of one feature refuses it as an invalid request. -/
theorem fallback_isNew {α : Type} {lacking allowed : Prop} [Decidable lacking] [Decidable allowed]
    {adapted unchanged : α} :
    Fails (IsNew .invalidRequest) (fallback lacking allowed adapted message unchanged) := by
  unfold fallback
  split
  · split
    · exact .ok adapted
    · exact .error ⟨message, rfl⟩
  · exact .ok unchanged

variable {crates : Crates} {environment : Environment} {capabilities : CapabilityProfile}

/-- So does that of one block. -/
theorem adaptBlock_isNew (block : InputBlock) :
    Fails (IsNew .invalidRequest) (adaptBlock crates capabilities block) := by
  cases block with
  | text text => exact .ok _
  | image mediaType data => exact rejectIf_isNew.bind fun _ => .ok _
  | toolUse id name input => exact .ok _
  | toolResult toolUseId content isError => exact fallback_isNew

/-- So does the adaptation of a whole request. -/
theorem adaptRequest_isNew (request : NormalizedRequest) :
    Fails (IsNew .invalidRequest) (adaptRequest crates capabilities request) := by
  unfold adaptRequest
  apply Fails.bind fallback_isNew
  intro request
  apply Fails.bind fallback_isNew
  intro request
  apply Fails.bind fallback_isNew
  intro request
  apply Fails.bind fallback_isNew
  intro request
  apply Fails.bind rejectIf_isNew
  intro
  apply Fails.bind fallback_isNew
  intro request
  apply Fails.bind
  · apply Fails.mapM
    intro message
    exact (Fails.mapM adaptBlock_isNew message.blocks).bind fun _ => .ok _
  · intro messages
    exact .ok _

/-- So is a message refused that cannot be converted. -/
theorem convertMessage_isNew (message : NormalizedMessage) :
    Fails (IsNew .invalidRequest) (convertMessage crates message) := by
  have userParts : ∀ (parts : UserParts) (block : InputBlock),
      Fails (IsNew .invalidRequest) (parts.add block) := by
    intro parts block
    cases block with
    | text text => exact .ok _
    | image mediaType data => exact .ok _
    | toolUse id name input => exact .error ⟨_, rfl⟩
    | toolResult toolUseId content isError => exact orReject_isNew.bind fun _ => .ok _
  have assistantParts : ∀ (parts : AssistantParts) (block : InputBlock),
      Fails (IsNew .invalidRequest) (parts.add crates block) := by
    intro parts block
    cases block with
    | text text => exact .ok _
    | image mediaType data => exact .error ⟨_, rfl⟩
    | toolUse id name input => exact .ok _
    | toolResult toolUseId content isError => exact .error ⟨_, rfl⟩
  obtain ⟨role, blocks⟩ := message
  cases role with
  | system => exact (Fails.foldlM userParts blocks {}).bind fun _ => .ok _
  | user => exact (Fails.foldlM userParts blocks {}).bind fun _ => .ok _
  | assistant => exact (Fails.foldlM assistantParts blocks {}).bind fun _ => .ok _

/-- What a call cannot say to a provider is an invalid request. -/
theorem prepare_isNew (provider : Provider) (request : NormalizedRequest) (model : String)
    (stream : Bool) : Fails (IsNew .invalidRequest) (provider.prepare crates request model stream) := by
  apply (adaptRequest_isNew request).bind
  intro adapted
  apply Fails.bind
  · exact (Fails.mapM convertMessage_isNew adapted.messages).bind fun _ => .ok _
  · intro messages
    exact .ok _

/-- A secret that cannot be read is an internal error. -/
theorem httpRequest_isNew (provider : Provider) (body : Value) :
    Fails (IsNew .internal) (provider.httpRequest environment body) := by
  apply Fails.bind
  · apply Fails.bind
    · cases provider.credential.secret with
      | env name => exact orReject_isNew
      | file path =>
          unfold SecretRef.read
          dsimp only
          split
          · exact .ok _
          · exact .error ⟨_, rfl⟩
    · intro value
      exact rejectIf_isNew.bind fun _ => .ok _
  · intro secret
    exact .ok _

/-- A finish reason that nobody knows is a fault of the upstream. -/
theorem mapStopReason_isNew (reason : Option String) :
    Fails (IsNew .upstream) (mapStopReason reason) := by
  unfold mapStopReason
  split
  · exact .ok _
  · exact .ok _
  · exact .ok _
  · exact .ok _
  · exact .ok _
  · exact .ok _
  · exact .error ⟨_, rfl⟩

/-- So is anything else that is wrong with a reply. -/
theorem convertResponse_isNew (response : OpenAiResponse) (model : String) :
    Fails (IsNew .upstream) (convertResponse crates response model) := by
  unfold convertResponse
  split
  · exact .error ⟨_, rfl⟩
  · apply Fails.bind
    · apply Fails.mapM
      intro call
      unfold convertToolCall
      split
      · exact .ok _
      · exact .error ⟨_, rfl⟩
    · intro tools
      exact (mapStopReason_isNew _).bind fun _ => .ok _

end Made

/-! ### Errors after which another target may be tried -/

section Careful

variable {crates : Crates} {environment : Environment} {order : IterationOrder}

/-- A future fails in its first part or in its second. -/
theorem andThen_error {α β : Type} {first : Timed α} {next : α → Timed β} {error : ProxyError}
    (failed : first.andThen next = some (.error error)) :
    first = some (.error error) ∨ ∃ value, first = some (.ok value) ∧
      next value = some (.error error) := by
  cases first with
  | none => cases failed
  | some result =>
      cases result with
      | error other =>
          cases failed
          exact .inl rfl
      | ok value => exact .inr ⟨value, rfl, failed⟩

/-- A retryable error comes from an attempt that did not get through, or was turned away with one of
seven statuses. -/
theorem send_careful {provider : Provider} {body : Value} {upstream : Upstream} {error : ProxyError}
    (failed : provider.send crates environment body upstream = some (.error error))
    (retryable : error.retryable = true) :
    MayFallBack (provider.httpRequest environment body) upstream := by
  rcases andThen_error failed with unsent | ⟨request, posted, received⟩
  · have failedHere := Option.some.inj unsent
    exact absurd retryable (httpRequest_isNew provider body _ failedHere).not_retryable
  · refine ⟨request, Option.some.inj posted, ?_⟩
    cases replied : upstream.reply request with
    | none =>
        rw [replied] at received
        cases received
    | some reply =>
        rw [replied] at received
        cases reply with
        | broken transport =>
            refine .inl ⟨transport, rfl, ?_⟩
            have same := Except.error.inj (Option.some.inj received)
            unfold classifyTransport at same
            by_cases connect : transport.isConnect = true
            · exact connect
            · rw [if_neg connect] at same
              split at same
              · rw [← same] at retryable
                cases retryable
              · rw [← same] at retryable
                cases retryable
        | answered response =>
            refine .inr ⟨response, rfl, ?_⟩
            unfold receive at received
            dsimp only at received
            split at received
            · cases received
            · obtain ⟨text, -, same⟩ := Option.map_eq_some_iff.mp received
              rw [← Except.error.inj same] at retryable
              simpa [classifyStatus, ProxyError.retryable] using retryable

/-- What holds of the request to a provider holds of the request of a candidate. -/
theorem mayFallBack_of_prepared {candidate : Candidate} {stream : Bool} {upstream : Upstream}
    {body : Value}
    (prepared : candidate.provider.prepare crates candidate.request candidate.target.model stream =
      .ok body)
    (mayFallBack : MayFallBack (candidate.provider.httpRequest environment body) upstream) :
    MayFallBack (candidate.posts crates environment stream) upstream := by
  obtain ⟨sent, posted, replied⟩ := mayFallBack
  exact ⟨sent, Except.bind_eq_ok.mpr ⟨body, prepared, posted⟩, replied⟩

/-- A retryable error of `execute` leaves no reply behind: the connection failed, or the reply had
one of the seven statuses and was turned away unread. -/
theorem execute_careful (candidate : Candidate) (upstream : Upstream) (error : ProxyError)
    (failed : candidate.execute crates environment upstream = some (.error error))
    (retryable : error.retryable = true) :
    MayFallBack (candidate.posts crates environment false) upstream := by
  rcases andThen_error failed with unprepared | ⟨body, prepared, sent⟩
  · have failedHere := Option.some.inj unprepared
    exact absurd retryable (prepare_isNew _ _ _ _ _ failedHere).not_retryable
  · rcases andThen_error sent with unsent | ⟨response, -, read⟩
    · exact mayFallBack_of_prepared (Option.some.inj prepared) (send_careful unsent retryable)
    · obtain ⟨parsed, -, same⟩ := Option.map_eq_some_iff.mp read
      cases parsed with
      | error text =>
          rw [← Except.error.inj same] at retryable
          cases retryable
      | ok parsed =>
          exact absurd retryable (convertResponse_isNew parsed _ _ same).not_retryable

/-- So does one of `stream`. -/
theorem stream_careful (candidate : Candidate) (upstream : Upstream) (error : ProxyError)
    (failed : candidate.stream crates environment order upstream = some (.error error))
    (retryable : error.retryable = true) :
    MayFallBack (candidate.posts crates environment true) upstream := by
  rcases andThen_error failed with unprepared | ⟨body, prepared, sent⟩
  · have failedHere := Option.some.inj unprepared
    exact absurd retryable (prepare_isNew _ _ _ _ _ failedHere).not_retryable
  · rcases andThen_error sent with unsent | ⟨response, -, handed⟩
    · exact mayFallBack_of_prepared (Option.some.inj prepared) (send_careful unsent retryable)
    · cases handed

end Careful

/-! ### The router of a valid configuration -/

section Validated

variable {crates : Crates} {environment : Environment}

/-- What the validation asks of the targets: their providers exist, and their weights are positive. -/
theorem ValidConfig.target_checked (valid : ValidConfig crates environment) {route : RouteConfig}
    (isRoute : route ∈ valid.config.routes) {target : TargetConfig}
    (isTarget : target ∈ route.targets) :
    target.provider ∈ valid.config.providers.map (·.id) ∧ target.weight ≠ 0 := by
  obtain ⟨seen, next, checked⟩ := valid.checked.routes route isRoute
  unfold checkRoute at checked
  simp only [Except.bind_eq_ok] at checked
  obtain ⟨_, _, _, _, _, targetsOk, _⟩ := checked
  have known := Except.forM_eq_ok.mp targetsOk target isTarget
  have fits := rejectIf_eq_ok.mp known
  rw [not_or, not_not] at fits
  exact fits

/-- A route of a router has the targets of a configured one. -/
theorem Router.exists_config {config : AppConfig} {router : Router}
    (built : Router.new environment config = .ok router) {route : Route}
    (isRoute : route ∈ router.routes) :
    ∃ routeConfig ∈ config.routes, route.targets = routeConfig.targets := by
  unfold Router.new at built
  simp only [Except.bind_eq_ok] at built
  obtain ⟨providers, providersEq, routes, routesEq, same⟩ := built
  cases same
  obtain ⟨routeConfig, isConfig, compiled⟩ :=
    Except.exists_of_mem_right (Except.mapM_eq_ok.mp routesEq) isRoute
  refine ⟨routeConfig, isConfig, ?_⟩
  unfold Route.compile at compiled
  simp only [Except.bind_eq_ok] at compiled
  obtain ⟨_, _, _, _, same⟩ := compiled
  cases same
  rfl

/-- A router knows all configured providers. -/
theorem Router.lookup_configured {config : AppConfig} {router : Router}
    (built : Router.new environment config = .ok router) {id : String}
    (configured : id ∈ config.providers.map (·.id)) : (router.providers.lookup id).isSome = true := by
  unfold Router.new at built
  simp only [Except.bind_eq_ok] at built
  obtain ⟨providers, providersEq, routes, routesEq, same⟩ := built
  cases same
  obtain ⟨provider, isProvider, rfl⟩ := List.mem_map.mp configured
  obtain ⟨entry, isEntry, entryEq⟩ :=
    Except.exists_of_mem_left (Except.mapM_eq_ok.mp providersEq) isProvider
  obtain ⟨built, _, same⟩ := Except.bind_eq_ok.mp entryEq
  cases same
  rw [List.lookup_isSome_iff]
  exact ⟨(provider.id, built), List.mem_reverse.mpr isEntry, by simp⟩

/-- The router of a valid configuration knows the provider of every target. -/
theorem lookup_of_valid (valid : ValidConfig crates environment) {router : Router}
    (built : Router.new environment valid.config = .ok router) {route : Route}
    (isRoute : route ∈ router.routes) {target : TargetConfig} (isTarget : target ∈ route.targets) :
    (router.providers.lookup target.provider).isSome = true ∧ target.weight ≠ 0 := by
  obtain ⟨config, isConfig, targets⟩ := Router.exists_config built isRoute
  rw [targets] at isTarget
  obtain ⟨configured, weighted⟩ := valid.target_checked isConfig isTarget
  exact ⟨Router.lookup_configured built configured, weighted⟩

/-- The router of a valid configuration knows the providers of all targets. -/
theorem resolveTargets_of_valid (valid : ValidConfig crates environment) {router : Router}
    (built : Router.new environment valid.config = .ok router) {route : Route}
    (isRoute : route ∈ router.routes) :
    ∃ resolved, router.resolveTargets route = some resolved := by
  apply Except.exists_mapM_eq_some
  intro target isTarget
  obtain ⟨provider, found⟩ :=
    Option.isSome_iff_exists.mp (lookup_of_valid valid built isRoute isTarget).1
  exact ⟨(provider, target), by rw [found]; rfl⟩

/-- A valid configuration allows an attempt. -/
theorem maxAttempts_of_valid (valid : ValidConfig crates environment) {router : Router}
    (built : Router.new environment valid.config = .ok router) : 0 < router.maxAttempts := by
  unfold Router.new at built
  simp only [Except.bind_eq_ok] at built
  obtain ⟨_, _, _, _, same⟩ := built
  cases same
  exact valid.maxAttempts_pos

/-! ### The router -/

/-- What `stream` hands over, with the estimate of the tokens beside it. -/
def Routed.map {α β : Type} (view : α → β) (routed : Routed α) : Routed β where
  contacted := routed.contacted
  circuits := routed.circuits
  result := routed.result.map (Except.map view)
  unexplained := routed.unexplained

/-- An outcome with its value seen through a function. -/
def viewOutcome {α β : Type} (view : α → β) (outcome : Timed α) : Timed β :=
  outcome.map (Except.map view)

theorem isFinal_viewOutcome {α β : Type} (view : α → β) (outcome : Timed α) :
    isFinal (viewOutcome view outcome) = isFinal outcome := by
  cases outcome with
  | none => rfl
  | some result => cases result <;> rfl

/-- The discipline does not depend on what a success hands over. -/
theorem FallsBack.map {α β : Type} {maxAttempts : Nat} {candidates : List Candidate}
    {posts : Candidate → Except ProxyError HttpRequest} {upstreams : Nat → Upstream}
    {outcomes : List (Timed α)} {elapsed : ProxyError} {routed : Routed α}
    (fallsBack : FallsBack maxAttempts candidates posts upstreams outcomes elapsed routed)
    (view : α → β) :
    FallsBack maxAttempts candidates posts upstreams (outcomes.map (viewOutcome view)) elapsed
      (routed.map view) := by
  have sameCount : attemptCount maxAttempts (outcomes.map (viewOutcome view)) =
      attemptCount maxAttempts outcomes := by
    have sameFinal : (isFinal ∘ viewOutcome view : Timed α → Bool) = isFinal :=
      funext (isFinal_viewOutcome view)
    unfold attemptCount
    rw [List.findIdx_map, List.length_map, sameFinal]
  constructor
  · rw [sameCount]
    exact fallsBack.contacted
  · obtain ⟨last, lastEq, result⟩ := fallsBack.result
    refine ⟨viewOutcome view last, ?_, ?_⟩
    · rw [sameCount, List.getElem?_map, lastEq]
      rfl
    · unfold Routed.map
      dsimp only
      rw [result]
      cases last with
      | none => rfl
      | some outcome => rfl
  · rw [sameCount]
    intro index early
    obtain ⟨⟨error, outcome, retryable⟩, mayFallBack⟩ := fallsBack.cautious index early
    refine ⟨⟨error, ?_, retryable⟩, mayFallBack⟩
    rw [List.getElem?_map, outcome]
    rfl
  · rw [sameCount]
    exact fallsBack.positive
  · exact fallsBack.explained

section Discipline

variable (crates environment) (order : IterationOrder) (upstreams : Nat → Upstream)
  (candidates : List Candidate)

def executeOutcomes : List (Timed AnthropicResponse) :=
  outcomesOf (Candidate.execute crates environment) upstreams candidates

def streamOutcomes : List (Timed (Feed (Except ProxyError ProviderEvent))) :=
  outcomesOf (Candidate.stream crates environment order) upstreams candidates

/-- What `execute` reports of an attempt. -/
def executeReport : Candidate × Upstream → Option CircuitReport :=
  loopReport (Candidate.execute crates environment) (some .success) executeElapsed

/-- What `stream` reports of an attempt: nothing if it hands a stream over. -/
def openingReport : Candidate × Upstream → Option CircuitReport :=
  loopReport (Candidate.stream crates environment order) none streamElapsed

/-- `execute` reports its successes in the loop. -/
theorem executeSettles : SettlesWith Candidate.settle (some .success) := fun _ _ _ => rfl

/-- `stream` does not, since its attempts go on after the loop. -/
theorem openingSettles : SettlesWith (fun _ circuits => (some (), circuits)) none := fun _ _ _ => rfl

/-- The loop of `execute` keeps the discipline exactly if its reports can be made. -/
theorem executeCandidates_fallsBack_iff {maxAttempts : Nat} (attemptsPos : 0 < maxAttempts)
    (present : candidates ≠ []) (circuits : Circuits) :
    FallsBack maxAttempts candidates (Candidate.posts crates environment false) upstreams
        (executeOutcomes crates environment upstreams candidates) executeElapsed
        (executeCandidates crates environment maxAttempts upstreams circuits candidates) ↔
      Reportable (executeReport crates environment) circuits
        (attemptsMade maxAttempts upstreams candidates
          (executeOutcomes crates environment upstreams candidates)) :=
  tryCandidates_fallsBack_iff _ executeSettles attemptsPos present execute_careful upstreams
    circuits

/-- So does the loop of `stream`. -/
theorem streamCandidates_fallsBack_iff {maxAttempts : Nat} (attemptsPos : 0 < maxAttempts)
    (present : candidates ≠ []) (circuits : Circuits) :
    FallsBack maxAttempts candidates (Candidate.posts crates environment true) upstreams
        (streamOutcomes crates environment order upstreams candidates) streamElapsed
        (streamCandidates crates environment order maxAttempts upstreams circuits candidates) ↔
      Reportable (openingReport crates environment order) circuits
        (attemptsMade maxAttempts upstreams candidates
          (streamOutcomes crates environment order upstreams candidates)) :=
  tryCandidates_fallsBack_iff _ openingSettles attemptsPos present stream_careful upstreams
    circuits

end Discipline

section Calls

variable {order : IterationOrder} {router : Router} {draws : Nat → Nat} {clock : Nat → Instant}
  {upstreams : Nat → Upstream} {circuits circuits' : Circuits} {route : Route}
  {request : NormalizedRequest} {candidates : List Candidate} {error : ProxyError}

/-- A panic of `candidates` goes through `execute`. -/
theorem execute_broken
    (gathered : router.candidates crates draws clock circuits route request = (circuits', none)) :
    router.execute crates environment draws clock upstreams circuits route request =
      brokenOff circuits' := by
  unfold Router.execute
  rw [gathered]

/-- An error of `candidates` is returned by `execute`. -/
theorem execute_refused
    (gathered : router.candidates crates draws clock circuits route request =
      (circuits', some (.error error))) :
    router.execute crates environment draws clock upstreams circuits route request =
      refused circuits' error := by
  unfold Router.execute
  rw [gathered]

/-- The candidates are tried in the loop of `execute`. -/
theorem execute_called
    (gathered : router.candidates crates draws clock circuits route request =
      (circuits', some (.ok candidates))) :
    router.execute crates environment draws clock upstreams circuits route request =
      executeCandidates crates environment router.maxAttempts upstreams circuits' candidates := by
  unfold Router.execute
  rw [gathered]

/-- A panic of `candidates` goes through `stream` as well. -/
theorem stream_broken
    (gathered : router.candidates crates draws clock circuits route request = (circuits', none)) :
    router.stream crates environment order draws clock upstreams circuits route request =
      brokenOff circuits' := by
  unfold Router.stream
  rw [gathered]

theorem stream_refused
    (gathered : router.candidates crates draws clock circuits route request =
      (circuits', some (.error error))) :
    router.stream crates environment order draws clock upstreams circuits route request =
      refused circuits' error := by
  unfold Router.stream
  rw [gathered]

/-- Without an estimate of the tokens `stream` tries nobody. -/
theorem stream_unestimated
    (gathered : router.candidates crates draws clock circuits route request =
      (circuits', some (.ok candidates)))
    (estimate : estimateTokens crates environment candidates = .error error) :
    router.stream crates environment order draws clock upstreams circuits route request =
      refused circuits' error := by
  unfold Router.stream
  rw [gathered]
  dsimp only
  rw [estimate]

theorem stream_called
    (gathered : router.candidates crates draws clock circuits route request =
      (circuits', some (.ok candidates))) {tokens : Nat}
    (estimate : estimateTokens crates environment candidates = .ok tokens) :
    router.stream crates environment order draws clock upstreams circuits route request =
      (streamCandidates crates environment order router.maxAttempts upstreams circuits'
        candidates).map fun feed => (tokens, feed) := by
  unfold Router.stream
  rw [gathered]
  dsimp only
  rw [estimate]
  rfl

/-- No call of a router ends in the error that no attempt gave. -/
theorem execute_explained (attemptsPos : 0 < router.maxAttempts) :
    (router.execute crates environment draws clock upstreams circuits route
      request).unexplained = false := by
  rcases gathered : router.candidates crates draws clock circuits route request with
    ⟨circuits', _ | error | candidates⟩
  · rw [execute_broken gathered]
    rfl
  · rw [execute_refused gathered]
    rfl
  · rw [execute_called gathered]
    exact tryCandidates_explained _ executeSettles attemptsPos
      (candidates_ne_nil gathered) upstreams circuits'

/-- No error of `stream` is the one for a loop without any error. -/
theorem stream_explained (attemptsPos : 0 < router.maxAttempts) :
    (router.stream crates environment order draws clock upstreams circuits route
      request).unexplained = false := by
  rcases gathered : router.candidates crates draws clock circuits route request with
    ⟨circuits', _ | error | candidates⟩
  · rw [stream_broken gathered]
    rfl
  · rw [stream_refused gathered]
    rfl
  · cases estimate : estimateTokens crates environment candidates with
    | error error =>
        rw [stream_unestimated gathered estimate]
        rfl
    | ok tokens =>
        rw [stream_called gathered estimate]
        unfold Routed.map
        exact tryCandidates_explained _ openingSettles attemptsPos
          (candidates_ne_nil gathered) upstreams circuits'

end Calls

/-- The router of a valid configuration keeps the discipline of fallback exactly if the reports of the
attempts that it has to make can be made: over every list of candidates, and so over those that it
gathers for a request, in `execute` and, once the tokens are estimated, in `stream`. Neither ever
returns an error that no attempt gave. -/
theorem router_fallback_iff (order : IterationOrder) (valid : ValidConfig crates environment)
    {router : Router} (built : Router.new environment valid.config = .ok router) :
    (∀ candidates, candidates ≠ [] → ∀ upstreams circuits,
      (FallsBack router.maxAttempts candidates (Candidate.posts crates environment false) upstreams
          (executeOutcomes crates environment upstreams candidates) executeElapsed
          (executeCandidates crates environment router.maxAttempts upstreams circuits candidates) ↔
        Reportable (executeReport crates environment) circuits
          (attemptsMade router.maxAttempts upstreams candidates
            (executeOutcomes crates environment upstreams candidates))) ∧
      (FallsBack router.maxAttempts candidates (Candidate.posts crates environment true) upstreams
          (streamOutcomes crates environment order upstreams candidates) streamElapsed
          (streamCandidates crates environment order router.maxAttempts upstreams circuits
            candidates) ↔
        Reportable (openingReport crates environment order) circuits
          (attemptsMade router.maxAttempts upstreams candidates
            (streamOutcomes crates environment order upstreams candidates)))) ∧
    ∀ route ∈ router.routes, ∀ draws clock upstreams circuits request,
      let executed :=
        router.execute crates environment draws clock upstreams circuits route request
      let streamed :=
        router.stream crates environment order draws clock upstreams circuits route request
      executed.unexplained = false ∧ streamed.unexplained = false ∧
      ∀ circuits' candidates,
        router.candidates crates draws clock circuits route request =
          (circuits', some (.ok candidates)) →
        (FallsBack router.maxAttempts candidates (Candidate.posts crates environment false) upstreams
            (executeOutcomes crates environment upstreams candidates) executeElapsed executed ↔
          Reportable (executeReport crates environment) circuits'
            (attemptsMade router.maxAttempts upstreams candidates
              (executeOutcomes crates environment upstreams candidates))) ∧
        ∀ tokens, estimateTokens crates environment candidates = .ok tokens →
          (FallsBack router.maxAttempts candidates (Candidate.posts crates environment true) upstreams
              ((streamOutcomes crates environment order upstreams candidates).map
                (viewOutcome fun feed => (tokens, feed))) streamElapsed streamed ↔
            Reportable (openingReport crates environment order) circuits'
              (attemptsMade router.maxAttempts upstreams candidates
                (streamOutcomes crates environment order upstreams candidates))) := by
  have attemptsPos := maxAttempts_of_valid valid built
  constructor
  · intro candidates present upstreams circuits
    constructor
    · apply executeCandidates_fallsBack_iff
      · exact attemptsPos
      · exact present
    · apply streamCandidates_fallsBack_iff
      · exact attemptsPos
      · exact present
  · intro route _ draws clock upstreams circuits request
    refine ⟨execute_explained attemptsPos, stream_explained attemptsPos, ?_⟩
    intro circuits' candidates gathered
    have present := candidates_ne_nil gathered
    constructor
    · rw [execute_called gathered]
      exact executeCandidates_fallsBack_iff crates environment upstreams candidates attemptsPos present
        circuits'
    · intro tokens estimate
      rw [stream_called gathered estimate]
      have streamed := streamCandidates_fallsBack_iff crates environment order upstreams candidates
        attemptsPos present circuits'
      constructor
      · intro fallsBack
        have returned := fallsBack.returned
        unfold Routed.map at returned
        rw [Option.isSome_map] at returned
        exact (tryCandidates_returned_iff _ openingSettles _ _ _ _).mp returned
      · intro reportable
        exact (streamed.mpr reportable).map fun feed => (tokens, feed)

end Validated

/-! ### Sample -/

/-- The one URL of the sample is well formed. -/
def officeCrates : Crates where
  fromStr _ := .error "no JSON"
  toJson _ := ""
  base64Decode _ := none
  urlParse _ := .ok { scheme := "https", username := "", password := none }

def officeEnvironment : Environment where
  envVar _ := some "a secret of thirty-two characters"
  readFile _ := .error "no file"
  isHeaderName _ := true
  isHeaderValue _ := true
  displayStatus _ := "503 Service Unavailable"
  buildClient _ := .ok ()
  parseGlob _ := .ok ()
  globSet _ := .ok fun _ => true
  tokenizer _ := .ok String.length

def officeConfig : AppConfig where
  clients := [{ id := "c", key := .env "KEY" }]
  providers := [
    { id := "p", kind := .openaiChat, endpoint := "https://p", credential := .bearer (.env "KEY") }]
  routes := [{ id := "r", models := ["*"], targets := [{ provider := "p", model := "m" }] }]

def officeProvider : Provider where
  id := "p"
  kind := .openaiChat
  endpoint := "https://p"
  credential := .bearer (.env "KEY")
  capabilities := {}
  headers := []
  failureThreshold := 5
  cooldown := 30 * nanosecondsPerSecond

def officeRouter : Router where
  routes := [
    { id := "r", isMatch := fun _ => true, targets := [{ provider := "p", model := "m" }] }]
  providers := [("p", officeProvider)]
  maxAttempts := 2

def officeCandidate : Candidate where
  provider := officeProvider
  target := { provider := "p", model := "m" }
  request :=
    { originalModel := "m", maxTokens := 1, messages := [], temperature := none, topP := none,
      stopSequences := [], tools := [], toolChoice := none, stream := false }

/-- The first answer is that the server is overloaded; then nothing comes in time. -/
def officeUpstreams : Nat → Upstream
  | 0 =>
      { reply := fun _ => some (.answered
          { status := 503, text := some "overloaded", json := none, chunks := ⟨[], .closed⟩ })
        finishedAt := 0 }
  | _ => { reply := fun _ => none, finishedAt := 1 }

/-- With the sample's cooldown of half a minute both reports can be made. -/
theorem router_fallback_office :
    FallsBack officeRouter.maxAttempts [officeCandidate, officeCandidate, officeCandidate]
      (Candidate.posts officeCrates officeEnvironment false) officeUpstreams
      (executeOutcomes officeCrates officeEnvironment officeUpstreams
        [officeCandidate, officeCandidate, officeCandidate]) executeElapsed
      (executeCandidates officeCrates officeEnvironment officeRouter.maxAttempts officeUpstreams
        (.fresh {}) [officeCandidate, officeCandidate, officeCandidate]) := by
  have discipline := @router_fallback_iff officeCrates officeEnvironment ⟨id, fun _ => .rfl⟩
    ⟨officeConfig, rfl⟩ officeRouter rfl
  refine (discipline.1 _ (by simp) officeUpstreams (.fresh {})).1.mpr (reportable_of_room ?_)
  have made : attemptsMade officeRouter.maxAttempts officeUpstreams
      [officeCandidate, officeCandidate, officeCandidate]
      (executeOutcomes officeCrates officeEnvironment officeUpstreams
        [officeCandidate, officeCandidate, officeCandidate]) =
      [(officeCandidate, officeUpstreams 0), (officeCandidate, officeUpstreams 1)] := rfl
  rw [made]
  intro attempt isAttempt
  rcases List.mem_pair.mp isAttempt with rfl | rfl
  · decide
  · decide

/-- A circuit that opens at the first failure, for longer than the clock lasts. -/
def eternalConfig : AppConfig :=
  { officeConfig with
    limits := { circuitFailureThreshold := 1, circuitCooldownSeconds := 2 ^ 64 - 1 } }

def eternalProvider : Provider :=
  { officeProvider with
    failureThreshold := 1, cooldown := (2 ^ 64 - 1) * nanosecondsPerSecond }

def eternalRouter : Router := { officeRouter with providers := [("p", eternalProvider)] }

def eternalCandidate : Candidate := { officeCandidate with provider := eternalProvider }

/-- The configuration is valid. But the first answer, that the server is overloaded, cannot be recorded,
and the second candidate is never called. -/
theorem fallback_breaks_off :
    (∃ valid : ValidConfig officeCrates officeEnvironment, valid.config = eternalConfig ∧
      Router.new officeEnvironment valid.config = .ok eternalRouter) ∧
    (executeCandidates officeCrates officeEnvironment eternalRouter.maxAttempts officeUpstreams
      (.fresh {}) [eternalCandidate, eternalCandidate]).result = none ∧
    ¬ FallsBack eternalRouter.maxAttempts [eternalCandidate, eternalCandidate]
      (Candidate.posts officeCrates officeEnvironment false) officeUpstreams
      (executeOutcomes officeCrates officeEnvironment officeUpstreams
        [eternalCandidate, eternalCandidate]) executeElapsed
      (executeCandidates officeCrates officeEnvironment eternalRouter.maxAttempts officeUpstreams
        (.fresh {}) [eternalCandidate, eternalCandidate]) := by
  have broken : (executeCandidates officeCrates officeEnvironment eternalRouter.maxAttempts
      officeUpstreams (.fresh {}) [eternalCandidate, eternalCandidate]).result = none := rfl
  refine ⟨⟨⟨eternalConfig, rfl⟩, rfl, rfl⟩, broken, ?_⟩
  intro fallsBack
  have returned := fallsBack.returned
  rw [broken] at returned
  cases returned

end ClaudeProxy
