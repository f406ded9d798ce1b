/-
Module: ClaudeProxy.Proofs.Accounting
Layer: Proofs
Purpose: How attempts at providers are accounted to their circuits. The router reports every attempt
  that its loop sees the end of, and the stream it hands out reports its own end; but nobody reports a
  stream that the response body gives up as idle. And a report is lost on a poisoned lock, or when the
  count of failures wraps around. So the accounts are complete in exactly those runs in which none of
  this happens.
Trusted boundary: none
Main exports: AttemptEnding.due, EndedAttempt.Accounted, Accounted, Idles, endedBy, CanTally,
  accounted_iff, executing_alone
-/
import ClaudeProxy.Library.Run
import ClaudeProxy.Proofs.Fallback
import ClaudeProxy.Server.Traffic

namespace ClaudeProxy

open Library

/-! ### What accounting means -/

/-- The report that an ending calls for. -/
def AttemptEnding.due : AttemptEnding → CircuitReport
  | .succeeded => .success
  | .failed error => .failure error

/-- What an attempt has to leave on the circuit of its provider. -/
structure EndedAttempt.Accounted (attempt : EndedAttempt) : Prop where
  counted : ∀ error, attempt.ending = .failed error →
    error.kind ∈ [ErrorKind.upstream, .timeout, .overloaded] →
      attempt.after.value.failures = attempt.before.value.failures + 1
  succeeded : attempt.ending = .succeeded →
    attempt.after = { value := { failures := 0, openUntil := none } }
  unchanged : ∀ error, attempt.ending = .failed error →
    error.kind ∈ [ErrorKind.invalidRequest, .rateLimit] → attempt.after = attempt.before

/-- The count that a provider comes to by the endings of its attempts. -/
def failureCount (endings : List AttemptEnding) : Nat :=
  endings.foldl
    (fun count ending =>
      match ending with
      | .succeeded => 0
      | .failed error => if countsAsFailure error = true then count + 1 else count) 0

def Traffic.endingsAt (traffic : Traffic) (provider : String) : List AttemptEnding :=
  (traffic.ended.filter fun attempt => attempt.provider = provider).map (·.ending)

/-- Every attempt that is over has been reported once and has had its effect, and no provider's count
has any other source. -/
structure Accounted (traffic : Traffic) : Prop where
  reports : traffic.reports =
    traffic.ended.map fun attempt => (attempt.provider, attempt.ending.due)
  attempts : ∀ attempt ∈ traffic.ended, attempt.Accounted
  failures : ∀ provider,
    (traffic.circuits provider).value.failures = failureCount (traffic.endingsAt provider)

/-- The events end neither with an error nor of themselves. -/
def goesSilent (events : Feed (Except ProxyError ProviderEvent)) : Prop :=
  events.tail = .pending ∧ ∀ item ∈ events.items, ∃ event, item = .ok event

/-- The move is the end of a response body whose stream has gone idle. -/
def Idles (traffic : Traffic) (move : TrafficMove) : Prop :=
  ∃ index now candidate events, move = .finish index now ∧
    traffic.active[index]? = some (.reading candidate events) ∧ goesSilent events

/-- The report that an ending calls for finds a healthy lock, if it takes one, and the count has room
for the failure, if it is one. -/
def AttemptEnding.CanCount (ending : AttemptEnding) (circuit : Mutex CircuitState) : Prop :=
  ending.due.locks = true →
    circuit.poisoned = false ∧ (ending.due.counts = true → circuit.value.failures + 1 < 2 ^ 32)

/-! ### Reports -/

section Reports

variable {provider : Provider} {now : Instant} {error : ProxyError}

theorem countsAsFailure_iff :
    countsAsFailure error = true ↔
      error.kind ∈ [ErrorKind.upstream, .timeout, .overloaded] := by
  simp [countsAsFailure]

/-- What does not count leaves no trace. -/
theorem record_ignored {traffic : Traffic} (ignored : countsAsFailure error = false) :
    (traffic.record provider now (.failure error)).2.circuits = traffic.circuits :=
  congrArg Prod.snd (@Provider.report_unlocked _ _ (.failure error) _ ignored)

/-- A failure that counts. -/
theorem record_counted_failures {traffic : Traffic} (counted : countsAsFailure error = true)
    (healthy : (traffic.circuits provider.id).poisoned = false) :
    ((traffic.record provider now (.failure error)).2.circuits provider.id).value.failures =
      ((traffic.circuits provider.id).value.failures + 1) % 2 ^ 32 := by
  have after := @Provider.report_counted _ now _ _ counted healthy
  exact (congrArg (fun circuit : Mutex CircuitState => circuit.value.failures) after).trans
    (failureSection_failures _ _ _ _)

/-- The report that is due has its effect exactly if it can be counted. -/
theorem accounted_of_due_iff (traffic : Traffic) (ending : AttemptEnding) :
    EndedAttempt.Accounted
        { provider := provider.id, ending := ending
          before := traffic.circuits provider.id
          after := (traffic.record provider now ending.due).2.circuits provider.id } ↔
      ending.CanCount (traffic.circuits provider.id) := by
  cases ending with
  | succeeded =>
      dsimp only [AttemptEnding.due]
      cases locked : (traffic.circuits provider.id).poisoned with
      | true =>
          have stuck := (@Provider.report_poisoned _ now .success _ rfl locked).2
          apply iff_of_false
          · intro accounted
            have fresh := accounted.succeeded rfl
            have same : traffic.circuits provider.id = _ := stuck.symm.trans fresh
            rw [same] at locked
            cases locked
          · intro canCount
            rw [(canCount rfl).1] at locked
            cases locked
      | false =>
          apply iff_of_true
          · constructor
            · intro error isFailed
              cases isFailed
            · intro _
              exact @Provider.report_success _ now _ locked
            · intro error isFailed
              cases isFailed
          · intro _
            exact ⟨locked, fun counts => by cases counts⟩
  | failed error =>
      dsimp only [AttemptEnding.due]
      cases counted : countsAsFailure error with
      | false =>
          apply iff_of_true
          · constructor
            · intro other isFailed kind
              cases isFailed
              rw [← countsAsFailure_iff, counted] at kind
              cases kind
            · intro isSucceeded
              cases isSucceeded
            · intro _ _ _
              exact congrFun (record_ignored counted) provider.id
          · intro locks
            have unlocked : countsAsFailure error = true := locks
            rw [counted] at unlocked
            cases unlocked
      | true =>
          have kind := countsAsFailure_iff.mp counted
          have countsHere : (CircuitReport.failure error).counts = true := counted
          unfold AttemptEnding.CanCount
          dsimp only [AttemptEnding.due]
          rw [forall_prop_of_true (p := (CircuitReport.failure error).locks = true) counted,
            forall_prop_of_true countsHere]
          cases locked : (traffic.circuits provider.id).poisoned with
          | true =>
              have stuck := (@Provider.report_poisoned _ now (.failure error) _ counted locked).2
              apply iff_of_false
              · intro accounted
                have oneMore := accounted.counted error rfl kind
                have same : ((traffic.record provider now (.failure error)).2.circuits
                  provider.id) = traffic.circuits provider.id := stuck
                dsimp only at oneMore
                rw [same] at oneMore
                exact absurd oneMore (Nat.succ_ne_self _).symm
              · rintro ⟨healthy, -⟩
                cases healthy
          | false =>
              have failures := @record_counted_failures _ now _ _ counted locked
              constructor
              · intro accounted
                have oneMore := accounted.counted error rfl kind
                dsimp only at oneMore
                rw [failures] at oneMore
                refine ⟨rfl, ?_⟩
                rw [← oneMore]
                exact Nat.mod_lt _ (by decide)
              · rintro ⟨-, room⟩
                constructor
                · intro other isFailed _
                  cases isFailed
                  dsimp only
                  rw [failures, Nat.mod_eq_of_lt room]
                · intro isSucceeded
                  cases isSucceeded
                · intro other isFailed otherKind
                  cases isFailed
                  revert kind otherKind
                  cases error.kind <;> simp

/-- An attempt that ends with an idle stream and no report is not accounted for. -/
theorem not_accounted_of_idle (provider : String) (circuit : Mutex CircuitState) :
    ¬ EndedAttempt.Accounted
      { provider := provider, ending := .failed idleTimeout, before := circuit, after := circuit } := by
  intro accounted
  have oneMore := accounted.counted idleTimeout rfl (by decide)
  exact absurd oneMore (Nat.succ_ne_self _).symm

end Reports

/-! ### The end of a stream -/

theorem goesSilent_cons_ok {event : ProviderEvent}
    {rest : List (Except ProxyError ProviderEvent)} {tail : Tail} :
    goesSilent ⟨.ok event :: rest, tail⟩ ↔ goesSilent ⟨rest, tail⟩ := by
  simp [goesSilent]

/-- The wrapped stream reports the end that the events come to, unless that is no end. -/
theorem report_of_not_silent {items : List (Except ProxyError ProviderEvent)} {tail : Tail}
    (audible : ¬ goesSilent ⟨items, tail⟩) :
    streamReport items tail = some (streamEnding items tail).due := by
  induction items with
  | nil =>
      cases tail with
      | closed => rfl
      | pending =>
          apply absurd _ audible
          simp [goesSilent]
  | cons item rest inductionHypothesis =>
      cases item with
      | error error => rfl
      | ok event => exact inductionHypothesis fun silent => audible (goesSilent_cons_ok.mpr silent)

/-- Of a silent stream nothing is reported, and its reader gives it up as idle. -/
theorem report_of_silent {items : List (Except ProxyError ProviderEvent)} {tail : Tail}
    (silent : goesSilent ⟨items, tail⟩) :
    streamReport items tail = none ∧ streamEnding items tail = .failed idleTimeout := by
  induction items with
  | nil =>
      obtain ⟨isPending, _⟩ := silent
      obtain rfl : tail = .pending := isPending
      exact ⟨rfl, rfl⟩
  | cons item rest inductionHypothesis =>
      obtain ⟨event, rfl⟩ := silent.2 item List.mem_cons_self
      exact inductionHypothesis (goesSilent_cons_ok.mp silent)

/-! ### What a step can do -/

section Steps

variable {crates : Crates} {environment : Environment} {order : IterationOrder} {router : Router}
  {traffic : Traffic}

/-- A look at a target leaves every count as it is. -/
theorem Gathering.add_failures (crates : Crates) (request : NormalizedRequest) (now : Instant)
    (gathering : Gathering) (entry : Provider × TargetConfig) (provider : String) :
    ((gathering.add crates request now entry).circuits provider).value.failures =
      (gathering.circuits provider).value.failures := by
  cases running : gathering.panicked with
  | true => rw [add_panicked running]
  | false =>
      cases adaptedEq : adaptRequest crates entry.1.capabilities request with
      | error error => rw [(add_rejected adaptedEq).1]
      | ok adapted =>
          cases locked : (gathering.circuits entry.1.id).poisoned with
          | true =>
              unfold Gathering.add
              rw [if_neg (by simp [running]), adaptedEq]
              dsimp only
              rw [Provider.available_of_poisoned locked]
          | false =>
              rw [add_accepted running locked adaptedEq]
              dsimp only
              by_cases here : provider = entry.1.id
              · rw [here, Function.update_self]
                exact available_failures _ now
              · rw [Function.update_of_ne here]

/-- So does the look for candidates. -/
theorem candidates_failures (draws : Nat → Nat) (clock : Nat → Instant) (circuits : Circuits)
    (route : Route) (request : NormalizedRequest) (provider : String) :
    ((router.candidates crates draws clock circuits route request).1 provider).value.failures =
      (circuits provider).value.failures := by
  unfold Router.candidates
  cases router.resolveTargets route with
  | none => rfl
  | some resolved =>
      apply foldl_invariant fun gathering : Gathering =>
        (gathering.circuits provider).value.failures = (circuits provider).value.failures
      · intro gathering entry same
        exact (gathering.add_failures crates request (clock entry.2) entry.1 provider).trans same
      · rfl

variable (crates environment order)

/-- The attempt that a turn brings to its end, and how it ends. -/
def endedBy (traffic : Traffic) : TrafficMove → Option (Provider × AttemptEnding)
  | .arrive .. => none
  | .attempt index upstream =>
      match traffic.active[index]? with
      | some (.executing (candidate :: _)) =>
          match candidate.turn (Candidate.execute crates environment) executeElapsed upstream with
          | .won _ => some (candidate.provider, .succeeded)
          | .lost error _ => some (candidate.provider, .failed error)
      | some (.opening (candidate :: _)) =>
          match candidate.turn (Candidate.stream crates environment order) streamElapsed upstream with
          | .won _ => none
          | .lost error _ => some (candidate.provider, .failed error)
      | _ => none
  | .finish index _ =>
      match traffic.active[index]? with
      | some (.reading candidate events) =>
          some (candidate.provider, streamEnding events.items events.tail)
      | _ => none
  | .disconnect _ => none

/-- The turn lets no idle stream go, and the attempt that it ends, if any, can be counted. -/
structure CanTally (traffic : Traffic) (move : TrafficMove) : Prop where
  audible : ¬ Idles traffic move
  counts : ∀ provider ending, endedBy crates environment order traffic move = some (provider, ending) →
    ending.CanCount (traffic.circuits provider.id)

variable {crates environment order}

/-- Nothing is recorded, and no count changes. -/
structure Quiet (before after : Traffic) : Prop where
  ended : after.ended = before.ended
  reports : after.reports = before.reports
  failures : ∀ provider,
    (after.circuits provider).value.failures = (before.circuits provider).value.failures

theorem Quiet.of_circuits {after : Traffic} (ended : after.ended = traffic.ended)
    (reports : after.reports = traffic.reports) (circuits : after.circuits = traffic.circuits) :
    Quiet traffic after := by
  constructor
  · exact ended
  · exact reports
  · intro provider
    rw [circuits]

/-- A step ends no attempt and records nothing, settles an attempt with the report that is due, or lets
an idle stream go without one. -/
inductive Stepped (before after : Traffic) (idle : Prop) :
    Option (Provider × AttemptEnding) → Prop where
  | quiet (nothing : Quiet before after) (busy : ¬ idle) : Stepped before after idle none
  | settled (provider : Provider) (now : Instant) (ending : AttemptEnding) (active : List Progress)
      (result : after =
        { (before.settle provider now ending (some ending.due)).2 with active := active })
      (busy : ¬ idle) : Stepped before after idle (some (provider, ending))
  | abandoned (provider : Provider) (now : Instant) (active : List Progress)
      (result : after =
        { (before.settle provider now (.failed idleTimeout) none).2 with active := active })
      (silent : idle) : Stepped before after idle (some (provider, .failed idleTimeout))

theorem not_idles_of_ne_finish {move : TrafficMove} (other : ∀ index now, move ≠ .finish index now) :
    ¬ Idles traffic move := by
  rintro ⟨index, now, candidate, events, isFinish, -⟩
  exact other index now isFinish

theorem arrive_quiet (stream : Bool) (route : Route) (request : NormalizedRequest)
    (draws : Nat → Nat) (clock : Nat → Instant) :
    Quiet traffic
      (traffic.arrive crates environment router stream route request draws clock) := by
  have counts := @candidates_failures crates router draws clock traffic.circuits route request
  unfold Traffic.arrive
  rcases gathered : router.candidates crates draws clock traffic.circuits route request with
    ⟨circuits, _ | error | candidates⟩
  · rw [gathered] at counts
    exact ⟨rfl, rfl, counts⟩
  · rw [gathered] at counts
    exact ⟨rfl, rfl, counts⟩
  · rw [gathered] at counts
    dsimp only
    split
    · split
      · exact ⟨rfl, rfl, counts⟩
      · exact ⟨rfl, rfl, counts⟩
    · exact ⟨rfl, rfl, counts⟩

/-- After an error only the requests in progress are others. -/
theorem afterError_eq (index : Nat) (goesOn : Bool) (next : Progress)
    (outcome : Option Unit × Traffic) :
    ∃ active, Traffic.afterError index goesOn next outcome = { outcome.2 with active := active } := by
  rcases outcome with ⟨_ | _, settled⟩
  · exact ⟨_, rfl⟩
  · cases goesOn
    · exact ⟨_, rfl⟩
    · exact ⟨_, rfl⟩

theorem attempt_stepped (index : Nat) (upstream : Upstream) (idle : Prop) (busy : ¬ idle) :
    Stepped traffic (traffic.attempt crates environment order index upstream) idle
      (endedBy crates environment order traffic (.attempt index upstream)) := by
  unfold Traffic.attempt endedBy
  dsimp only
  cases traffic.active[index]? with
  | none => exact .quiet (.of_circuits rfl rfl rfl) busy
  | some progress =>
      cases progress with
      | reading candidate events => exact .quiet (.of_circuits rfl rfl rfl) busy
      | executing left =>
          cases left with
          | nil => exact .quiet (.of_circuits rfl rfl rfl) busy
          | cons candidate rest =>
              dsimp only
              cases candidate.turn (Candidate.execute crates environment) executeElapsed upstream with
              | won value => exact .settled _ _ .succeeded _ rfl busy
              | lost error goesOn =>
                  obtain ⟨active, result⟩ := afterError_eq index goesOn (.executing rest)
                    (traffic.settle candidate.provider upstream.finishedAt (.failed error)
                      (some (.failure error)))
                  exact .settled _ _ (.failed error) active result busy
      | opening left =>
          cases left with
          | nil => exact .quiet (.of_circuits rfl rfl rfl) busy
          | cons candidate rest =>
              dsimp only
              cases candidate.turn (Candidate.stream crates environment order) streamElapsed
                  upstream with
              | won events => exact .quiet (.of_circuits rfl rfl rfl) busy
              | lost error goesOn =>
                  obtain ⟨active, result⟩ := afterError_eq index goesOn (.opening rest)
                    (traffic.settle candidate.provider upstream.finishedAt (.failed error)
                      (some (.failure error)))
                  exact .settled _ _ (.failed error) active result busy

theorem finish_stepped (index : Nat) (now : Instant) :
    Stepped traffic (traffic.finish index now) (Idles traffic (.finish index now))
      (endedBy crates environment order traffic (.finish index now)) := by
  unfold Traffic.finish endedBy
  dsimp only
  cases found : traffic.active[index]? with
  | none =>
      apply Stepped.quiet (.of_circuits rfl rfl rfl)
      rintro ⟨_, _, candidate, events, same, foundAgain, -⟩
      cases same
      rw [found] at foundAgain
      cases foundAgain
  | some progress =>
      cases progress with
      | reading candidate events =>
          have report := (forwardEvents_circuits candidate.provider now traffic.circuits events.items
            events.tail).1
          dsimp only
          rw [report]
          by_cases silent : goesSilent events
          · obtain ⟨noReport, ending⟩ := report_of_silent silent
            rw [noReport, ending]
            exact .abandoned candidate.provider now (traffic.active.eraseIdx index) rfl
              ⟨index, now, candidate, events, rfl, found, silent⟩
          · rw [report_of_not_silent silent]
            apply Stepped.settled candidate.provider now _ (traffic.active.eraseIdx index) rfl
            rintro ⟨_, _, _, _, same, foundAgain, isSilent⟩
            cases same
            rw [found] at foundAgain
            cases foundAgain
            exact silent isSilent
      | executing left =>
          apply Stepped.quiet (.of_circuits rfl rfl rfl)
          rintro ⟨_, _, candidate, events, same, foundAgain, -⟩
          cases same
          rw [found] at foundAgain
          cases foundAgain
      | opening left =>
          apply Stepped.quiet (.of_circuits rfl rfl rfl)
          rintro ⟨_, _, candidate, events, same, foundAgain, -⟩
          cases same
          rw [found] at foundAgain
          cases foundAgain

theorem step_stepped (crates : Crates) (environment : Environment) (order : IterationOrder)
    (router : Router) (traffic : Traffic) (move : TrafficMove) :
    Stepped traffic (traffic.step crates environment order router move) (Idles traffic move)
      (endedBy crates environment order traffic move) := by
  cases move with
  | arrive stream route request draws clock =>
      apply Stepped.quiet (arrive_quiet stream route request draws clock)
      exact not_idles_of_ne_finish fun _ _ isFinish => by cases isFinish
  | attempt index upstream =>
      apply attempt_stepped index upstream
      exact not_idles_of_ne_finish fun _ _ isFinish => by cases isFinish
  | finish index now => exact finish_stepped index now
  | disconnect index =>
      refine Stepped.quiet (.of_circuits rfl rfl rfl) ?_
      exact not_idles_of_ne_finish fun _ _ isFinish => by cases isFinish

end Steps

/-! ### Alone, the loop is that of the router -/

section Alone

variable {crates : Crates} {environment : Environment} {order : IterationOrder} {router : Router}

theorem tryCandidates_cons {α : Type} (call : Candidate → Upstream → Timed α)
    (settle : Candidate → Circuits → Option Unit × Circuits) (elapsed : ProxyError)
    (candidate : Candidate) (upstream : Upstream) (rest : List (Candidate × Upstream))
    (errors : List ProxyError) (circuits : Circuits) :
    (tryCandidates call settle elapsed ((candidate, upstream) :: rest) errors circuits).circuits =
      match candidate.turn call elapsed upstream with
      | .won _ => (settle candidate circuits).2
      | .lost error goesOn =>
          match candidate.provider.recordFailure upstream.finishedAt error circuits with
          | (none, after) => after
          | (some _, after) =>
              if goesOn = true then
                (tryCandidates call settle elapsed rest (errors ++ [error]) after).circuits
              else after := by
  rw [tryCandidates]
  unfold Candidate.turn
  cases call candidate upstream with
  | none =>
      dsimp only
      rcases candidate.provider.recordFailure upstream.finishedAt elapsed circuits with ⟨_ | _, after⟩
      · rfl
      · rfl
  | some outcome =>
      cases outcome with
      | ok value => rfl
      | error error =>
          dsimp only
          rcases candidate.provider.recordFailure upstream.finishedAt error circuits with
            ⟨_ | _, after⟩
          · rfl
          · cases retryable : error.retryable <;> simp

/-- The end of an attempt with an error that is recorded. -/
theorem settle_failure {traffic : Traffic} {provider : Provider} {now : Instant}
    {error : ProxyError} {returned : Option Unit} {after : Circuits}
    (recorded : provider.recordFailure now error traffic.circuits = (returned, after)) :
    traffic.settle provider now (.failed error) (some (.failure error)) =
      (returned,
        { traffic with
          circuits := after
          reports := traffic.reports ++ [(provider.id, .failure error)]
          ended := traffic.ended ++
            [{ provider := provider.id, ending := .failed error
               before := traffic.circuits provider.id
               after := after provider.id }] }) := by
  unfold Traffic.settle Traffic.record Provider.report
  dsimp only
  rw [recorded]

/-- With nobody there, an attempt is nothing. -/
theorem attempts_of_none (upstreams : List Upstream) {traffic : Traffic}
    (nobody : traffic.active = []) :
    (upstreams.map (TrafficMove.attempt 0)).foldl (Traffic.step crates environment order router)
      traffic = traffic := by
  induction upstreams with
  | nil => rfl
  | cons upstream rest inductionHypothesis =>
      have unmoved : traffic.attempt crates environment order 0 upstream = traffic := by
        simp [Traffic.attempt, nobody]
      rw [List.map_cons, List.foldl_cons, Traffic.step, unmoved]
      exact inductionHypothesis

/-- A request that makes its attempts with no other in between leaves the circuits as `execute`
does. The induction is on the attempts that are left. -/
theorem executing_alone (attempts : List (Candidate × Upstream)) (errors : List ProxyError)
    (traffic : Traffic) (active : traffic.active = [.executing (attempts.map Prod.fst)]) :
    (((attempts.map fun attempt => TrafficMove.attempt 0 attempt.2)).foldl
      (Traffic.step crates environment order router) traffic).circuits =
      (tryCandidates (Candidate.execute crates environment) Candidate.settle executeElapsed
        attempts errors traffic.circuits).circuits := by
  induction attempts generalizing errors traffic with
  | nil => rfl
  | cons attempt rest inductionHypothesis =>
      obtain ⟨candidate, upstream⟩ := attempt
      rw [tryCandidates_cons, List.map_cons, List.foldl_cons, Traffic.step]
      have later : (rest.map fun attempt => TrafficMove.attempt 0 attempt.2) =
          (rest.map Prod.snd).map (TrafficMove.attempt 0) := by
        simp
      have here : traffic.active[0]? = some (.executing (candidate :: rest.map Prod.fst)) := by
        simp [active]
      unfold Traffic.attempt
      rw [here]
      dsimp only
      cases candidate.turn (Candidate.execute crates environment) executeElapsed upstream with
      | won value =>
          rw [later, attempts_of_none]
          · rfl
          · simp [Traffic.settle, Traffic.record, Traffic.leave, active]
      | lost error goesOn =>
          rcases recorded : candidate.provider.recordFailure upstream.finishedAt error
              traffic.circuits with ⟨_ | _, after⟩
          · dsimp only
            rw [settle_failure recorded, recorded]
            dsimp only [Traffic.afterError]
            rw [later, attempts_of_none]
            · rfl
            · simp [Traffic.leave, active]
          · dsimp only
            rw [settle_failure recorded, recorded]
            dsimp only [Traffic.afterError]
            cases goesOn with
            | true =>
                rw [if_pos rfl, if_pos rfl, inductionHypothesis (errors ++ [error])]
                · rfl
                · simp [Traffic.become, active]
            | false =>
                rw [if_neg Bool.false_ne_true, if_neg Bool.false_ne_true, later, attempts_of_none]
                · rfl
                · simp [Traffic.leave, active]

end Alone

/-! ### Runs -/

section Runs

variable {crates : Crates} {environment : Environment} {order : IterationOrder} {router : Router}
  {traffic after : Traffic}

theorem Accounted.quiet (accounted : Accounted traffic) (quiet : Quiet traffic after) :
    Accounted after := by
  obtain ⟨reports, attempts, failures⟩ := accounted
  constructor
  · rw [quiet.reports, quiet.ended]
    exact reports
  · rw [quiet.ended]
    exact attempts
  · intro provider
    unfold Traffic.endingsAt
    rw [quiet.failures, quiet.ended]
    exact failures provider

theorem failureCount_concat (endings : List AttemptEnding) (ending : AttemptEnding) :
    failureCount (endings ++ [ending]) =
      match ending with
      | .succeeded => 0
      | .failed error =>
          if countsAsFailure error = true then failureCount endings + 1 else failureCount endings := by
  unfold failureCount
  rw [List.foldl_append]
  rfl

/-- The report that is due keeps the accounts, if it can be counted. -/
theorem Accounted.settled (accounted : Accounted traffic) {provider : Provider} {now : Instant}
    {ending : AttemptEnding} (canCount : ending.CanCount (traffic.circuits provider.id))
    (active : List Progress) :
    Accounted
      { (traffic.settle provider now ending (some ending.due)).2 with active := active } := by
  obtain ⟨reports, attempts, failures⟩ := accounted
  constructor
  · simp [Traffic.settle, Traffic.record, reports]
  · intro attempt member
    rcases List.mem_append.mp member with old | new
    · exact attempts attempt old
    · rw [List.mem_singleton.mp new]
      exact (accounted_of_due_iff traffic ending).mpr canCount
  · intro other
    by_cases here : other = provider.id
    · subst here
      have endings : Traffic.endingsAt
          { (traffic.settle provider now ending (some ending.due)).2 with active := active }
            provider.id = traffic.endingsAt provider.id ++ [ending] := by
        simp [Traffic.endingsAt, Traffic.settle, Traffic.record]
      rw [endings, failureCount_concat]
      change ((traffic.record provider now ending.due).2.circuits provider.id).value.failures = _
      cases ending with
      | succeeded =>
          exact congrArg (fun circuit : Mutex CircuitState => circuit.value.failures)
            (@Provider.report_success _ now _ (canCount rfl).1)
      | failed error =>
          dsimp only [AttemptEnding.due]
          cases counted : countsAsFailure error with
          | false =>
              rw [record_ignored counted]
              exact failures provider.id
          | true =>
              obtain ⟨healthy, room⟩ := canCount counted
              rw [record_counted_failures counted healthy, Nat.mod_eq_of_lt (room counted), failures]
              rfl
    · have endings : Traffic.endingsAt
          { (traffic.settle provider now ending (some ending.due)).2 with active := active } other =
            traffic.endingsAt other := by
        simp [Traffic.endingsAt, Traffic.settle, Traffic.record, Ne.symm here]
      rw [endings]
      change ((traffic.record provider now ending.due).2.circuits other).value.failures = _
      have same : (traffic.record provider now ending.due).2.circuits other =
          traffic.circuits other := Provider.report_of_ne here
      rw [same]
      exact failures other

/-- Every attempt has had its effect. -/
def AttemptsAccounted (traffic : Traffic) : Prop :=
  ∀ attempt ∈ traffic.ended, attempt.Accounted

theorem stepped_ended {idle : Prop} {ended : Option (Provider × AttemptEnding)}
    (stepped : Stepped traffic after idle ended) : ∃ more, after.ended = traffic.ended ++ more := by
  cases stepped with
  | quiet nothing => exact ⟨[], by simp [nothing.ended]⟩
  | settled provider now ending active result => exact ⟨_, by rw [result]; rfl⟩
  | abandoned provider now active result => exact ⟨_, by rw [result]; rfl⟩

/-- What the attempts that a step ends have to do with its tally. -/
theorem accounted_stepped {idle : Prop} {ended : Option (Provider × AttemptEnding)}
    (stepped : Stepped traffic after idle ended) (accounted : AttemptsAccounted traffic) :
    (¬ idle ∧ ∀ provider ending, ended = some (provider, ending) →
      ending.CanCount (traffic.circuits provider.id)) ↔ AttemptsAccounted after := by
  cases stepped with
  | quiet nothing busy =>
      apply iff_of_true
      · refine ⟨busy, ?_⟩
        intro provider ending isEnded
        cases isEnded
      · intro attempt member
        rw [nothing.ended] at member
        exact accounted attempt member
  | settled provider now ending active result busy =>
      constructor
      · rintro ⟨-, canCount⟩ attempt member
        rw [result] at member
        rcases List.mem_append.mp member with old | new
        · exact accounted attempt old
        · rw [List.mem_singleton.mp new]
          exact (accounted_of_due_iff traffic ending).mpr (canCount provider ending rfl)
      · intro allAccounted
        refine ⟨busy, ?_⟩
        intro other otherEnding isEnded
        cases isEnded
        rw [result] at allAccounted
        have last := allAccounted _ (List.mem_append_right _ List.mem_cons_self)
        exact (accounted_of_due_iff traffic ending).mp last
  | abandoned provider now active result silent =>
      apply iff_of_false
      · rintro ⟨busy, -⟩
        exact busy silent
      · intro allAccounted
        rw [result] at allAccounted
        refine absurd (allAccounted _ (List.mem_append_right _ List.mem_cons_self)) ?_
        exact not_accounted_of_idle _ _

/-- A step keeps every attempt accounted for exactly when it can tally. -/
theorem attemptsAccounted_step (move : TrafficMove) (accounted : AttemptsAccounted traffic) :
    CanTally crates environment order traffic move ↔
      AttemptsAccounted (traffic.step crates environment order router move) := by
  rw [← accounted_stepped (step_stepped crates environment order router traffic move) accounted]
  exact ⟨fun canTally => ⟨canTally.audible, canTally.counts⟩, fun ⟨audible, counts⟩ =>
    ⟨audible, counts⟩⟩

end Runs

/-- The accounts are complete at the end of a run exactly when each step of it could tally: none was the
end of a stream that had gone idle, and each report that took a lock found it healthy, with room for one
failure more in the count. -/
theorem accounted_iff (crates : Crates) (environment : Environment) (order : IterationOrder)
    (router : Router) (moves : List TrafficMove) :
    Accounted (moves.foldl (Traffic.step crates environment order router) {}) ↔
      Along (Traffic.step crates environment order router)
        (CanTally crates environment order) {} moves := by
  constructor
  · intro accounted
    refine (along_iff AttemptsAccounted ?_ ?_ moves ?_).mpr accounted.attempts
    · intro traffic move
      exact attemptsAccounted_step move
    · intro traffic move unaccounted allAccounted
      obtain ⟨more, ended⟩ := stepped_ended
        (step_stepped crates environment order router traffic move)
      apply unaccounted
      intro attempt member
      apply allAccounted attempt
      rw [ended]
      exact List.mem_append_left _ member
    · intro attempt member
      cases member
  · intro tallies
    refine tallies.invariant Accounted ?_ ?_
    · intro traffic move ⟨audible, counts⟩ accounted
      have stepped := step_stepped crates environment order router traffic move
      generalize endedBy crates environment order traffic move = ended at stepped counts
      cases stepped with
      | quiet nothing => exact accounted.quiet nothing
      | settled provider now ending active result =>
          rw [result]
          exact accounted.settled (counts provider ending rfl) active
      | abandoned provider now active result silent => exact absurd silent audible
    · constructor
      · rfl
      · intro attempt member
        cases member
      · intro provider
        rfl

/-! ### A provider that hangs -/

/-- The stream is established, and then nothing comes. -/
def hangingUpstream : Upstream where
  reply _ := some (.answered { status := 200, text := none, json := none, chunks := ⟨[], .pending⟩ })
  finishedAt := 1

/-- A streaming request, its attempt, and the response body that gives up after 60 seconds. -/
def hangingMoves : List TrafficMove :=
  [.arrive true { id := "r", isMatch := fun _ => true, targets := [{ provider := "p", model := "m" }] }
      officeCandidate.request (fun _ => 0) fun _ => 0,
    .attempt 0 hangingUpstream, .finish 0 (61 * nanosecondsPerSecond)]

/-- The client is told that the stream timed out, and the circuit is told nothing. -/
theorem hanging_unaccounted :
    ¬ Accounted (hangingMoves.foldl
      (Traffic.step officeCrates officeEnvironment ⟨id, fun _ => .rfl⟩ officeRouter) {}) := by
  intro accounted
  have ended : (hangingMoves.foldl
      (Traffic.step officeCrates officeEnvironment ⟨id, fun _ => .rfl⟩ officeRouter) {}).ended =
      [{ provider := "p", ending := .failed idleTimeout
         before := { value := {} }, after := { value := {} } }] := by
    decide +kernel
  have attempts := accounted.attempts
  rw [ended] at attempts
  exact not_accounted_of_idle "p" { value := {} } (attempts _ List.mem_cons_self)

end ClaudeProxy
