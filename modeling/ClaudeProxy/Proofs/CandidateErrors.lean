/-
Module: ClaudeProxy.Proofs.CandidateErrors
Layer: Proofs
Purpose: Which error the router gives when it has no candidate. A look at the targets finds those that
  suit the request and are up, and remembers the first capability error. Where no target is left, that
  error is reported, even if other targets suit the request and are merely down. The look takes the lock
  of each target that suits the request, and panics at a poisoned one.
Trusted boundary: none
Main exports: Rejects, Up, candidateOf, Gathered, gathered_run, gatherFrom_panics, ReportsCapabilities,
  OutageHidden, Reachable, candidates_report_iff
-/
import ClaudeProxy.Proofs.Candidates
import ClaudeProxy.Proofs.Fallback
import Mathlib.Order.Monotone.Basic

namespace ClaudeProxy

open Library

/-! ### What a look at a target finds -/

/-- The target cannot serve the request. -/
def Rejects (crates : Crates) (request : NormalizedRequest) (provider : Provider) : Prop :=
  ∃ error, adaptRequest crates provider.capabilities request = .error error

/-- The circuit of the target is closed at a time. -/
def Up (circuits : Circuits) (now : Instant) (provider : Provider) : Prop :=
  ((circuits provider.id).value.available now).1 = true

instance (circuits : Circuits) (now : Instant) (provider : Provider) :
    Decidable (Up circuits now provider) :=
  inferInstanceAs (Decidable (_ = true))

/-- The candidate that a target of the route is, if it suits the request and is up when it is looked
at. The targets are looked at in their order. -/
def candidateOf (crates : Crates) (request : NormalizedRequest) (clock : Nat → Instant)
    (circuits : Circuits) (entry : (Provider × TargetConfig) × Nat) : Option Candidate :=
  match adaptRequest crates entry.1.1.capabilities request with
  | .error _ => none
  | .ok adapted =>
      if Up circuits (clock entry.2) entry.1.1 then
        some { provider := entry.1.1, target := entry.1.2, request := adapted }
      else none

theorem not_rejects_iff {crates : Crates} {request : NormalizedRequest} {provider : Provider} :
    ¬ Rejects crates request provider ↔
      ∃ adapted, adaptRequest crates provider.capabilities request = .ok adapted := by
  unfold Rejects
  cases adaptRequest crates provider.capabilities request with
  | error error => simp
  | ok adapted => simp

/-- A look at a circuit changes nothing for a later look. -/
theorem CircuitState.available_again {now later : Instant} (order : now ≤ later)
    (state : CircuitState) : ((state.available now).2.available later).1 =
      (state.available later).1 := by
  obtain ⟨failures, openUntil⟩ := state
  cases openUntil with
  | none => rfl
  | some limit =>
      simp only [CircuitState.available]
      by_cases before : now < limit
      · rw [if_pos before]
      · rw [if_neg before]
        have past : ¬ later < limit := Nat.not_lt.mpr (Nat.le_trans (Nat.not_lt.mp before) order)
        rw [if_neg past]

/-- The adaptation fails with an invalid request only. -/
theorem adaptRequest_error (crates : Crates) (capabilities : CapabilityProfile)
    (request : NormalizedRequest) :
    Except.Fails (fun error => error.kind = .invalidRequest)
      (adaptRequest crates capabilities request) :=
  (adaptRequest_isNew request).imp fun _ => IsNew.kind_eq

/-! ### All targets -/

section Gathered

variable {crates : Crates} {draws : Nat → Nat} {clock : Nat → Instant} {circuits : Circuits}
  {request : NormalizedRequest}

/-- The locks of all targets that suit the request are healthy. -/
def Reachable (crates : Crates) (circuits : Circuits) (request : NormalizedRequest)
    (resolved : List (Provider × TargetConfig)) : Prop :=
  ∀ entry ∈ resolved, ¬ Rejects crates request entry.1 → (circuits entry.1.id).poisoned = false

/-- What the look at the targets `resolved` has come to: the candidates among them in order, whether
one of them rejects the request, and circuits that a later look finds as they were. -/
structure Gathered (crates : Crates) (clock : Nat → Instant) (circuits : Circuits)
    (request : NormalizedRequest) (resolved : List (Provider × TargetConfig))
    (gathering : Gathering) : Prop where
  compatible : gathering.compatible =
    resolved.zipIdx.filterMap (candidateOf crates request clock circuits)
  error : ∀ error, gathering.capabilityError = some error → error.kind = .invalidRequest
  rejected : gathering.capabilityError ≠ none ↔ ∃ entry ∈ resolved, Rejects crates request entry.1
  same : ∀ id later, (∀ index < resolved.length, clock index ≤ later) →
    ((gathering.circuits id).value.available later).1 = ((circuits id).value.available later).1
  running : gathering.panicked = false
  locks : ∀ id, (gathering.circuits id).poisoned = (circuits id).poisoned

theorem gathered_nil : Gathered crates clock circuits request [] { circuits := circuits } := by
  constructor
  · rfl
  · simp
  · simp
  · intro id later _
    rfl
  · rfl
  · intro id
    rfl

theorem zipIdx_concat (resolved : List (Provider × TargetConfig))
    (entry : Provider × TargetConfig) :
    (resolved ++ [entry]).zipIdx = resolved.zipIdx ++ [(entry, resolved.length)] := by
  rw [List.zipIdx_append]
  simp

/-- One more target, which rejects the request: its error is kept if it is the first one. -/
theorem Gathered.add_rejected {resolved : List (Provider × TargetConfig)} {gathering : Gathering}
    (gathered : Gathered crates clock circuits request resolved gathering)
    {entry : Provider × TargetConfig} {error : ProxyError}
    (outcome : adaptRequest crates entry.1.capabilities request = .error error) :
    Gathered crates clock circuits request (resolved ++ [entry])
      (gathering.add crates request (clock resolved.length) entry) := by
  have invalid := adaptRequest_error crates entry.1.capabilities request error outcome
  obtain ⟨sameCircuits, sameCompatible, samePanicked⟩ := @Gathering.add_rejected crates request
    gathering (clock resolved.length) entry error outcome
  have reported : (gathering.add crates request (clock resolved.length) entry).capabilityError =
      some (gathering.capabilityError.getD error) := by
    unfold Gathering.add
    rw [if_neg (by simp [gathered.running]), outcome]
  constructor
  · rw [sameCompatible, gathered.compatible, zipIdx_concat, List.filterMap_append]
    simp [candidateOf, outcome]
  · intro other isOther
    rw [reported] at isOther
    cases held : gathering.capabilityError with
    | none =>
        rw [held] at isOther
        cases isOther
        exact invalid
    | some first =>
        rw [held] at isOther
        cases isOther
        exact gathered.error first held
  · rw [reported]
    exact iff_of_true (by simp) ⟨entry, by simp, error, outcome⟩
  · intro id later laterThan
    rw [sameCircuits]
    apply gathered.same
    intro index bound
    exact laterThan index (by rw [List.length_append]; omega)
  · rw [samePanicked]
    exact gathered.running
  · intro id
    rw [sameCircuits]
    exact gathered.locks id

/-- One more target, which suits the request: it is a candidate if it is up. -/
theorem Gathered.add_accepted (ordered : Monotone clock)
    {resolved : List (Provider × TargetConfig)} {gathering : Gathering}
    (gathered : Gathered crates clock circuits request resolved gathering)
    {entry : Provider × TargetConfig} {adapted : NormalizedRequest}
    (outcome : adaptRequest crates entry.1.capabilities request = .ok adapted)
    (healthy : (circuits entry.1.id).poisoned = false) :
    Gathered crates clock circuits request (resolved ++ [entry])
      (gathering.add crates request (clock resolved.length) entry) := by
  have before : ∀ index < resolved.length, clock index ≤ clock resolved.length :=
    fun index bound => ordered (Nat.le_of_lt bound)
  have sameNow := gathered.same entry.1.id (clock resolved.length) before
  rw [Gathering.add_accepted gathered.running ((gathered.locks entry.1.id).trans healthy) outcome]
  constructor
  · dsimp only
    rw [sameNow, gathered.compatible, zipIdx_concat, List.filterMap_append]
    by_cases up : ((circuits entry.1.id).value.available (clock resolved.length)).1 = true
    · simp [candidateOf, outcome, Up, up]
    · simp [candidateOf, outcome, Up, up]
  · exact gathered.error
  · dsimp only
    rw [gathered.rejected]
    have accepts : ¬ Rejects crates request entry.1 := not_rejects_iff.mpr ⟨adapted, outcome⟩
    simp [or_and_right, exists_or, accepts]
  · intro id later laterThan
    have now : clock resolved.length ≤ later := laterThan _ (by simp)
    have earlier : ∀ index < resolved.length, clock index ≤ later :=
      fun index bound => laterThan index (by rw [List.length_append]; omega)
    dsimp only
    by_cases here : id = entry.1.id
    · subst here
      rw [Function.update_self, CircuitState.available_again now]
      exact gathered.same _ later earlier
    · rw [Function.update_of_ne here]
      exact gathered.same id later earlier
  · exact gathered.running
  · intro id
    dsimp only
    by_cases here : id = entry.1.id
    · subst here
      rw [Function.update_self]
      exact healthy.symm
    · rw [Function.update_of_ne here]
      exact gathered.locks id

theorem Gathered.add (ordered : Monotone clock) {resolved : List (Provider × TargetConfig)}
    {gathering : Gathering} (gathered : Gathered crates clock circuits request resolved gathering)
    (entry : Provider × TargetConfig)
    (healthy : ¬ Rejects crates request entry.1 → (circuits entry.1.id).poisoned = false) :
    Gathered crates clock circuits request (resolved ++ [entry])
      (gathering.add crates request (clock resolved.length) entry) := by
  cases outcome : adaptRequest crates entry.1.capabilities request with
  | error error => exact gathered.add_rejected outcome
  | ok adapted =>
      exact gathered.add_accepted ordered outcome (healthy (not_rejects_iff.mpr ⟨adapted, outcome⟩))

/-- One target after the others. -/
theorem gatherFrom_concat (before : List (Provider × TargetConfig))
    (entry : Provider × TargetConfig) :
    gatherFrom crates clock circuits request (before ++ [entry]) =
      (gatherFrom crates clock circuits request before).add crates request (clock before.length)
        entry := by
  unfold gatherFrom
  rw [List.zipIdx_append, List.foldl_append]
  simp

/-- The look at all targets, the one after the other. -/
theorem gathered_run (ordered : Monotone clock) {resolved : List (Provider × TargetConfig)}
    (reachable : Reachable crates circuits request resolved) :
    Gathered crates clock circuits request resolved
      (gatherFrom crates clock circuits request resolved) := by
  induction resolved using List.reverseRecOn with
  | nil => exact gathered_nil
  | append_singleton before entry inductionHypothesis =>
      rw [gatherFrom_concat]
      apply (inductionHypothesis ?_).add ordered
      · exact reachable entry (by simp)
      · intro earlier isEarlier
        exact reachable earlier (List.mem_append_left _ isEarlier)

/-- A look at a target leaves every lock poisoned or healthy as it was. -/
theorem Gathering.add_poison (gathering : Gathering) (now : Instant)
    (entry : Provider × TargetConfig) (id : String) :
    ((gathering.add crates request now entry).circuits id).poisoned =
      (gathering.circuits id).poisoned := by
  cases running : gathering.panicked with
  | true => rw [add_panicked running]
  | false =>
      cases outcome : adaptRequest crates entry.1.capabilities request with
      | error error => rw [(add_rejected outcome).1]
      | ok adapted =>
          cases locked : (gathering.circuits entry.1.id).poisoned with
          | true =>
              unfold Gathering.add
              rw [if_neg (by simp [running]), outcome]
              dsimp only
              rw [Provider.available_of_poisoned locked]
          | false =>
              rw [add_accepted running locked outcome]
              dsimp only
              by_cases here : id = entry.1.id
              · rw [here, Function.update_self, locked]
              · rw [Function.update_of_ne here]

theorem gatherFrom_poison (resolved : List (Provider × TargetConfig)) (id : String) :
    ((gatherFrom crates clock circuits request resolved).circuits id).poisoned =
      (circuits id).poisoned :=
  foldl_invariant (fun gathering : Gathering => (gathering.circuits id).poisoned =
    (circuits id).poisoned) (fun gathering entry same =>
      (gathering.add_poison (clock entry.2) entry.1 id).trans same) _ rfl

/-- Where the lock of a suitable target is poisoned the look panics. -/
theorem gatherFrom_panics {resolved : List (Provider × TargetConfig)}
    (stuck : ¬ Reachable crates circuits request resolved) :
    (gatherFrom crates clock circuits request resolved).panicked = true := by
  induction resolved using List.reverseRecOn with
  | nil => exact absurd (fun entry isEntry => absurd isEntry List.not_mem_nil) stuck
  | append_singleton before entry inductionHypothesis =>
      rw [gatherFrom_concat]
      by_cases earlier : Reachable crates circuits request before
      · have here : ¬ (¬ Rejects crates request entry.1 →
            (circuits entry.1.id).poisoned = false) := by
          intro healthy
          apply stuck
          intro other isOther accepts
          rcases List.mem_append.mp isOther with isEarlier | isLast
          · exact earlier other isEarlier accepts
          · rw [List.mem_singleton.mp isLast] at accepts ⊢
            exact healthy accepts
        obtain ⟨accepts, poisoned⟩ := Classical.not_imp.mp here
        obtain ⟨adapted, outcome⟩ := not_rejects_iff.mp accepts
        apply Gathering.add_poisoned _ outcome
        rw [gatherFrom_poison]
        exact Bool.not_eq_false _ |>.mp poisoned
      · rw [Gathering.add_panicked (inductionHypothesis earlier)]
        exact inductionHypothesis earlier

/-! ### The report -/

/-- The answer that tells an incapable route from an outage: a client error if no target suits the
request, an overload if those that suit it are all down, and otherwise those that are up. -/
structure ReportsCapabilities (crates : Crates) (clock : Nat → Instant) (circuits : Circuits)
    (request : NormalizedRequest) (resolved : List (Provider × TargetConfig))
    (result : Option (Except ProxyError (List Candidate))) : Prop where
  invalid : (∃ error, result = some (.error error) ∧ error.kind = .invalidRequest ∧
      error.status = 400) ↔
    ∀ entry ∈ resolved, Rejects crates request entry.1
  overloaded : (∃ entry ∈ resolved, ¬ Rejects crates request entry.1) →
    (∀ entry ∈ resolved.zipIdx, ¬ Rejects crates request entry.1.1 →
      ¬ Up circuits (clock entry.2) entry.1.1) →
    ∃ error, result = some (.error error) ∧ error.kind = .overloaded ∧ error.status = 503
  served : (∃ entry ∈ resolved.zipIdx, ¬ Rejects crates request entry.1.1 ∧
      Up circuits (clock entry.2) entry.1.1) →
    ∃ candidates, result = some (.ok candidates) ∧
      candidates.Perm (resolved.zipIdx.filterMap (candidateOf crates request clock circuits))

/-- Some targets reject the request, others suit it, and those are all down. -/
structure OutageHidden (crates : Crates) (clock : Nat → Instant) (circuits : Circuits)
    (request : NormalizedRequest) (resolved : List (Provider × TargetConfig)) : Prop where
  rejecting : ∃ entry ∈ resolved, Rejects crates request entry.1
  suitable : ∃ entry ∈ resolved, ¬ Rejects crates request entry.1
  down : ∀ entry ∈ resolved.zipIdx, ¬ Rejects crates request entry.1.1 →
    ¬ Up circuits (clock entry.2) entry.1.1

theorem candidateOf_eq_none {entry : (Provider × TargetConfig) × Nat} :
    candidateOf crates request clock circuits entry = none ↔
      (¬ Rejects crates request entry.1.1 → ¬ Up circuits (clock entry.2) entry.1.1) := by
  unfold candidateOf
  rw [not_rejects_iff]
  cases adaptRequest crates entry.1.1.capabilities request with
  | error error => simp
  | ok adapted => simp

/-- There are no candidates exactly if every suitable target is down. -/
theorem no_candidate_iff {resolved : List (Provider × TargetConfig)} :
    resolved.zipIdx.filterMap (candidateOf crates request clock circuits) = [] ↔
      ∀ entry ∈ resolved.zipIdx, ¬ Rejects crates request entry.1.1 →
        ¬ Up circuits (clock entry.2) entry.1.1 := by
  rw [List.filterMap_eq_nil_iff]
  exact forall₂_congr fun _ _ => candidateOf_eq_none

/-- The result of a look at the targets: the candidates, or the first capability error if there is
one, or else the report of an outage. -/
theorem gatherCandidates_result (ordered : Monotone clock)
    {resolved : List (Provider × TargetConfig)}
    (reachable : Reachable crates circuits request resolved) :
    ((gatherCandidates crates draws clock circuits request resolved).2 =
        some (.error openCircuits) ∧
      resolved.zipIdx.filterMap (candidateOf crates request clock circuits) = [] ∧
      ∀ entry ∈ resolved, ¬ Rejects crates request entry.1) ∨
    ((∃ error, (gatherCandidates crates draws clock circuits request resolved).2 =
          some (.error error) ∧ error.kind = .invalidRequest) ∧
      resolved.zipIdx.filterMap (candidateOf crates request clock circuits) = [] ∧
      ∃ entry ∈ resolved, Rejects crates request entry.1) ∨
    ∃ candidates, (gatherCandidates crates draws clock circuits request resolved).2 =
        some (.ok candidates) ∧
      resolved.zipIdx.filterMap (candidateOf crates request clock circuits) ≠ [] ∧
      candidates.Perm (resolved.zipIdx.filterMap (candidateOf crates request clock circuits)) := by
  have gathered := gathered_run ordered reachable
  have result : (gatherCandidates crates draws clock circuits request resolved).2 =
      if (gatherFrom crates clock circuits request resolved).panicked = true then none
      else if (gatherFrom crates clock circuits request resolved).compatible.isEmpty = true then
        some (.error ((gatherFrom crates clock circuits request resolved).capabilityError.getD
          openCircuits))
      else some (.ok (weightedPriorityOrder draws
        (gatherFrom crates clock circuits request resolved).compatible)) := rfl
  rw [result, if_neg (by simp [gathered.running]), gathered.compatible]
  by_cases empty : resolved.zipIdx.filterMap (candidateOf crates request clock circuits) = []
  · rw [if_pos (List.isEmpty_iff.mpr empty)]
    cases held : (gatherFrom crates clock circuits request resolved).capabilityError with
    | none =>
        refine .inl ⟨rfl, empty, ?_⟩
        intro entry member rejects
        exact gathered.rejected.mpr ⟨entry, member, rejects⟩ held
    | some error =>
        refine .inr (.inl ⟨⟨error, rfl, gathered.error error held⟩, empty, ?_⟩)
        exact gathered.rejected.mp (by simp [held])
  · rw [if_neg (mt List.isEmpty_iff.mp empty)]
    exact .inr (.inr ⟨_, rfl, empty, weightedPriorityOrder_perm _ _⟩)

section Outcomes

variable {resolved : List (Provider × TargetConfig)}
  {result : Option (Except ProxyError (List Candidate))}

/-- A look that panics tells nothing: it neither reports an outage nor serves a request. -/
theorem not_reports_panic (panicked : result = none)
    (stuck : ¬ Reachable crates circuits request resolved) :
    ¬ ReportsCapabilities crates clock circuits request resolved result := by
  intro reports
  obtain ⟨entry, isEntry, accepts⟩ : ∃ entry ∈ resolved, ¬ Rejects crates request entry.1 := by
    by_contra nobody
    apply stuck
    intro entry isEntry accepts
    exact absurd ⟨entry, isEntry, accepts⟩ nobody
  by_cases served : ∃ entry ∈ resolved.zipIdx, ¬ Rejects crates request entry.1.1 ∧
      Up circuits (clock entry.2) entry.1.1
  · obtain ⟨candidates, isOk, -⟩ := reports.served served
    rw [panicked] at isOk
    cases isOk
  · obtain ⟨error, isError, -⟩ := reports.overloaded ⟨entry, isEntry, accepts⟩
      fun other member suits up => served ⟨other, member, suits, up⟩
    rw [panicked] at isError
    cases isError

/-- An outage is reported rightly, unless the route has no target at all. -/
theorem reports_open (isOpen : result = some (.error openCircuits))
    (empty : resolved.zipIdx.filterMap (candidateOf crates request clock circuits) = [])
    (suits : ∀ entry ∈ resolved, ¬ Rejects crates request entry.1) :
    ReportsCapabilities crates clock circuits request resolved result ↔
      resolved ≠ [] ∧ ¬ OutageHidden crates clock circuits request resolved := by
  have notHidden : ¬ OutageHidden crates clock circuits request resolved := by
    rintro ⟨⟨entry, member, rejects⟩, -, -⟩
    exact suits entry member rejects
  have notInvalid : ¬ ∃ error, result = some (.error error) ∧ error.kind = .invalidRequest ∧
      error.status = 400 := by
    rintro ⟨error, isError, kind, -⟩
    rw [isOpen] at isError
    cases isError
    cases kind
  constructor
  · intro reports
    refine ⟨?_, notHidden⟩
    rintro rfl
    exact notInvalid (reports.invalid.mpr (by simp))
  · rintro ⟨nonempty, -⟩
    obtain ⟨entry, member⟩ := List.exists_mem_of_ne_nil resolved nonempty
    constructor
    · exact iff_of_false notInvalid fun rejects => suits entry member (rejects entry member)
    · intro _ _
      exact ⟨openCircuits, isOpen, rfl, rfl⟩
    · rintro ⟨other, otherMember, accepts, up⟩
      exact absurd up (no_candidate_iff.mp empty other otherMember accepts)

/-- A client error is reported rightly, unless some target suits the request. -/
theorem reports_rejection {error : ProxyError} (isError : result = some (.error error))
    (invalid : error.kind = .invalidRequest)
    (empty : resolved.zipIdx.filterMap (candidateOf crates request clock circuits) = [])
    (rejecting : ∃ entry ∈ resolved, Rejects crates request entry.1) :
    ReportsCapabilities crates clock circuits request resolved result ↔
      resolved ≠ [] ∧ ¬ OutageHidden crates clock circuits request resolved := by
  have down := no_candidate_iff.mp empty
  have status : error.status = 400 := by
    unfold ProxyError.status
    rw [invalid]
  constructor
  · intro reports
    constructor
    · rintro rfl
      obtain ⟨entry, member, -⟩ := rejecting
      cases member
    · rintro ⟨-, ⟨entry, member, accepts⟩, -⟩
      exact accepts (reports.invalid.mp ⟨error, isError, invalid, status⟩ entry member)
  · rintro ⟨-, notHidden⟩
    have rejects : ∀ entry ∈ resolved, Rejects crates request entry.1 := by
      intro entry member
      by_contra accepts
      exact notHidden ⟨rejecting, ⟨entry, member, accepts⟩, down⟩
    constructor
    · exact iff_of_true ⟨error, isError, invalid, status⟩ rejects
    · rintro ⟨entry, member, accepts⟩
      exact absurd (rejects entry member) accepts
    · rintro ⟨other, otherMember, accepts, up⟩
      exact absurd up (down other otherMember accepts)

/-- Candidates are always reported rightly. -/
theorem reports_candidates {candidates : List Candidate} (isOk : result = some (.ok candidates))
    (present : resolved.zipIdx.filterMap (candidateOf crates request clock circuits) ≠ [])
    (perm : candidates.Perm
      (resolved.zipIdx.filterMap (candidateOf crates request clock circuits))) :
    ReportsCapabilities crates clock circuits request resolved result ↔
      resolved ≠ [] ∧ ¬ OutageHidden crates clock circuits request resolved := by
  have served : ∃ entry ∈ resolved.zipIdx, ¬ Rejects crates request entry.1.1 ∧
      Up circuits (clock entry.2) entry.1.1 := by
    by_contra none'
    apply present
    rw [no_candidate_iff]
    intro entry member accepts up
    exact none' ⟨entry, member, accepts, up⟩
  obtain ⟨entry, member, accepts, up⟩ := served
  have isTarget : entry.1 ∈ resolved := List.fst_mem_of_mem_zipIdx member
  apply iff_of_true
  · constructor
    · apply iff_of_false
      · rintro ⟨error, isError, -⟩
        rw [isOk] at isError
        cases isError
      · intro rejects
        exact accepts (rejects entry.1 isTarget)
    · intro _ down
      exact absurd up (down entry member accepts)
    · intro _
      exact ⟨candidates, isOk, perm⟩
  · constructor
    · rintro rfl
      cases isTarget
    · rintro ⟨-, -, down⟩
      exact down entry member accepts up

end Outcomes

/-- The router tells an incapable route from an outage exactly if the route has a target, no outage
hides behind a target that rejects the request, and no look at a suitable target panics. -/
theorem candidates_report_iff (router : Router) (route : Route)
    (resolved : List (Provider × TargetConfig)) (circuits' : Circuits)
    (result : Option (Except ProxyError (List Candidate))) (ordered : Monotone clock)
    (resolves : router.resolveTargets route = some resolved)
    (gathered : router.candidates crates draws clock circuits route request =
      (circuits', result)) :
    ReportsCapabilities crates clock circuits request resolved result ↔
      resolved ≠ [] ∧ ¬ OutageHidden crates clock circuits request resolved ∧
        Reachable crates circuits request resolved := by
  have resultEq : (gatherCandidates crates draws clock circuits request resolved).2 = result := by
    unfold Router.candidates at gathered
    rw [resolves] at gathered
    exact congrArg Prod.snd gathered
  by_cases reachable : Reachable crates circuits request resolved
  · have outcome := @gatherCandidates_result crates draws _ _ _ ordered _ reachable
    rw [resultEq] at outcome
    rw [and_iff_left reachable]
    rcases outcome with ⟨isOpen, empty, suits⟩ | ⟨⟨error, isError, invalid⟩, empty, rejecting⟩ |
      ⟨candidates, isOk, present, perm⟩
    · exact reports_open isOpen empty suits
    · exact reports_rejection isError invalid empty rejecting
    · exact reports_candidates isOk present perm
  · have panicked : result = none := by
      rw [← resultEq]
      exact if_pos (gatherFrom_panics reachable)
    exact iff_of_false (not_reports_panic panicked reachable) fun all => reachable all.2.2

end Gathered

/-! ### Samples -/

/-- A provider that has no tools, and one more that has them. -/
def plainProvider : Provider := { officeProvider with id := "q", capabilities := { tools := false } }

def spareProvider : Provider := { officeProvider with id := "s" }

/-- Two targets with tools, and one without between them. -/
def mixedRouter : Router where
  routes := []
  providers := [("p", officeProvider), ("q", plainProvider), ("s", spareProvider)]
  maxAttempts := 2

def mixedRoute : Route where
  id := "r"
  isMatch _ := true
  targets := [{ provider := "p", model := "m" }, { provider := "q", model := "m" },
    { provider := "s", model := "m" }]

def mixedTargets : List (Provider × TargetConfig) :=
  [(officeProvider, { provider := "p", model := "m" }),
    (plainProvider, { provider := "q", model := "m" }),
    (spareProvider, { provider := "s", model := "m" })]

def toolRequest : NormalizedRequest :=
  { officeCandidate.request with tools := [{ name := "weather", inputSchema := .object [] }] }

/-- One circuit is open for a while. -/
def lapse : Circuits :=
  Function.update (Locks.fresh {}) "p" { value := { failures := 5, openUntil := some 100 } }

/-- All circuits are. -/
def outage : Circuits := .fresh { failures := 5, openUntil := some 100 }

/-- A request with tools, of which one target has none and another is down, is served by the third. -/
theorem candidates_report_iff_office :
    ReportsCapabilities officeCrates (fun _ => 0) lapse toolRequest mixedTargets
      (mixedRouter.candidates officeCrates (fun _ => 0) (fun _ => 0) lapse mixedRoute
        toolRequest).2 := by
  refine (@candidates_report_iff officeCrates (fun _ => 0) (fun _ => 0) lapse toolRequest mixedRouter
    mixedRoute mixedTargets _ _ monotone_const rfl rfl).mpr ⟨by simp [mixedTargets], ?_, ?_⟩
  · rintro ⟨-, -, down⟩
    apply down ((spareProvider, { provider := "s", model := "m" }), 2)
    · simp [mixedTargets]
    · exact not_rejects_iff.mpr ⟨toolRequest, rfl⟩
    · decide
  · intro entry isEntry _
    rcases List.mem_cons.mp isEntry with rfl | isEntry
    · rfl
    · rcases List.mem_pair.mp isEntry with rfl | rfl
      · rfl
      · rfl

/-- A request with tools, of which one target has none and the others are down for a moment, is told
that it is invalid. -/
theorem outage_reported_as_invalid :
    mixedRouter.resolveTargets mixedRoute = some mixedTargets ∧
      (mixedRouter.candidates officeCrates (fun _ => 0) (fun _ => 0) outage mixedRoute
        toolRequest).2 = some (.error (.invalid "target does not support tools")) ∧
      ¬ ReportsCapabilities officeCrates (fun _ => 0) outage toolRequest mixedTargets
        (some (.error (.invalid "target does not support tools"))) := by
  refine ⟨rfl, rfl, ?_⟩
  intro reports
  have rejects := reports.invalid.mp ⟨_, rfl, rfl, rfl⟩
  obtain ⟨error, isError⟩ := rejects _ List.mem_cons_self
  have accepted : adaptRequest officeCrates officeProvider.capabilities toolRequest =
      .ok toolRequest := rfl
  rw [accepted] at isError
  cases isError

end ClaudeProxy
