/-
Module: ClaudeProxy.Proofs.Candidates
Layer: Proofs
Purpose: What the router hands to its loop. The draws rearrange the compatible targets and lose none of
  them, and each candidate is a target of the route whose provider accepted the request.
Trusted boundary: none
Main exports: weightedPriorityOrder_perm, gatherCandidates_ne_nil, FromTarget,
  gatherCandidates_fromTarget, gathered_of_candidates, candidates_fromTarget, gatherFrom_healthy,
  gatherFrom_covers
-/
import ClaudeProxy.Library.Run
import ClaudeProxy.Proofs.Reports
import ClaudeProxy.Routing
import Mathlib.Data.List.Perm.Basic

namespace ClaudeProxy

open Library

/-! ### The order of the draws -/

/-- A draw selects a position of the tier, or the first. -/
theorem selectTarget_go_lt (tier : List Candidate) (choice index : Nat) :
    selectTarget.go tier choice index < index + tier.length ∨
      selectTarget.go tier choice index = 0 := by
  induction tier generalizing choice index with
  | nil => exact .inr rfl
  | cons candidate rest inductionHypothesis =>
      unfold selectTarget.go
      split
      · left
        rw [List.length_cons]
        omega
      · rcases inductionHypothesis (choice - candidate.target.weight) (index + 1) with bound | zero
        · left
          rw [List.length_cons]
          omega
        · exact .inr zero

theorem selectTarget_lt {candidates : List Candidate} (present : candidates ≠ []) (choice : Nat) :
    selectTarget (leadingTier candidates) choice < candidates.length := by
  have lengthPos := List.length_pos_iff.mpr present
  have tierLe : (leadingTier candidates).length ≤ candidates.length :=
    (List.takeWhile_sublist _).length_le
  rcases selectTarget_go_lt (leadingTier candidates) choice 0 with bound | zero
  · unfold selectTarget
    omega
  · unfold selectTarget
    omega

/-- A draw takes one candidate out. -/
theorem length_eraseIdx_selectTarget {candidates : List Candidate} {left : Nat}
    (enough : candidates.length = left + 1) (choice : Nat) :
    (candidates.eraseIdx (selectTarget (leadingTier candidates) choice)).length = left := by
  have present : candidates ≠ [] := List.ne_nil_of_length_eq_add_one enough
  rw [List.length_eraseIdx_of_lt (selectTarget_lt present choice), enough]
  rfl

/-- With as many draws as candidates none stays behind. -/
theorem drawOrder_perm (draws : Nat → Nat) (left : Nat) (candidates : List Candidate)
    (enough : candidates.length = left) : (drawOrder draws left candidates).Perm candidates := by
  induction left generalizing candidates with
  | zero =>
      have empty := List.length_eq_zero_iff.mp enough
      subst empty
      exact List.Perm.nil
  | succ left inductionHypothesis =>
      have present : candidates ≠ [] := List.ne_nil_of_length_eq_add_one enough
      have inside := selectTarget_lt present (draws left)
      have shorter := length_eraseIdx_selectTarget enough (draws left)
      unfold drawOrder
      dsimp only
      rw [List.getElem?_eq_getElem inside]
      apply List.Perm.trans (List.Perm.cons _ (inductionHypothesis _ shorter))
      apply List.getElem_cons_eraseIdx_perm

theorem weightedPriorityOrder_perm (draws : Nat → Nat) (candidates : List Candidate) :
    (weightedPriorityOrder draws candidates).Perm candidates := by
  unfold weightedPriorityOrder
  apply List.Perm.trans (drawOrder_perm draws _ _ rfl)
  apply List.mergeSort_perm

/-! ### Candidates -/

section Gathered

variable {crates : Crates} {draws : Nat → Nat} {clock : Nat → Instant}
  {circuits circuits' : Circuits} {request : NormalizedRequest}
  {resolved : List (Provider × TargetConfig)} {candidates : List Candidate}

/-- All targets looked at, one after the other. -/
def gatherFrom (crates : Crates) (clock : Nat → Instant) (circuits : Circuits)
    (request : NormalizedRequest) (resolved : List (Provider × TargetConfig)) : Gathering :=
  resolved.zipIdx.foldl
    (fun (gathering : Gathering) entry => gathering.add crates request (clock entry.2) entry.1)
    { circuits := circuits }

theorem gatherCandidates_eq_ok :
    gatherCandidates crates draws clock circuits request resolved =
        (circuits', some (.ok candidates)) ↔
      circuits' = (gatherFrom crates clock circuits request resolved).circuits ∧
      (gatherFrom crates clock circuits request resolved).panicked = false ∧
      (gatherFrom crates clock circuits request resolved).compatible ≠ [] ∧
      candidates = weightedPriorityOrder draws
        (gatherFrom crates clock circuits request resolved).compatible := by
  unfold gatherCandidates
  dsimp only
  rw [← gatherFrom]
  cases (gatherFrom crates clock circuits request resolved).panicked with
  | true => simp
  | false =>
      cases (gatherFrom crates clock circuits request resolved).compatible with
      | nil => simp
      | cons candidate rest => simp [eq_comm]

/-- Candidates are never handed out empty. -/
theorem gatherCandidates_ne_nil
    (gathered : gatherCandidates crates draws clock circuits request resolved =
      (circuits', some (.ok candidates))) : candidates ≠ [] := by
  obtain ⟨-, -, present, rfl⟩ := gatherCandidates_eq_ok.mp gathered
  intro empty
  have same := weightedPriorityOrder_perm draws
    (gatherFrom crates clock circuits request resolved).compatible
  rw [empty] at same
  exact present same.symm.eq_nil

/-- The candidate is one of the targets, with the request as its provider accepted it. -/
def FromTarget (crates : Crates) (request : NormalizedRequest)
    (resolved : List (Provider × TargetConfig)) (candidate : Candidate) : Prop :=
  (candidate.provider, candidate.target) ∈ resolved ∧
    adaptRequest crates candidate.provider.capabilities request = .ok candidate.request

/-- A look at a target adds at most that target. -/
theorem Gathering.add_compatible (gathering : Gathering) (now : Instant)
    (entry : Provider × TargetConfig) :
    (gathering.add crates request now entry).compatible = gathering.compatible ∨
      ∃ adapted, adaptRequest crates entry.1.capabilities request = .ok adapted ∧
        (gathering.add crates request now entry).compatible = gathering.compatible ++
          [{ provider := entry.1, target := entry.2, request := adapted }] := by
  unfold Gathering.add
  split
  · exact .inl rfl
  · cases adaptRequest crates entry.1.capabilities request with
    | error error => exact .inl rfl
    | ok adapted =>
        dsimp only
        rcases entry.1.available now gathering.circuits with ⟨_ | _ | _, after⟩
        · exact .inl rfl
        · exact .inl rfl
        · exact .inr ⟨adapted, rfl, rfl⟩

/-- After a panic there are no looks. -/
theorem Gathering.add_panicked {gathering : Gathering} (isOver : gathering.panicked = true)
    (now : Instant) (entry : Provider × TargetConfig) :
    gathering.add crates request now entry = gathering := if_pos isOver

theorem Gathering.add_rejected {gathering : Gathering} {now : Instant}
    {entry : Provider × TargetConfig} {error : ProxyError}
    (rejected : adaptRequest crates entry.1.capabilities request = .error error) :
    (gathering.add crates request now entry).circuits = gathering.circuits ∧
      (gathering.add crates request now entry).compatible = gathering.compatible ∧
      (gathering.add crates request now entry).panicked = gathering.panicked := by
  unfold Gathering.add
  split
  · exact ⟨rfl, rfl, rfl⟩
  · rw [rejected]
    exact ⟨rfl, rfl, rfl⟩

/-- A target that accepts the request is looked at, where its lock is healthy. -/
theorem Gathering.add_accepted {gathering : Gathering} {now : Instant}
    {entry : Provider × TargetConfig} {adapted : NormalizedRequest}
    (running : gathering.panicked = false)
    (healthy : (gathering.circuits entry.1.id).poisoned = false)
    (accepted : adaptRequest crates entry.1.capabilities request = .ok adapted) :
    gathering.add crates request now entry =
      { gathering with
        circuits := Function.update gathering.circuits entry.1.id
          { value := ((gathering.circuits entry.1.id).value.available now).2 }
        compatible :=
          if ((gathering.circuits entry.1.id).value.available now).1 = true then
            gathering.compatible ++ [{ provider := entry.1, target := entry.2, request := adapted }]
          else gathering.compatible } := by
  unfold Gathering.add
  rw [if_neg (by simp [running]), accepted]
  dsimp only
  rw [Provider.available_of_healthy healthy]
  dsimp only
  split <;> rfl

/-- Where the lock is poisoned the look panics. -/
theorem Gathering.add_poisoned {gathering : Gathering} {now : Instant}
    {entry : Provider × TargetConfig} {adapted : NormalizedRequest}
    (poisoned : (gathering.circuits entry.1.id).poisoned = true)
    (accepted : adaptRequest crates entry.1.capabilities request = .ok adapted) :
    (gathering.add crates request now entry).panicked = true := by
  unfold Gathering.add
  split
  · rename_i isOver
    exact isOver
  · rw [accepted]
    dsimp only
    rw [Provider.available_of_poisoned poisoned]

/-- A look panics at no healthy lock, and poisons none. -/
theorem Gathering.add_healthy {gathering : Gathering} (running : gathering.panicked = false)
    (healthy : gathering.circuits.Healthy) (now : Instant) (entry : Provider × TargetConfig) :
    (gathering.add crates request now entry).panicked = false ∧
      (gathering.add crates request now entry).circuits.Healthy := by
  cases adaptedEq : adaptRequest crates entry.1.capabilities request with
  | error error =>
      obtain ⟨sameCircuits, -, samePanicked⟩ := @Gathering.add_rejected crates request gathering now
        entry error adaptedEq
      rw [sameCircuits, samePanicked]
      exact ⟨running, healthy⟩
  | ok adapted =>
      rw [add_accepted running (healthy entry.1.id) adaptedEq]
      refine ⟨running, fun other => ?_⟩
      dsimp only
      by_cases here : other = entry.1.id
      · rw [here, Function.update_self]
      · rw [Function.update_of_ne here]
        exact healthy other

/-- On healthy locks the look at the targets does not panic. -/
theorem gatherFrom_healthy (healthy : circuits.Healthy) :
    (gatherFrom crates clock circuits request resolved).panicked = false ∧
      (gatherFrom crates clock circuits request resolved).circuits.Healthy := by
  refine foldl_invariant
    (fun gathering : Gathering => gathering.panicked = false ∧ gathering.circuits.Healthy) ?_ _
    ⟨rfl, healthy⟩
  rintro gathering entry ⟨running, holds⟩
  exact gathering.add_healthy running holds (clock entry.2) entry.1

theorem gatherCandidates_healthy (healthy : circuits.Healthy) :
    ∃ outcome after, gatherCandidates crates draws clock circuits request resolved =
      (after, some outcome) ∧ after.Healthy := by
  obtain ⟨running, after⟩ := @gatherFrom_healthy crates clock circuits request resolved healthy
  unfold gatherCandidates
  dsimp only
  rw [← gatherFrom, if_neg (by rw [running]; exact Bool.false_ne_true)]
  split
  · exact ⟨_, _, rfl, after⟩
  · exact ⟨_, _, rfl, after⟩

theorem foldl_add_fromTarget (entries : List ((Provider × TargetConfig) × Nat))
    (members : ∀ entry ∈ entries, entry.1 ∈ resolved) (gathering : Gathering)
    (sound : ∀ candidate ∈ gathering.compatible, FromTarget crates request resolved candidate) :
    ∀ candidate ∈ (entries.foldl (fun (gathering : Gathering) entry =>
      gathering.add crates request (clock entry.2) entry.1) gathering).compatible,
      FromTarget crates request resolved candidate := by
  induction entries generalizing gathering with
  | nil => exact sound
  | cons entry rest inductionHypothesis =>
      rw [List.forall_mem_cons] at members
      apply inductionHypothesis members.2
      intro candidate isCandidate
      rcases gathering.add_compatible (clock entry.2) entry.1 with same | ⟨adapted, accepted, more⟩
      · rw [same] at isCandidate
        exact sound candidate isCandidate
      · rw [more] at isCandidate
        rcases List.mem_append.mp isCandidate with before | here
        · exact sound candidate before
        · rw [List.mem_singleton.mp here]
          exact ⟨members.1, accepted⟩

theorem gatherCandidates_fromTarget
    (gathered : gatherCandidates crates draws clock circuits request resolved =
      (circuits', some (.ok candidates))) {candidate : Candidate} (isCandidate : candidate ∈ candidates) :
    FromTarget crates request resolved candidate := by
  obtain ⟨-, -, -, rfl⟩ := gatherCandidates_eq_ok.mp gathered
  have compatible := (weightedPriorityOrder_perm draws _).mem_iff.mp isCandidate
  refine foldl_add_fromTarget resolved.zipIdx ?_ { circuits := circuits } ?_ candidate compatible
  · intro entry isEntry
    exact List.fst_mem_of_mem_zipIdx isEntry
  · intro other impossible
    cases impossible

/-! ### The candidates of a router -/

section Router

variable {router : Router} {route : Route}

theorem candidates_of_resolved (resolvedEq : router.resolveTargets route = some resolved) :
    router.candidates crates draws clock circuits route request =
      gatherCandidates crates draws clock circuits request resolved := by
  unfold Router.candidates
  rw [resolvedEq]

/-- A router that has candidates has gathered them from the targets of the route. -/
theorem gathered_of_candidates
    (gathered : router.candidates crates draws clock circuits route request =
      (circuits', some (.ok candidates))) :
    ∃ resolved, router.resolveTargets route = some resolved ∧
      gatherCandidates crates draws clock circuits request resolved =
        (circuits', some (.ok candidates)) := by
  unfold Router.candidates at gathered
  cases resolvedEq : router.resolveTargets route with
  | none =>
      rw [resolvedEq] at gathered
      cases gathered
  | some resolved =>
      rw [resolvedEq] at gathered
      exact ⟨resolved, rfl, gathered⟩

theorem candidates_ne_nil
    (gathered : router.candidates crates draws clock circuits route request =
      (circuits', some (.ok candidates))) : candidates ≠ [] := by
  obtain ⟨resolved, -, gatheredHere⟩ := gathered_of_candidates gathered
  exact gatherCandidates_ne_nil gatheredHere

/-- Each candidate comes from a target of the route. -/
theorem candidates_fromTarget
    (gathered : router.candidates crates draws clock circuits route request =
      (circuits', some (.ok candidates))) {candidate : Candidate}
    (isCandidate : candidate ∈ candidates) :
    ∃ resolved, router.resolveTargets route = some resolved ∧
      FromTarget crates request resolved candidate := by
  obtain ⟨resolved, resolvedEq, gatheredHere⟩ := gathered_of_candidates gathered
  exact ⟨resolved, resolvedEq, gatherCandidates_fromTarget gatheredHere isCandidate⟩

end Router

/-! ### A request that is accepted more widely -/

/-- Each candidate of the first list has its target in the second. -/
def Covers (first second : List Candidate) : Prop :=
  ∀ candidate ∈ first, ∃ other ∈ second,
    other.provider = candidate.provider ∧ other.target = candidate.target

/-- The second request is accepted wherever the first is. -/
def AcceptedWith (crates : Crates) (request wider : NormalizedRequest) : Prop :=
  ∀ capabilities adapted, adaptRequest crates capabilities request = .ok adapted →
    ∃ other, adaptRequest crates capabilities wider = .ok other

/-- Two looks at the targets, side by side and on healthy locks: where the first request is accepted the
circuits have seen the same, and what the first has gathered is covered. -/
structure Alongside (crates : Crates) (request : NormalizedRequest)
    (resolved : List (Provider × TargetConfig)) (first second : Gathering) : Prop where
  running : first.panicked = false ∧ second.panicked = false
  healthy : first.circuits.Healthy ∧ second.circuits.Healthy
  circuits : ∀ entry ∈ resolved, (∃ adapted, adaptRequest crates entry.1.capabilities request =
    .ok adapted) → first.circuits entry.1.id = second.circuits entry.1.id
  covered : Covers first.compatible second.compatible

theorem Covers.append {first second : List Candidate} (covers : Covers first second)
    (more : List Candidate) : Covers first (second ++ more) := by
  intro candidate member
  obtain ⟨other, isOther, same⟩ := covers candidate member
  exact ⟨other, List.mem_append_left _ isOther, same⟩

variable {wider : NormalizedRequest}

/-- Both look at the same target. A target that only the second request suits has another provider
than all that suit the first, so its circuit is none of theirs. -/
theorem Alongside.add (acceptedWith : AcceptedWith crates request wider)
    (sameProvider : ∀ entry ∈ resolved, ∀ other ∈ resolved, entry.1.id = other.1.id →
      entry.1 = other.1) {first second : Gathering}
    (alongside : Alongside crates request resolved first second) (now : Instant)
    {entry : Provider × TargetConfig} (isEntry : entry ∈ resolved) :
    Alongside crates request resolved (first.add crates request now entry)
      (second.add crates wider now entry) := by
  obtain ⟨⟨firstRunning, secondRunning⟩, ⟨firstHealthy, secondHealthy⟩, sameCircuit, covered⟩ :=
    alongside
  have firstAfter := @Gathering.add_healthy crates request first firstRunning firstHealthy now entry
  have secondAfter := @Gathering.add_healthy crates wider second secondRunning secondHealthy now entry
  refine ⟨⟨firstAfter.1, secondAfter.1⟩, ⟨firstAfter.2, secondAfter.2⟩, ?_, ?_⟩
  · intro other isOther suits
    cases adaptedEq : adaptRequest crates entry.1.capabilities request with
    | error error =>
        have elsewhere : other.1.id ≠ entry.1.id := by
          intro sameId
          obtain ⟨adapted, accepted⟩ := suits
          rw [sameProvider other isOther entry isEntry sameId, adaptedEq] at accepted
          cases accepted
        rw [(Gathering.add_rejected adaptedEq).1, sameCircuit other isOther suits]
        cases widerEq : adaptRequest crates entry.1.capabilities wider with
        | error error => rw [(Gathering.add_rejected widerEq).1]
        | ok adapted =>
            rw [Gathering.add_accepted secondRunning (secondHealthy _) widerEq]
            exact (Function.update_of_ne elsewhere _ _).symm
    | ok adapted =>
        obtain ⟨widened, widerEq⟩ := acceptedWith _ _ adaptedEq
        rw [Gathering.add_accepted firstRunning (firstHealthy _) adaptedEq,
          Gathering.add_accepted secondRunning (secondHealthy _) widerEq,
          sameCircuit entry isEntry ⟨adapted, adaptedEq⟩]
        dsimp only
        by_cases sameId : other.1.id = entry.1.id
        · rw [sameId, Function.update_self, Function.update_self]
        · rw [Function.update_of_ne sameId, Function.update_of_ne sameId]
          exact sameCircuit other isOther suits
  · cases adaptedEq : adaptRequest crates entry.1.capabilities request with
    | error error =>
        rw [(Gathering.add_rejected adaptedEq).2.1]
        rcases @Gathering.add_compatible crates wider second now entry with same | ⟨_, -, more⟩
        · rw [same]
          exact covered
        · rw [more]
          exact covered.append _
    | ok adapted =>
        obtain ⟨widened, widerEq⟩ := acceptedWith _ _ adaptedEq
        rw [Gathering.add_accepted firstRunning (firstHealthy _) adaptedEq,
          Gathering.add_accepted secondRunning (secondHealthy _) widerEq,
          sameCircuit entry isEntry ⟨adapted, adaptedEq⟩]
        dsimp only
        split
        · intro candidate isCandidate
          rcases List.mem_append.mp isCandidate with before | here
          · exact covered.append _ candidate before
          · rw [List.mem_singleton.mp here]
            exact ⟨_, List.mem_append_right _ List.mem_cons_self, rfl, rfl⟩
        · exact covered

/-- What is gathered for a request is covered by what is gathered for one that is accepted more
widely. -/
theorem gatherFrom_covers (healthy : circuits.Healthy)
    (acceptedWith : AcceptedWith crates request wider)
    (sameProvider : ∀ entry ∈ resolved, ∀ other ∈ resolved, entry.1.id = other.1.id →
      entry.1 = other.1) :
    Covers (gatherFrom crates clock circuits request resolved).compatible
      (gatherFrom crates clock circuits wider resolved).compatible := by
  have run : ∀ entries : List ((Provider × TargetConfig) × Nat),
      (∀ entry ∈ entries, entry.1 ∈ resolved) → ∀ first second : Gathering,
      Alongside crates request resolved first second →
      Alongside crates request resolved
        (entries.foldl (fun (gathering : Gathering) entry =>
          gathering.add crates request (clock entry.2) entry.1) first)
        (entries.foldl (fun (gathering : Gathering) entry =>
          gathering.add crates wider (clock entry.2) entry.1) second) := by
    intro entries
    induction entries with
    | nil => exact fun _ _ _ alongside => alongside
    | cons entry rest inductionHypothesis =>
        intro members first second alongside
        rw [List.forall_mem_cons] at members
        apply inductionHypothesis members.2
        exact alongside.add acceptedWith sameProvider (clock entry.2) members.1
  have together := run resolved.zipIdx (fun entry isEntry => List.fst_mem_of_mem_zipIdx isEntry)
    { circuits := circuits } { circuits := circuits }
    { running := ⟨rfl, rfl⟩
      healthy := ⟨healthy, healthy⟩
      circuits := fun _ _ _ => rfl
      covered := fun candidate impossible => nomatch impossible }
  exact together.covered

end Gathered

end ClaudeProxy
