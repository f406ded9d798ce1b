/-
Module: ClaudeProxy.Proofs.ClientIsolation
Layer: Proofs
Purpose: What the clients of a runtime notice of each other. In every run of the whole service, on each
  runtime, the limiter, the permits and the requests of one client are those of an admission that makes
  only the moves of the client's own requests, where a request that finds no global permit simply
  leaves.
Trusted boundary: none
Main exports: Generation.ofClient, Admissions.PartOf, Admissions.PartOf.advanced_own,
  ApiCall.clientAfter, ApiCall.ownMoves, ownAnswers, GuardsClient, clients_isolated
-/
import ClaudeProxy.Proofs.ServiceAdmissions

namespace ClaudeProxy

open Library

/-! ### The part of a client -/

def Visit.isOf (client : Nat) (visit : Visit) : Bool := visit.client = client

/-- What of a runtime belongs to a client. -/
def Generation.ofClient (client : Nat) (generation : Generation) :
    ClientLimits × List Instant × List Instant :=
  (generation.limits.clients client, generation.passed client, generation.evicted client)

/-- The second state has of the first the clock, what belongs to a client, and the client's requests,
in order. -/
structure Admissions.PartOf (client : Nat) (state own : Admissions) : Prop where
  clock : own.clock = state.clock
  generations : own.generations.map (Generation.ofClient client) =
    state.generations.map (Generation.ofClient client)
  visits : own.visits = part (Visit.isOf client) id state.visits

/-- Moves at which only this client sends requests. -/
def OnlyClient (client : Nat) (moves : List AdmissionMove) : Prop :=
  ∀ move ∈ moves, ∀ other endpoint, move = .arrive other endpoint → other = client

section Isolation

variable {registry : AuthRegistry} {globalConcurrency client index : Nat} {state own : Admissions}
  {visit : Visit} {identity : ClientIdentity} {generation alone : Generation}

/-! ### One request of the client -/

theorem ofClient_inj (same : alone.ofClient client = generation.ofClient client) :
    alone.limits.clients client = generation.limits.clients client ∧
      alone.passed client = generation.passed client ∧
      alone.evicted client = generation.evicted client := by
  obtain ⟨limits, rest⟩ := Prod.mk.inj same
  obtain ⟨passed, evicted⟩ := Prod.mk.inj rest
  exact ⟨limits, passed, evicted⟩

/-- The rate check sees nothing of other clients. -/
theorem checkRate_ofClient (same : alone.ofClient client = generation.ofClient client)
    (now : Instant) :
    (alone.checkRate identity client now).1 = (generation.checkRate identity client now).1 ∧
      (alone.checkRate identity client now).2.ofClient client =
        (generation.checkRate identity client now).2.ofClient client := by
  obtain ⟨limits, passed, evicted⟩ := ofClient_inj same
  simp [Generation.checkRate, Generation.ofClient, Generation.expired, limits, passed, evicted]

/-- The permit of a client depends on this client alone. -/
theorem acquirePermit_ofClient (same : alone.ofClient client = generation.ofClient client) :
    (alone.acquirePermit client).1 = (generation.acquirePermit client).1 ∧
      (alone.acquirePermit client).2.ofClient client =
        (generation.acquirePermit client).2.ofClient client := by
  obtain ⟨limits, passed, evicted⟩ := ofClient_inj same
  simp [Generation.acquirePermit, Generation.ofClient, limits, passed, evicted]

/-- So does its return. -/
theorem releasePermit_ofClient (same : alone.ofClient client = generation.ofClient client) :
    (alone.releasePermit client).ofClient client =
      (generation.releasePermit client).ofClient client := by
  obtain ⟨limits, passed, evicted⟩ := ofClient_inj same
  simp [Generation.releasePermit, Generation.ofClient, Limits.releasePermit, limits, passed, evicted]

/-- So does all that a request of the client gives back. -/
theorem release_ofClient (isOwn : visit.client = client)
    (same : alone.ofClient client = generation.ofClient client) :
    (alone.release visit).ofClient client = (generation.release visit).ofClient client := by
  unfold Generation.release
  subst isOwn
  split
  · split
    · exact releasePermit_ofClient same
    · exact same
  · split
    · exact releasePermit_ofClient same
    · exact same

/-- A step for which there is a global permit, if it needs one, is the same step without the others. -/
theorem advance_ofClient (isOwn : visit.client = client)
    (same : alone.ofClient client = generation.ofClient client) (clock : Instant)
    (served : visit.stage = .permitted → visit.endpoint = .messages →
      generation.limits.global ≠ 0 ∧ alone.limits.global ≠ 0) :
    (visit.advance identity clock alone).1 = (visit.advance identity clock generation).1 ∧
      (visit.advance identity clock alone).2.ofClient client =
        (visit.advance identity clock generation).2.ofClient client := by
  subst isOwn
  cases stage : visit.stage with
  | arrived =>
      simp only [Visit.advance, stage]
      exact ⟨trivial, same⟩
  | timed now =>
      have checked := @checkRate_ofClient visit.client identity generation alone same now
      simp only [Visit.advance, stage]
      revert checked
      rcases alone.checkRate identity visit.client now with ⟨_ | _, after⟩ <;>
        rcases generation.checkRate identity visit.client now with ⟨_ | _, later⟩ <;>
        simp
  | counted =>
      have acquired := acquirePermit_ofClient same
      simp only [Visit.advance, stage]
      revert acquired
      rcases alone.acquirePermit visit.client with ⟨_ | _, after⟩ <;>
        rcases generation.acquirePermit visit.client with ⟨_ | _, later⟩ <;>
        simp
  | permitted =>
      cases endpoint : visit.endpoint with
      | countTokens =>
          simp only [Visit.advance, stage, endpoint]
          exact ⟨trivial, same⟩
      | messages =>
          obtain ⟨free, freeAlone⟩ := served stage endpoint
          simp only [Visit.advance, stage, endpoint, Generation.acquireGlobal, Limits.acquireGlobal,
            if_neg free, if_neg freeAlone]
          exact ⟨trivial, same⟩
  | admitted =>
      simp only [Visit.advance, stage]
      exact ⟨trivial, same⟩

/-- A request for which there is no global permit leaves. -/
theorem advance_crowded (isOwn : visit.client = client)
    (same : alone.ofClient client = generation.ofClient client) (clock : Instant)
    (stage : visit.stage = .permitted) (endpoint : visit.endpoint = .messages)
    (crowded : generation.limits.global = 0) :
    (visit.advance identity clock generation).1 = none ∧
      (alone.release visit).ofClient client =
        (visit.advance identity clock generation).2.ofClient client := by
  subst isOwn
  have holds : visit.holdsPermit = true ∧ visit.holdsGlobal = false := by
    simp [Visit.holdsPermit, Visit.holdsGlobal, stage]
  simp only [Visit.advance, stage, endpoint, Generation.acquireGlobal, Limits.acquireGlobal,
    if_pos crowded, Generation.release, holds]
  exact ⟨trivial, releasePermit_ofClient same⟩

/-! ### One request of another client -/

/-- A rate check of another client leaves this one as it is. -/
theorem checkRate_ofOther {other : Nat} (different : client ≠ other) (now : Instant) :
    (generation.checkRate identity other now).2.ofClient client = generation.ofClient client := by
  simp [Generation.ofClient, Generation.checkRate, Limits.set_of_ne different, different]

/-- So does a permit of another client. -/
theorem acquirePermit_ofOther {other : Nat} (different : client ≠ other) :
    (generation.acquirePermit other).2.ofClient client = generation.ofClient client := by
  simp [Generation.ofClient, Generation.acquirePermit, Limits.set_of_ne different]

theorem releasePermit_ofOther {other : Nat} (different : client ≠ other) :
    (generation.releasePermit other).ofClient client = generation.ofClient client := by
  simp [Generation.ofClient, Generation.releasePermit, Limits.releasePermit,
    Limits.set_of_ne different]

/-- The global permits belong to no client. -/
theorem acquireGlobal_ofClient : generation.acquireGlobal.2.ofClient client =
    generation.ofClient client := by
  by_cases none : generation.limits.global = 0
  · simp [Generation.ofClient, Generation.acquireGlobal, Limits.acquireGlobal, none]
  · simp [Generation.ofClient, Generation.acquireGlobal, Limits.acquireGlobal, none]

/-- So does all that a request of another client gives back. -/
theorem release_ofOther (isOther : client ≠ visit.client) :
    (generation.release visit).ofClient client = generation.ofClient client := by
  unfold Generation.release
  split
  · split
    · exact releasePermit_ofOther isOther
    · rfl
  · split
    · exact releasePermit_ofOther isOther
    · rfl

/-- So a step of another client's request is none for this one. -/
theorem advance_ofOther (isOther : client ≠ visit.client) (clock : Instant) :
    (visit.advance identity clock generation).2.ofClient client = generation.ofClient client := by
  cases stage : visit.stage with
  | arrived => simp only [Visit.advance, stage]
  | timed now =>
      have checked := @checkRate_ofOther client identity generation _ isOther now
      simp only [Visit.advance, stage]
      revert checked
      rcases generation.checkRate identity visit.client now with ⟨_ | _, after⟩ <;> exact id
  | counted =>
      have acquired := @acquirePermit_ofOther client generation _ isOther
      simp only [Visit.advance, stage]
      revert acquired
      rcases generation.acquirePermit visit.client with ⟨_ | _, after⟩ <;> exact id
  | permitted =>
      cases endpoint : visit.endpoint with
      | countTokens => simp only [Visit.advance, stage, endpoint]
      | messages =>
          have acquired := @acquireGlobal_ofClient client generation
          simp only [Visit.advance, stage, endpoint]
          revert acquired
          rcases generation.acquireGlobal with ⟨_ | _, after⟩
          · exact fun same => (releasePermit_ofOther isOther).trans same
          · exact id
  | admitted => simp only [Visit.advance, stage]

/-! ### One move -/

/-- A step of the client's request is made in the part as well. -/
theorem Admissions.PartOf.settle (partOf : state.PartOf client own)
    (isVisit : state.visits[index]? = some visit) (isOwn : visit.client = client)
    (next : Option Stage) {later laterAlone : Generation}
    (same : laterAlone.ofClient client = later.ofClient client) :
    (state.settle index visit next later).PartOf client
      (own.settle (place (Visit.isOf client) index state.visits) visit next laterAlone) := by
  obtain ⟨clock, generations, visits⟩ := partOf
  have kept : ∀ stage, Visit.isOf client { visit with stage := stage } = true := fun stage =>
    decide_eq_true isOwn
  constructor
  · exact clock
  · simp only [Admissions.settle, List.map_set, generations, same]
  · cases next with
    | none =>
        simp only [Admissions.settle, visits]
        exact (part_eraseIdx _ _ isVisit (kept visit.stage)).symm
    | some stage =>
        simp only [Admissions.settle, visits]
        exact (part_set _ _ isVisit (kept visit.stage) (kept stage)).symm

/-- A step of another request leaves the part as it is. -/
theorem Admissions.PartOf.settle_other (partOf : state.PartOf client own)
    (isVisit : state.visits[index]? = some visit) (isOther : client ≠ visit.client)
    (isGeneration : state.generations[visit.generation]? = some generation) (next : Option Stage)
    {later : Generation} (same : later.ofClient client = generation.ofClient client) :
    (state.settle index visit next later).PartOf client own := by
  obtain ⟨clock, generations, visits⟩ := partOf
  have notKept : ∀ stage, Visit.isOf client { visit with stage := stage } = false := fun stage =>
    decide_eq_false (Ne.symm isOther)
  constructor
  · exact clock
  · obtain ⟨bound, rfl⟩ := List.getElem?_eq_some_iff.mp isGeneration
    have unchanged : (state.generations.map (Generation.ofClient client)).set visit.generation
        (later.ofClient client) = state.generations.map (Generation.ofClient client) := by
      rw [same, ← List.map_set, List.set_getElem_self]
    simp only [Admissions.settle, List.map_set, unchanged, generations]
  · cases next with
    | none =>
        rw [visits]
        exact (part_eraseIdx_of_not _ _ isVisit (notKept visit.stage)).symm
    | some stage =>
        rw [visits]
        exact (part_set_of_not _ _ isVisit (notKept visit.stage) (notKept stage)).symm

/-- The place of a request of the client among the client's own. -/
theorem Admissions.PartOf.find (partOf : state.PartOf client own) (isOwn : visit.client = client)
    (found : state.find registry index = some (visit, identity, generation)) :
    ∃ alone, own.find registry (place (Visit.isOf client) index state.visits) =
        some (visit, identity, alone) ∧
      own.generations[visit.generation]? = some alone ∧
      alone.ofClient client = generation.ofClient client := by
  obtain ⟨isVisit, isIdentity, isGeneration⟩ := find_eq_some found
  have isHere : own.visits[place (Visit.isOf client) index state.visits]? = some visit := by
    rw [partOf.visits]
    exact part_getElem? _ _ isVisit (decide_eq_true isOwn)
  have parts := congrArg (·[visit.generation]?) partOf.generations
  simp only [List.getElem?_map, isGeneration, Option.map_some, Option.map_eq_some_iff] at parts
  obtain ⟨alone, isAlone, same⟩ := parts
  exact ⟨alone, by simp [Admissions.find, isHere, isIdentity, isAlone], isAlone, same⟩

/-- Where there is a global permit, there is one without the other clients. -/
theorem Admissions.PartOf.free {number : Nat} (partOf : state.PartOf client own)
    (sound : PermitsSound registry globalConcurrency state)
    (soundAlone : PermitsSound registry globalConcurrency own)
    (isGeneration : state.generations[number]? = some generation)
    (isAlone : own.generations[number]? = some alone) (free : generation.limits.global ≠ 0) :
    alone.limits.global ≠ 0 := by
  have all := (sound.balanced number generation isGeneration).global
  have ours := (soundAlone.balanced number alone isAlone).global
  have fewer : own.inFlightGlobal number ≤ state.inFlightGlobal number := by
    unfold Admissions.inFlightGlobal
    rw [partOf.visits, part, List.map_id]
    exact List.filter_sublist.countP_le
  omega

/-- The client's request leaves the part when it leaves. -/
theorem Admissions.PartOf.left_own (partOf : state.PartOf client own) (isOwn : visit.client = client)
    (found : state.find registry index = some (visit, identity, generation)) :
    (state.step registry globalConcurrency (.leave index)).PartOf client
      (own.step registry globalConcurrency
        (.leave (place (Visit.isOf client) index state.visits))) := by
  obtain ⟨isVisit, _, _⟩ := find_eq_some found
  obtain ⟨alone, isHere, _, same⟩ := partOf.find isOwn found
  simp only [Admissions.step, found, isHere]
  exact partOf.settle isVisit isOwn none (release_ofClient isOwn same)

/-- Another one leaves without a trace in the part. -/
theorem Admissions.PartOf.left_other (partOf : state.PartOf client own)
    (isOther : visit.client ≠ client)
    (found : state.find registry index = some (visit, identity, generation)) :
    (state.step registry globalConcurrency (.leave index)).PartOf client own := by
  obtain ⟨isVisit, _, isGeneration⟩ := find_eq_some found
  simp only [Admissions.step, found]
  exact partOf.settle_other isVisit (Ne.symm isOther) isGeneration none
    (release_ofOther (Ne.symm isOther))

/-- The next step of a request of the client: if it finds no global permit, it leaves. -/
theorem Admissions.PartOf.advanced_own (partOf : state.PartOf client own)
    (sound : PermitsSound registry globalConcurrency state)
    (soundAlone : PermitsSound registry globalConcurrency own) (isOwn : visit.client = client)
    (found : state.find registry index = some (visit, identity, generation)) :
    (state.step registry globalConcurrency (.advance index)).PartOf client
      (own.step registry globalConcurrency
        (if visit.stage = .permitted ∧ visit.endpoint = .messages ∧ generation.limits.global = 0 then
          .leave (place (Visit.isOf client) index state.visits)
        else .advance (place (Visit.isOf client) index state.visits))) := by
  obtain ⟨isVisit, _, isGeneration⟩ := find_eq_some found
  obtain ⟨alone, isHere, isAlone, same⟩ := partOf.find isOwn found
  by_cases crowded : visit.stage = .permitted ∧ visit.endpoint = .messages ∧
      generation.limits.global = 0
  · rw [if_pos crowded]
    obtain ⟨stage, endpoint, noPermit⟩ := crowded
    obtain ⟨refused, released⟩ := @advance_crowded client visit identity generation alone
      isOwn same state.clock stage endpoint noPermit
    simp only [Admissions.step, found, isHere, refused]
    exact partOf.settle isVisit isOwn none released
  · rw [if_neg crowded]
    have served : visit.stage = .permitted → visit.endpoint = .messages →
        generation.limits.global ≠ 0 ∧ alone.limits.global ≠ 0 := by
      intro stage endpoint
      have free : generation.limits.global ≠ 0 := fun none => crowded ⟨stage, endpoint, none⟩
      exact ⟨free, partOf.free sound soundAlone isGeneration isAlone free⟩
    obtain ⟨sameNext, sameAfter⟩ := @advance_ofClient client visit identity generation alone
      isOwn same state.clock served
    simp only [Admissions.step, found, isHere, partOf.clock, sameNext]
    exact partOf.settle isVisit isOwn _ sameAfter

/-- Another one's step leaves none either. -/
theorem Admissions.PartOf.advanced_other (partOf : state.PartOf client own)
    (isOther : visit.client ≠ client)
    (found : state.find registry index = some (visit, identity, generation)) :
    (state.step registry globalConcurrency (.advance index)).PartOf client own := by
  obtain ⟨isVisit, _, isGeneration⟩ := find_eq_some found
  simp only [Admissions.step, found]
  exact partOf.settle_other isVisit (Ne.symm isOther) isGeneration _
    (advance_ofOther (Ne.symm isOther) state.clock)

theorem permitsSound_run (moves : List AdmissionMove)
    (sound : PermitsSound registry globalConcurrency state) :
    PermitsSound registry globalConcurrency
      (moves.foldl (Admissions.step registry globalConcurrency) state) :=
  foldl_invariant (PermitsSound registry globalConcurrency)
    (fun _ move sound => permitsSound_step move sound) moves sound

/-! ### The moves of a client -/

/-- The client of a request after a step with this result, if it has been identified. -/
def ApiCall.clientAfter (result : StepResult) (call : ApiCall) : Option Nat :=
  match call.visit, result with
  | some visit, _ => some visit.client
  | none, .goesOn (.timed client _) => some client
  | none, _ => none

/-- What a step with this result is in the admission of its client alone. A request that finds no global
permit leaves. -/
def ApiCall.ownMoves (live : LiveRuntime) (result : StepResult) (position : Nat) (call : ApiCall) :
    List AdmissionMove :=
  match call.phase, call.request.endpoint with
  | .permitted _, .messages =>
      if live.limits.global = 0 then [.leave position] else [.advance position]
  | _, _ => call.admissionMoves result position

/-- The answers of the admission of a client alone: only the client's own requests are answered. -/
def ownAnswers (crates : Crates) (environment : Environment) (order : IterationOrder)
    (hashKey : String → Digest) (errors : JsonErrors) (client : Nat) :
    RuntimeAnswers Admissions AdmissionMove where
  ticked elapsed := [.tick elapsed]
  stepped clock live call around own moves :=
    let result := (call.phase.advance crates environment order hashKey errors call.request clock around
      live).1
    if call.clientAfter result = some client then
      ∃ position, call.VisitsAt position own ∧ moves = call.ownMoves live result position
    else moves = []
  left call own moves :=
    if call.visit.any (Visit.isOf client) = true then
      ∃ position, call.VisitsAt position own ∧ moves = call.admissionDeparture position
    else moves = []

/-! ### One step of the service -/

/-- Where a request of the client stands in the part of the client. -/
theorem Admissions.PartOf.visitsAt {call : ApiCall} {position : Nat}
    (partOf : state.PartOf client own) (isVisit : call.visit = some visit)
    (isOwn : visit.client = client) (visitsAt : call.VisitsAt position state) :
    call.VisitsAt (place (Visit.isOf client) position state.visits) own := by
  unfold ApiCall.VisitsAt at visitsAt ⊢
  rw [isVisit] at visitsAt ⊢
  dsimp only at visitsAt ⊢
  rw [partOf.visits]
  exact part_getElem? _ _ visitsAt (decide_eq_true isOwn)

section Service

variable {crates : Crates} {environment : Environment} {order : IterationOrder}
  {hashKey : String → Digest} {errors : JsonErrors} {clock : Instant} {calls : List ApiCall}
  {call : ApiCall} {live : LiveRuntime} {limits : Limits} {position : Nat}

/-- A request in the admission, with its client and the limits. -/
theorem Guards.find (guards : Guards registry clock calls limits state)
    (isVisit : call.visit = some visit) (visitsAt : call.VisitsAt position state) :
    ∃ identity generation, state.find registry position = some (visit, identity, generation) ∧
      generation.limits = limits := by
  unfold ApiCall.VisitsAt at visitsAt
  rw [isVisit] at visitsAt
  dsimp only at visitsAt
  obtain ⟨_, ⟨generation, isAlone, sameLimits⟩, visits, registered⟩ := guards
  obtain ⟨identity, isIdentity⟩ := registered visit (List.mem_of_getElem? visitsAt)
  have first := visit_generation isVisit
  exact ⟨identity, generation, by simp [Admissions.find, visitsAt, isIdentity, isAlone, first],
    sameLimits⟩

/-- A step of a request of the client, in the part of the client. -/
theorem own_follows (guards : Guards registry clock calls live.limits state)
    (partOf : state.PartOf client own) (sound : PermitsSound registry globalConcurrency state)
    (soundAlone : PermitsSound registry globalConcurrency own) (isVisit : call.visit = some visit)
    (isOwn : visit.client = client) (visitsAt : call.VisitsAt position state) (result : StepResult) :
    ((call.admissionMoves result position).foldl (Admissions.step registry globalConcurrency)
        state).PartOf client
      ((call.ownMoves live result (place (Visit.isOf client) position state.visits)).foldl
        (Admissions.step registry globalConcurrency) own) := by
  obtain ⟨identity, generation, found, sameLimits⟩ := guards.find isVisit visitsAt
  have advanced := partOf.advanced_own sound soundAlone isOwn found
  have left := @Admissions.PartOf.left_own registry globalConcurrency client position state own visit
    identity generation partOf isOwn found
  rw [sameLimits] at advanced
  obtain ⟨request, number, phase⟩ := call
  cases phase with
  | arrived => cases isVisit
  | timed _ now =>
      cases isVisit
      simpa [ApiCall.admissionMoves, ApiCall.ownMoves] using advanced
  | counted _ =>
      cases isVisit
      simpa [ApiCall.admissionMoves, ApiCall.ownMoves] using advanced
  | permitted _ =>
      cases isVisit
      cases endpoint : request.endpoint with
      | messages =>
          simp only [endpoint, true_and] at advanced
          simp only [ApiCall.admissionMoves, ApiCall.ownMoves, endpoint]
          split at advanced
          · rename_i crowded
            rw [if_pos crowded]
            exact advanced
          · rename_i free
            rw [if_neg free]
            exact advanced
      | countTokens =>
          simp only [ApiCall.admissionMoves, ApiCall.ownMoves, endpoint]
          cases result with
          | goesOn next => exact partOf
          | ends outcome => exact left
  | admitted _ =>
      simp only [ApiCall.admissionMoves, ApiCall.ownMoves]
      cases result with
      | goesOn next => exact partOf
      | ends outcome => exact left
  | executing _ routed candidates failures =>
      simp only [ApiCall.admissionMoves, ApiCall.ownMoves]
      cases result with
      | goesOn next => exact partOf
      | ends outcome => exact left
  | opening _ routed inputTokens candidates failures =>
      simp only [ApiCall.admissionMoves, ApiCall.ownMoves]
      cases result with
      | goesOn next => exact partOf
      | ends outcome => exact left
  | reading _ routed inputTokens candidate events =>
      simp only [ApiCall.admissionMoves, ApiCall.ownMoves]
      cases result with
      | goesOn next => exact partOf
      | ends outcome => exact left

/-- A step of a request of another client changes nothing. -/
theorem other_follows (guards : Guards registry clock calls limits state)
    (partOf : state.PartOf client own) (isVisit : call.visit = some visit)
    (isOther : visit.client ≠ client) (visitsAt : call.VisitsAt position state)
    (result : StepResult) :
    ((call.admissionMoves result position).foldl (Admissions.step registry globalConcurrency)
      state).PartOf client own := by
  obtain ⟨identity, generation, found, _⟩ := guards.find isVisit visitsAt
  have advanced := @Admissions.PartOf.advanced_other registry globalConcurrency client position state
    own visit identity generation partOf isOther found
  have left := @Admissions.PartOf.left_other registry globalConcurrency client position state own
    visit identity generation partOf isOther found
  unfold ApiCall.admissionMoves
  dsimp only
  cases result with
  | goesOn next =>
      split
      · rename_i isPhase
        rw [ApiCall.visit, isPhase] at isVisit
        cases isVisit
      · exact advanced
      · exact advanced
      · split
        · exact advanced
        · exact partOf
      · exact partOf
      · exact partOf
      · exact partOf
      · exact partOf
  | ends outcome =>
      split
      · exact partOf
      · exact advanced
      · exact advanced
      · split
        · exact advanced
        · exact left
      · exact left
      · exact left
      · exact left
      · exact left

/-- A request that is identified comes to its client's part, and to no other. -/
theorem entered_follows (guards : Guards registry clock calls limits state)
    (partOf : state.PartOf client own) {sender : Nat} {identity : ClientIdentity}
    (isIdentity : registry[sender]? = some identity) (endpoint : ApiEndpoint) :
    let after := (state.step registry globalConcurrency (.arrive sender endpoint)).step registry
      globalConcurrency (.advance state.visits.length)
    if sender = client then
      after.PartOf client ((own.step registry globalConcurrency (.arrive sender endpoint)).step registry
        globalConcurrency (.advance own.visits.length))
    else after.PartOf client own := by
  obtain ⟨_, ⟨generation, isAlone, _⟩, _, _⟩ := guards
  obtain ⟨sameClock, parts, visits⟩ := partOf
  have ownParts := parts
  rw [isAlone, List.map_singleton, List.map_eq_singleton_iff] at ownParts
  obtain ⟨alone, isOwnAlone, _⟩ := ownParts
  intro after
  have isAfter : after = _ := arrive_advance isAlone isIdentity endpoint
  rw [isAfter]
  split
  · rename_i isOwn
    subst isOwn
    rw [arrive_advance isOwnAlone isIdentity]
    refine ⟨sameClock, parts, ?_⟩
    simp [part, Visit.isOf, visits, sameClock]
  · rename_i isOther
    refine ⟨sameClock, parts, ?_⟩
    simp [part, Visit.isOf, visits, isOther]

end Service

/-! ### The whole service -/

/-- Where a request of the client stands in the admission. -/
def ApiCall.visitOf (client : Nat) (call : ApiCall) : Option Visit :=
  call.visit.filter (Visit.isOf client)

/-- The admission has the clock, the limits of a client, and its identified requests in some order. -/
structure GuardsClient (client : Nat) (clock : Instant) (calls : List ApiCall) (limits : ClientLimits)
    (own : Admissions) : Prop where
  clock : own.clock = clock
  limits : ∃ generation, own.generations = [generation] ∧ generation.limits.clients client = limits
  visits : Sees (ApiCall.visitOf client) calls own.visits

/-- What guards a runtime guards each client by its part. -/
theorem guardsClient_of_part {clock : Instant} {calls : List ApiCall} {limits : Limits}
    (guards : Guards registry clock calls limits state) (partOf : state.PartOf client own) :
    GuardsClient client clock calls (limits.clients client) own := by
  obtain ⟨sameClock, ⟨generation, isAlone, sameLimits⟩, visits, _⟩ := guards
  refine ⟨partOf.clock.trans sameClock, ?_, ?_⟩
  · have parts := partOf.generations
    rw [isAlone, List.map_singleton, List.map_eq_singleton_iff] at parts
    obtain ⟨alone, isOwn, same⟩ := parts
    exact ⟨alone, isOwn, (ofClient_inj same).1.trans (sameLimits ▸ rfl)⟩
  · have filtered := List.Perm.filter (Visit.isOf client) visits
    rw [List.filter_filterMap] at filtered
    rw [partOf.visits, part, List.map_id]
    exact filtered

section Service

variable {crates : Crates} {environment : Environment} {order : IterationOrder}
  {hashKey : String → Digest} {errors : JsonErrors} {clock : Instant} {calls : List ApiCall}
  {call : ApiCall} {live : LiveRuntime} {position : Nat}

/-- A step of a request is answered in the admission of the client alone. -/
theorem own_answers (guards : Guards live.runtime.auth clock calls live.limits state)
    (partOf : state.PartOf client own)
    (sound : PermitsSound live.runtime.auth globalConcurrency state)
    (soundAlone : PermitsSound live.runtime.auth globalConcurrency own)
    (visitsAt : call.VisitsAt position state) (around : Surroundings) :
    let step := call.phase.advance crates environment order hashKey errors call.request clock around
      live
    ∃ moves, (ownAnswers crates environment order hashKey errors client).stepped clock live call around
        own moves ∧
      ((call.admissionMoves step.1 position).foldl
          (Admissions.step live.runtime.auth globalConcurrency) state).PartOf client
        (moves.foldl (Admissions.step live.runtime.auth globalConcurrency) own) := by
  intro step
  cases isVisit : call.visit with
  | some visit =>
      have after : call.clientAfter step.1 = some visit.client := by
        simp [ApiCall.clientAfter, isVisit]
      by_cases isOwn : visit.client = client
      · have moved := own_follows guards partOf sound soundAlone isVisit isOwn visitsAt step.1
        refine ⟨_, ?_, moved⟩
        have isAfter := after.trans (congrArg some isOwn)
        simp only [ownAnswers]
        rw [if_pos isAfter]
        exact ⟨_, partOf.visitsAt isVisit isOwn visitsAt, rfl⟩
      · have moved := @other_follows live.runtime.auth globalConcurrency client state own visit clock
          calls call live.limits position guards partOf isVisit isOwn visitsAt step.1
        refine ⟨[], ?_, moved⟩
        have notAfter : call.clientAfter step.1 ≠ some client :=
          fun same => isOwn (Option.some.inj (after.symm.trans same))
        simp only [ownAnswers]
        rw [if_neg notAfter]
        trivial
  | none =>
      have isPhase := arrived_of_unseen isVisit
      have atEnd : position = state.visits.length := by
        unfold ApiCall.VisitsAt at visitsAt
        rwa [isVisit] at visitsAt
      subst atEnd
      simp only [ownAnswers, step, ApiCall.clientAfter, ApiCall.admissionMoves, ApiCall.ownMoves,
        isVisit, isPhase, CallPhase.advance]
      cases outcome : live.runtime.identify hashKey call.request.headers with
      | error error => exact ⟨[], rfl, partOf⟩
      | ok found =>
          obtain ⟨sender, identity⟩ := found
          have identified : Identified hashKey live.runtime call.request sender :=
            identified_of_ok outcome
          obtain ⟨registered, isRegistered⟩ := registered_of_identified identified
          have entered := @entered_follows live.runtime.auth globalConcurrency client state own clock
            calls live.limits guards partOf sender registered isRegistered call.request.endpoint
          dsimp only [List.foldl_cons, List.foldl_nil]
          by_cases isOwn : sender = client
          · simp only [if_pos isOwn] at entered
            refine ⟨[.arrive sender call.request.endpoint, .advance own.visits.length], ?_, entered⟩
            rw [if_pos (congrArg some isOwn)]
            exact ⟨_, visitsAt_end isVisit, rfl⟩
          · simp only [if_neg isOwn] at entered
            refine ⟨[], ?_, entered⟩
            rw [if_neg fun same => isOwn (Option.some.inj same)]

/-- So is it when the client of a request goes away. -/
theorem own_departs (globalConcurrency : Nat)
    (guards : Guards registry clock calls live.limits state)
    (partOf : state.PartOf client own) (visitsAt : call.VisitsAt position state) :
    ∃ moves, (ownAnswers crates environment order hashKey errors client).left call own moves ∧
      ((call.admissionDeparture position).foldl (Admissions.step registry globalConcurrency)
          state).PartOf client
        (moves.foldl (Admissions.step registry globalConcurrency) own) := by
  have left := @Admissions.PartOf.left_own registry globalConcurrency client position state own
  have otherLeft := @Admissions.PartOf.left_other registry globalConcurrency client position state own
  simp only [ownAnswers]
  cases isVisit : call.visit with
  | none =>
      simp only [ApiCall.admissionDeparture, isVisit]
      exact ⟨[], rfl, partOf⟩
  | some visit =>
      obtain ⟨identity, generation, found, _⟩ := guards.find isVisit visitsAt
      simp only [ApiCall.admissionDeparture, isVisit, Option.any_some]
      by_cases isOwn : visit.client = client
      · refine ⟨[.leave (place (Visit.isOf client) position state.visits)], ?_,
          left partOf isOwn found⟩
        have ofClient : Visit.isOf client visit = true := decide_eq_true isOwn
        rw [if_pos ofClient]
        exact ⟨_, partOf.visitsAt isVisit isOwn visitsAt, rfl⟩
      · refine ⟨[], ?_, otherLeft partOf isOwn found⟩
        rw [if_neg (by simp [Visit.isOf, isOwn])]

/-- The admission of all clients of a runtime, with the part of one. -/
structure Admissions.Covers (client : Nat) (runtime : Runtime) (clock : Instant)
    (calls : List ApiCall) (limits : Limits) (own state : Admissions) : Prop where
  guards : Guards runtime.auth clock calls limits state
  partOf : state.PartOf client own
  sound : PermitsSound runtime.auth runtime.config.limits.globalConcurrency state
  soundAlone : PermitsSound runtime.auth runtime.config.limits.globalConcurrency own

/-- The moves of a client's own requests keep its part in step with the service. -/
theorem ownRules (runtime : Runtime) (client : Nat) :
    TurnRules crates environment order hashKey errors
      (ownAnswers crates environment order hashKey errors client) runtime
      (Admissions.step runtime.auth runtime.config.limits.globalConcurrency)
      (.initial runtime.auth runtime.config.limits.globalConcurrency)
      fun clock live calls own =>
        ∃ state, Admissions.Covers client runtime clock calls live.limits own state where
  starts :=
    ⟨_, (@admissionRules crates environment order hashKey errors runtime).starts, ⟨rfl, rfl, rfl⟩,
      permitsSound_initial, permitsSound_initial⟩
  ticks elapsed covered := by
    obtain ⟨state, ⟨sameClock, limits, visits, registered⟩, partOf, sound, soundAlone⟩ := covered
    refine ⟨state.step runtime.auth runtime.config.limits.globalConcurrency (.tick elapsed),
      ⟨?_, limits, visits, registered⟩, ⟨?_, partOf.generations, partOf.visits⟩,
      permitsSound_step _ sound, permitsSound_run _ soundAlone⟩
    · rw [← sameClock]
      rfl
    · simp [ownAnswers, Admissions.step, partOf.clock]
  arrives {clock live calls own call} isNew covered := by
    obtain ⟨state, guards, partOf, sound, soundAlone⟩ := covered
    have unseen : call.visit = none := by rw [ApiCall.visit, isNew]; rfl
    exact ⟨state, ⟨guards.clock, guards.limits, guards.visits.append unseen, guards.registered⟩,
      partOf, sound, soundAlone⟩
  steps {clock live calls own index call} around isRuntime covered isCall := by
    subst isRuntime
    obtain ⟨state, guards, partOf, sound, soundAlone⟩ := covered
    obtain ⟨position, visitsAt, stepped⟩ := @guards_step crates environment order hashKey errors clock
      calls index call live state live.runtime.config.limits.globalConcurrency guards isCall around
    obtain ⟨moves, answered, moved⟩ := @own_answers live.runtime.config.limits.globalConcurrency client
      state own crates environment order hashKey errors clock calls call live position guards partOf
      sound soundAlone visitsAt around
    exact ⟨moves, answered, _, stepped, moved, permitsSound_run _ sound,
      permitsSound_run _ soundAlone⟩
  leaves {clock live calls own index call} isRuntime covered isCall := by
    subst isRuntime
    obtain ⟨state, guards, partOf, sound, soundAlone⟩ := covered
    obtain ⟨position, visitsAt, left⟩ :=
      guards.leave live.runtime.config.limits.globalConcurrency isCall
    obtain ⟨moves, answered, moved⟩ := @own_departs live.runtime.auth client state own crates
      environment order hashKey errors clock calls call live position
      live.runtime.config.limits.globalConcurrency guards partOf visitsAt
    exact ⟨moves, answered, _, left, moved, permitsSound_run _ sound, permitsSound_run _ soundAlone⟩

/-- They bring in requests of the client only. -/
theorem ownMoves_only {result : StepResult} (isOwn : call.clientAfter result = some client)
    (position : Nat) : OnlyClient client (call.ownMoves live result position) := by
  obtain ⟨request, number, phase⟩ := call
  unfold ApiCall.ownMoves ApiCall.admissionMoves
  cases phase with
  | arrived =>
      dsimp only
      split
      · rename_i sender now
        have isSender : sender = client := Option.some.inj isOwn
        simp [OnlyClient, isSender]
      · exact fun _ => List.not_mem_nil.elim
  | timed sender now => simp [OnlyClient]
  | counted sender => simp [OnlyClient]
  | permitted sender =>
      cases request.endpoint with
      | messages =>
          dsimp only
          split <;> simp [OnlyClient]
      | countTokens => cases result <;> simp [OnlyClient]
  | admitted sender => cases result <;> simp [OnlyClient]
  | executing sender routed left failures => cases result <;> simp [OnlyClient]
  | opening sender routed inputTokens left failures => cases result <;> simp [OnlyClient]
  | reading sender routed inputTokens candidate events => cases result <;> simp [OnlyClient]

/-- No answer lets another client come. -/
theorem own_only {service : Service} {number : Nat} {move : ServiceMove} {moves : List AdmissionMove}
    (answered : service.Answers (ownAnswers crates environment order hashKey errors client) number own
      move moves) : OnlyClient client moves := by
  have noMove : OnlyClient client [] := fun _ => List.not_mem_nil.elim
  cases move with
  | tick elapsed =>
      subst answered
      simp [ownAnswers, OnlyClient]
  | arrive request =>
      subst answered
      exact noMove
  | advance index around =>
      simp only [Service.Answers, ownAnswers] at answered
      split at answered
      · split at answered
        · split at answered
          · rename_i isOwn
            obtain ⟨position, _, rfl⟩ := answered
            exact ownMoves_only isOwn position
          · subst answered
            exact noMove
        · subst answered
          exact noMove
      · subst answered
        exact noMove
  | disconnect index =>
      simp only [Service.Answers, ownAnswers] at answered
      split at answered
      · split at answered
        · split at answered
          · obtain ⟨position, _, rfl⟩ := answered
            unfold ApiCall.admissionDeparture
            split <;> simp [OnlyClient]
          · subst answered
            exact noMove
        · subst answered
          exact noMove
      · subst answered
        exact noMove
  | hangup loaded =>
      subst answered
      exact noMove

end Service

/-- On each runtime, the clock, the limits and the identified requests of a client are at all times those
of an admission that makes the moves of this client's requests, and no others. -/
theorem clients_isolated {crates : Crates} {environment : Environment} {order : IterationOrder}
    {hashKey : String → Digest} {errors : JsonErrors} (runtime : Runtime) (moves : List ServiceMove)
    {number : Nat} {live : LiveRuntime}
    (isLive : (Service.run crates environment order hashKey errors runtime moves).runtimes[number]? =
      some live) (client : Nat) :
    ∃ own : List AdmissionMove, OnlyClient client own ∧
      InStep (Service.step crates environment order hashKey errors)
        (Admissions.step live.runtime.auth live.runtime.config.limits.globalConcurrency)
        (Service.Answers (ownAnswers crates environment order hashKey errors client) number)
        (fun service own => ∀ live : LiveRuntime, service.runtimes[number]? = some live →
          GuardsClient client service.clock (service.calls.filter (ApiCall.isOn number))
            (live.limits.clients client) own)
        (.initial runtime)
        (.initial live.runtime.auth live.runtime.config.limits.globalConcurrency) moves own ∧
      GuardsClient client
        (Service.run crates environment order hashKey errors runtime moves).clock
        ((Service.run crates environment order hashKey errors runtime moves).calls.filter
          (ApiCall.isOn number)) (live.limits.clients client)
        (own.foldl
          (Admissions.step live.runtime.auth live.runtime.config.limits.globalConcurrency)
          (.initial live.runtime.auth live.runtime.config.limits.globalConcurrency)) := by
  obtain ⟨own, inStep⟩ := (@ownRules crates environment order hashKey errors live.runtime
    client).run runtime moves isLive rfl
  have weakens : ∀ (service : Service) (own : Admissions),
      service.RelatedOn number live.runtime
          (fun clock held calls own => ∃ state,
            Admissions.Covers client live.runtime clock calls held.limits own state) own →
        ∀ live : LiveRuntime, service.runtimes[number]? = some live →
          GuardsClient client service.clock (service.calls.filter (ApiCall.isOn number))
            (live.limits.clients client) own := by
    intro service own relatedOn live isLive
    obtain ⟨state, covers⟩ := relatedOn.related
    rw [isLive, Option.getD_some, part, List.map_id] at covers
    exact guardsClient_of_part covers.guards covers.partOf
  have guarded := inStep.mono weakens
  have only := inStep.forall_turns fun _ _ _ _ answered => own_only answered
  exact ⟨own, only, guarded, guarded.final live isLive⟩

end Isolation

/-- The request of the sample is the first client's. -/
theorem clients_isolated_office :
    ∃ live : LiveRuntime, ∃ own : List AdmissionMove, OnlyClient 0 own ∧
      InStep (Service.step officeCrates officeEnvironment officeOrder (fun _ => []) officeErrors)
        (Admissions.step live.runtime.auth live.runtime.config.limits.globalConcurrency)
        (Service.Answers
          (ownAnswers officeCrates officeEnvironment officeOrder (fun _ => []) officeErrors 0) 0)
        (fun service own => ∀ live : LiveRuntime, service.runtimes[0]? = some live →
          GuardsClient 0 service.clock (service.calls.filter (ApiCall.isOn 0))
            (live.limits.clients 0) own)
        (.initial officeRuntime)
        (.initial live.runtime.auth live.runtime.config.limits.globalConcurrency) officeMoves own ∧
      GuardsClient 0 (officeService officeMoves).clock
        ((officeService officeMoves).calls.filter (ApiCall.isOn 0)) (live.limits.clients 0)
        (own.foldl
          (Admissions.step live.runtime.auth live.runtime.config.limits.globalConcurrency)
          (.initial live.runtime.auth live.runtime.config.limits.globalConcurrency)) := by
  have first : 0 < (officeService officeMoves).runtimes.length := by decide +kernel
  exact ⟨_, @clients_isolated officeCrates officeEnvironment officeOrder (fun _ => []) officeErrors
    officeRuntime officeMoves 0 _ (List.getElem?_eq_getElem first) 0⟩

end ClaudeProxy
