/-
Module: ClaudeProxy.Proofs.ServiceAdmissions
Layer: Proofs
Purpose: The limits in the whole service. On each runtime, the limiters and permits and the requests
  that have been identified behave as the admission alone does: a step of a request is one move of the
  admission, which it decides, or two when the request is identified, or none, and the admission makes
  no other move. So what holds of the limits in every run of the admission holds in every run of the
  service.
Trusted boundary: none
Main exports: CallPhase.visit, ApiCall.VisitsAt, ApiCall.admissionMoves, ApiCall.admissionDeparture,
  admissionAnswers, Guards, guards_step, limits_refine
-/
import ClaudeProxy.Library.Processes
import ClaudeProxy.Proofs.RuntimeTurns
import ClaudeProxy.Proofs.ServicePermits

namespace ClaudeProxy

open Library

/-! ### Where requests stand -/

/-- Where a request stands in the admission, once it has been identified. -/
def CallPhase.visit (endpoint : ApiEndpoint) : CallPhase → Option Visit
  | .arrived => none
  | .timed client now => some ⟨0, client, endpoint, .timed now⟩
  | .counted client => some ⟨0, client, endpoint, .counted⟩
  | .permitted client => some ⟨0, client, endpoint, .permitted⟩
  | .admitted client | .executing client .. | .opening client .. | .reading client .. =>
      some ⟨0, client, endpoint, .admitted⟩

def ApiCall.visit (call : ApiCall) : Option Visit := call.phase.visit call.request.endpoint

/-- The admission has the clock, the limits of a runtime, and its identified requests in some order. -/
structure Guards (registry : AuthRegistry) (clock : Instant) (calls : List ApiCall) (limits : Limits)
    (admissions : Admissions) : Prop where
  clock : admissions.clock = clock
  limits : ∃ generation, admissions.generations = [generation] ∧ generation.limits = limits
  visits : Sees ApiCall.visit calls admissions.visits
  registered : ∀ visit ∈ admissions.visits, ∃ identity, registry[visit.client]? = some identity

/-! ### Moves -/

/-- Where the request stands among the visits, or where it would come in. -/
def ApiCall.VisitsAt (position : Nat) (admissions : Admissions) (call : ApiCall) : Prop :=
  match call.visit with
  | some visit => admissions.visits[position]? = some visit
  | none => position = admissions.visits.length

/-- What a step with this result is in the admission. A request that is identified comes in and reads
the clock; past its admission it only leaves. -/
def ApiCall.admissionMoves (result : StepResult) (position : Nat) (call : ApiCall) :
    List AdmissionMove :=
  let leaves : List AdmissionMove := match result with
    | .goesOn _ => []
    | .ends _ => [.leave position]
  match call.phase with
  | .arrived =>
      match result with
      | .goesOn (.timed client _) => [.arrive client call.request.endpoint, .advance position]
      | _ => []
  | .timed .. | .counted _ => [.advance position]
  | .permitted _ =>
      match call.request.endpoint with
      | .messages => [.advance position]
      | .countTokens => leaves
  | .admitted _ | .executing .. | .opening .. | .reading .. => leaves

/-- What it is in the admission that the client of a request goes away. -/
def ApiCall.admissionDeparture (position : Nat) (call : ApiCall) : List AdmissionMove :=
  match call.visit with
  | some _ => [.leave position]
  | none => []

/-- The answers of the admission to what happens on a runtime. -/
def admissionAnswers (crates : Crates) (environment : Environment) (order : IterationOrder)
    (hashKey : String → Digest) (errors : JsonErrors) : RuntimeAnswers Admissions AdmissionMove where
  ticked elapsed := [.tick elapsed]
  stepped clock live call around admissions moves :=
    ∃ position, call.VisitsAt position admissions ∧
      moves = call.admissionMoves (call.phase.advance crates environment order hashKey errors
        call.request clock around live).1 position
  left call admissions moves :=
    ∃ position, call.VisitsAt position admissions ∧ moves = call.admissionDeparture position

section Steps

variable {crates : Crates} {environment : Environment} {order : IterationOrder}
  {hashKey : String → Digest} {errors : JsonErrors} {registry : AuthRegistry}
  {globalConcurrency : Nat} {clock : Instant} {calls : List ApiCall} {index : Nat} {call : ApiCall}
  {visit : Visit} {live after : LiveRuntime} {limits : Limits} {admissions : Admissions}

theorem visitsAt_end (unseen : call.visit = none) :
    call.VisitsAt admissions.visits.length admissions := by
  unfold ApiCall.VisitsAt
  rw [unseen]

theorem visitsAt_of_visit {position : Nat} (isVisit : call.visit = some visit)
    (isHere : admissions.visits[position]? = some visit) : call.VisitsAt position admissions := by
  unfold ApiCall.VisitsAt
  rw [isVisit]
  exact isHere

/-- A request out of view has just come. -/
theorem arrived_of_unseen (unseen : call.visit = none) : call.phase = .arrived := by
  unfold ApiCall.visit at unseen
  revert unseen
  cases call.phase <;> simp [CallPhase.visit]

theorem visit_generation {phase : CallPhase} {endpoint : ApiEndpoint}
    (isVisit : phase.visit endpoint = some visit) : visit.generation = 0 := by
  cases phase <;> cases isVisit <;> rfl

/-- What a request holds is dropped in the same way. -/
theorem release_visit {phase : CallPhase} {endpoint : ApiEndpoint}
    (isVisit : phase.visit endpoint = some visit) (generation : Generation) :
    (generation.release visit).limits = phase.release generation.limits := by
  cases phase <;> cases isVisit <;> rfl

/-! ### One request -/

/-- The place of a request in the admission, where the same has to happen as to the request. -/
theorem Guards.place (guards : Guards registry clock calls limits admissions)
    (isCall : calls[index]? = some call) (isVisit : call.visit = some visit) :
    ∃ position identity generation, call.VisitsAt position admissions ∧
      admissions.find registry position = some (visit, identity, generation) ∧
      registry[visit.client]? = some identity ∧ generation.limits = limits ∧
      (∀ later, Guards registry clock (calls.eraseIdx index) later.limits
        (admissions.settle position visit none later)) ∧
      ∀ stage phase later, phase.visit call.request.endpoint = some { visit with stage := stage } →
        Guards registry clock (calls.set index { call with phase := phase }) later.limits
          (admissions.settle position visit (some stage) later) := by
  obtain ⟨sameClock, ⟨generation, isAlone, sameLimits⟩, visits, registered⟩ := guards
  obtain ⟨position, isHere, erased, replaced⟩ := visits.place isCall isVisit
  obtain ⟨identity, isIdentity⟩ := registered visit (List.mem_of_getElem? isHere)
  have first := visit_generation isVisit
  refine ⟨position, identity, generation, visitsAt_of_visit isVisit isHere, ?_, isIdentity,
    sameLimits, fun later => ?_, fun stage phase later isNext => ?_⟩
  · simp [Admissions.find, isHere, isIdentity, isAlone, first]
  · refine ⟨sameClock, ⟨later, by simp [Admissions.settle, isAlone, first], rfl⟩, erased, ?_⟩
    exact fun other member => registered other (List.mem_of_mem_eraseIdx member)
  · refine ⟨sameClock, ⟨later, by simp [Admissions.settle, isAlone, first], rfl⟩,
      replaced { call with phase := phase } _ isNext, ?_⟩
    intro other member
    rcases List.mem_or_eq_of_mem_set member with old | rfl
    · exact registered other old
    · exact ⟨identity, isIdentity⟩

/-- The stage that a step leads to in the admission. -/
def StepResult.Takes (endpoint : ApiEndpoint) (visit : Visit) (next : Option Stage) :
    StepResult → Prop
  | .goesOn phase =>
      ∃ stage, next = some stage ∧ phase.visit endpoint = some { visit with stage := stage }
  | .ends _ => next = none

/-- A step that is the next one in the admission too. -/
theorem Guards.turn (guards : Guards live.runtime.auth clock calls live.limits admissions)
    (isCall : calls[index]? = some call) (isVisit : call.visit = some visit) {result : StepResult}
    (turned : ∀ generation : Generation, generation.limits = live.limits →
      let turn := visit.advance (live.identity visit.client) clock generation
      turn.2.limits = (result.liveAfter call after).limits ∧
        result.Takes call.request.endpoint visit turn.1) :
    ∃ position, call.VisitsAt position admissions ∧
      Guards live.runtime.auth clock (result.callsAfter index call calls)
        (result.liveAfter call after).limits
        (admissions.step live.runtime.auth globalConcurrency (.advance position)) := by
  obtain ⟨position, identity, generation, visitsAt, found, isIdentity, sameLimits, erased,
    replaced⟩ := guards.place isCall isVisit
  have isOwn : live.identity visit.client = identity := by simp [LiveRuntime.identity, isIdentity]
  obtain ⟨limits, takes⟩ := turned generation sameLimits
  rw [isOwn] at limits takes
  refine ⟨position, visitsAt, ?_⟩
  simp only [Admissions.step, found, guards.clock, ← limits]
  cases result with
  | goesOn next =>
      obtain ⟨stage, isStage, isNext⟩ := takes
      rw [isStage]
      exact replaced stage next _ isNext
  | ends outcome =>
      simp only [StepResult.Takes] at takes
      rw [takes]
      exact erased _

/-- A request leaves the admission with all that it holds. -/
theorem Guards.leave (globalConcurrency : Nat)
    (guards : Guards registry clock calls limits admissions) (isCall : calls[index]? = some call) :
    ∃ position, call.VisitsAt position admissions ∧
      Guards registry clock (calls.eraseIdx index) (call.phase.release limits)
        ((call.admissionDeparture position).foldl (Admissions.step registry globalConcurrency)
          admissions) := by
  cases isVisit : call.visit with
  | none =>
      refine ⟨_, visitsAt_end isVisit, ?_⟩
      simp only [ApiCall.admissionDeparture, isVisit, List.foldl_nil, arrived_of_unseen isVisit]
      exact ⟨guards.clock, guards.limits, guards.visits.wait isCall isVisit, guards.registered⟩
  | some visit =>
      obtain ⟨position, identity, generation, visitsAt, found, _, sameLimits, erased, _⟩ :=
        guards.place isCall isVisit
      refine ⟨position, visitsAt, ?_⟩
      simp only [ApiCall.admissionDeparture, isVisit, List.foldl_cons, List.foldl_nil,
        Admissions.step, found, ← sameLimits, ← release_visit isVisit generation]
      exact erased _

/-- A step that is none in the admission, unless the request leaves. -/
theorem Guards.keep (globalConcurrency : Nat)
    (guards : Guards live.runtime.auth clock calls live.limits admissions)
    (isCall : calls[index]? = some call) {result : StepResult} (same : after.limits = live.limits)
    (keeps : ∀ next, result = .goesOn next → next.visit call.request.endpoint = call.visit) :
    ∃ position, call.VisitsAt position admissions ∧
      Guards live.runtime.auth clock (result.callsAfter index call calls)
        (result.liveAfter call after).limits
        ((match result with
            | .goesOn _ => []
            | .ends _ => call.admissionDeparture position).foldl
          (Admissions.step live.runtime.auth globalConcurrency) admissions) := by
  have left := guards.leave globalConcurrency isCall
  rw [← same] at left
  cases result with
  | goesOn next =>
      obtain ⟨position, visitsAt, _⟩ := left
      refine ⟨position, visitsAt, guards.clock, same ▸ guards.limits, ?_, guards.registered⟩
      exact guards.visits.stay isCall (keeps next rfl)
  | ends outcome => exact left

/-- A request comes to the admission and reads the clock. -/
theorem arrive_advance {client : Nat} {identity : ClientIdentity} {generation : Generation}
    (isAlone : admissions.generations = [generation])
    (isIdentity : registry[client]? = some identity) (endpoint : ApiEndpoint) :
    (admissions.step registry globalConcurrency (.arrive client endpoint)).step registry
        globalConcurrency (.advance admissions.visits.length) =
      { admissions with
        visits := admissions.visits ++ [⟨0, client, endpoint, .timed admissions.clock⟩] } := by
  have found : (admissions.step registry globalConcurrency (.arrive client endpoint)).find registry
      admissions.visits.length = some (⟨0, client, endpoint, .arrived⟩, identity, generation) := by
    simp [Admissions.find, Admissions.step, isAlone, isIdentity]
  rw [Admissions.step.eq_def]
  simp only [found]
  simp [Admissions.settle, Admissions.step, Visit.advance, isAlone]

/-- A request is identified, and reads the clock. -/
theorem Guards.enter (globalConcurrency : Nat)
    (guards : Guards live.runtime.auth clock calls live.limits admissions)
    (isCall : calls[index]? = some call) (isPhase : call.phase = .arrived) {client : Nat}
    (identified : Identified hashKey live.runtime call.request client) :
    call.VisitsAt admissions.visits.length admissions ∧
      Guards live.runtime.auth clock (calls.set index { call with phase := .timed client clock })
        live.limits
        ((admissions.step live.runtime.auth globalConcurrency
            (.arrive client call.request.endpoint)).step live.runtime.auth globalConcurrency
          (.advance admissions.visits.length)) := by
  obtain ⟨identity, isIdentity⟩ := registered_of_identified identified
  obtain ⟨rfl, ⟨generation, isAlone, sameLimits⟩, visits, registered⟩ := guards
  have unseen : call.visit = none := by
    rw [ApiCall.visit, isPhase]
    rfl
  rw [arrive_advance isAlone isIdentity]
  refine ⟨visitsAt_end unseen, rfl, ⟨generation, isAlone, sameLimits⟩,
    visits.enter isCall unseen rfl, ?_⟩
  exact forall_snoc registered ⟨identity, isIdentity⟩

/-! ### One step -/

theorem gather_result (around : Surroundings) (routed : RoutedRequest)
    {next : List Candidate → StepResult} {holds : CallPhase → Prop}
    (each : ∀ candidates phase, next candidates = .goesOn phase → holds phase) :
    ∀ phase, (live.gather crates around routed next).1 = .goesOn phase → holds phase := by
  intro phase isPhase
  unfold LiveRuntime.gather at isPhase
  split at isPhase
  · cases isPhase
  · cases isPhase
  · exact each _ phase isPhase

/-- A request past its admission stays there or is over. -/
theorem admitted_result {phase : CallPhase} (around : Surroundings)
    (isAdmitted : phase.holdsGlobal = true) :
    ∀ next, (phase.advance crates environment order hashKey errors call.request clock around live).1 =
      .goesOn next → next.visit call.request.endpoint = phase.visit call.request.endpoint := by
  intro next isNext
  cases phase with
  | arrived => cases isAdmitted
  | timed client now => cases isAdmitted
  | counted client => cases isAdmitted
  | permitted client => cases isAdmitted
  | admitted client =>
      simp only [CallPhase.advance] at isNext
      split at isNext
      · cases isNext
      · revert next
        apply gather_result
        intro candidates next isNext
        rcases startAttempts_goesOn isNext with ⟨inputTokens, rfl⟩ | rfl
        · rfl
        · rfl
  | executing client routed left failures =>
      cases left with
      | nil => cases isNext
      | cons candidate rest =>
          simp only [CallPhase.advance] at isNext
          split at isNext
          · cases isNext
          · rw [afterError_goesOn isNext]
            rfl
  | opening client routed inputTokens left failures =>
      cases left with
      | nil => cases isNext
      | cons candidate rest =>
          simp only [CallPhase.advance] at isNext
          split at isNext
          · cases isNext
            rfl
          · rw [afterError_goesOn isNext]
            rfl
  | reading client routed inputTokens candidate events => cases isNext

/-- Past its admission a request changes nothing of the limits until it leaves. -/
theorem admitted_limits {phase : CallPhase} (request : ApiRequest) (around : Surroundings)
    (isAdmitted : phase.holdsGlobal = true) :
    (phase.advance crates environment order hashKey errors request clock around live).2.limits =
      live.limits := by
  cases phase with
  | arrived => cases isAdmitted
  | timed client now => cases isAdmitted
  | counted client => cases isAdmitted
  | permitted client => cases isAdmitted
  | admitted client =>
      simp only [CallPhase.advance]
      split
      · rfl
      · exact gather_limits ..
  | executing client routed left failures =>
      cases left with
      | nil => rfl
      | cons candidate rest =>
          simp only [CallPhase.advance]
          split <;> rfl
  | opening client routed inputTokens left failures =>
      cases left with
      | nil => rfl
      | cons candidate rest =>
          simp only [CallPhase.advance]
          split <;> rfl
  | reading client routed inputTokens candidate events => rfl

/-- Past its admission a request makes no move until it leaves. -/
theorem admissionMoves_admitted (isAdmitted : call.phase.holdsGlobal = true) (result : StepResult)
    (position : Nat) :
    call.admissionMoves result position =
      match result with
      | .goesOn _ => []
      | .ends _ => call.admissionDeparture position := by
  obtain ⟨request, number, phase⟩ := call
  cases phase with
  | arrived => cases isAdmitted
  | timed client now => cases isAdmitted
  | counted client => cases isAdmitted
  | permitted client => cases isAdmitted
  | admitted client => rfl
  | executing client routed left failures => rfl
  | opening client routed inputTokens left failures => rfl
  | reading client routed inputTokens candidate events => rfl

/-- A step of a request is its moves in the admission. -/
theorem guards_step (globalConcurrency : Nat)
    (guards : Guards live.runtime.auth clock calls live.limits admissions)
    (isCall : calls[index]? = some call) (around : Surroundings) :
    let step := call.phase.advance crates environment order hashKey errors call.request clock around
      live
    ∃ position, call.VisitsAt position admissions ∧
      Guards live.runtime.auth clock (step.1.callsAfter index call calls)
        (step.1.liveAfter call step.2).limits
        ((call.admissionMoves step.1 position).foldl
          (Admissions.step live.runtime.auth globalConcurrency) admissions) := by
  have visitEq : call.visit = call.phase.visit call.request.endpoint := rfl
  by_cases isAdmitted : call.phase.holdsGlobal = true
  · have kept := guards.keep globalConcurrency isCall
      (@admitted_limits crates environment order hashKey errors clock live call.phase call.request
        around isAdmitted)
      (@admitted_result crates environment order hashKey errors clock call live call.phase around
        isAdmitted)
    simp only [admissionMoves_admitted isAdmitted]
    exact kept
  · cases isPhase : call.phase with
    | arrived =>
        have unseen : call.visit = none := by rw [visitEq, isPhase]; rfl
        simp only [ApiCall.admissionMoves, isPhase, CallPhase.advance]
        cases outcome : live.runtime.identify hashKey call.request.headers with
        | error error =>
            refine ⟨_, visitsAt_end unseen, guards.clock, ?_, guards.visits.wait isCall unseen,
              guards.registered⟩
            rw [StepResult.liveAfter, isPhase]
            exact guards.limits
        | ok found =>
            exact ⟨_, guards.enter globalConcurrency isCall isPhase (identified_of_ok outcome)⟩
    | timed client now =>
        rw [isPhase] at visitEq
        simp only [ApiCall.admissionMoves, isPhase, List.foldl_cons, List.foldl_nil]
        apply guards.turn isCall visitEq
        intro generation sameLimits
        simp only [Visit.advance, Generation.checkRate, CallPhase.advance, sameLimits]
        rcases (live.identity client).checkRate now (live.limits.clients client) with ⟨_ | _, after⟩
        · exact ⟨by rw [StepResult.liveAfter, isPhase]; rfl, rfl⟩
        · exact ⟨rfl, .counted, rfl, rfl⟩
    | counted client =>
        rw [isPhase] at visitEq
        simp only [ApiCall.admissionMoves, isPhase, List.foldl_cons, List.foldl_nil]
        apply guards.turn isCall visitEq
        intro generation sameLimits
        simp only [Visit.advance, Generation.acquirePermit, CallPhase.advance, sameLimits]
        rcases (live.limits.clients client).acquirePermit with ⟨_ | _, after⟩
        · exact ⟨by rw [StepResult.liveAfter, isPhase]; rfl, rfl⟩
        · exact ⟨rfl, .permitted, rfl, rfl⟩
    | permitted client =>
        rw [isPhase] at visitEq
        cases endpoint : call.request.endpoint with
        | messages =>
            rw [endpoint] at visitEq
            simp only [ApiCall.admissionMoves, isPhase, endpoint, List.foldl_cons, List.foldl_nil]
            apply guards.turn isCall visitEq
            intro generation sameLimits
            simp only [Visit.advance, Generation.acquireGlobal, CallPhase.advance, endpoint,
              sameLimits]
            rcases live.limits.acquireGlobal with ⟨_ | _, limits⟩
            · exact ⟨by rw [StepResult.liveAfter, isPhase]; rfl, rfl⟩
            · exact ⟨rfl, .admitted, rfl, rfl⟩
        | countTokens =>
            have leaves : ∀ position, call.admissionDeparture position = [.leave position] := by
              intro position
              rw [ApiCall.admissionDeparture, visitEq]
              rfl
            simp only [ApiCall.admissionMoves, isPhase, endpoint, ← leaves, CallPhase.advance]
            cases live.runtime.readCount crates errors (live.identity client) call.request.body with
            | error error => exact guards.keep globalConcurrency isCall rfl (by simp)
            | ok read =>
                apply guards.keep globalConcurrency isCall (gather_limits ..)
                apply gather_result
                intro candidates phase isCounted
                exact absurd isCounted (countFirst_ends candidates phase)
    | admitted client => exact absurd (isPhase ▸ rfl) isAdmitted
    | executing client routed left failures => exact absurd (isPhase ▸ rfl) isAdmitted
    | opening client routed inputTokens left failures => exact absurd (isPhase ▸ rfl) isAdmitted
    | reading client routed inputTokens candidate events => exact absurd (isPhase ▸ rfl) isAdmitted

/-! ### Runs -/

theorem admissionRules (runtime : Runtime) :
    TurnRules crates environment order hashKey errors
      (admissionAnswers crates environment order hashKey errors) runtime
      (Admissions.step runtime.auth runtime.config.limits.globalConcurrency)
      (.initial runtime.auth runtime.config.limits.globalConcurrency)
      fun clock live calls admissions =>
        Guards live.runtime.auth clock calls live.limits admissions where
  starts := ⟨rfl, ⟨_, rfl, rfl⟩, .rfl, fun _ => List.not_mem_nil.elim⟩
  ticks elapsed guards := by
    obtain ⟨sameClock, limits, visits, registered⟩ := guards
    refine ⟨?_, limits, visits, registered⟩
    rw [← sameClock]
    rfl
  arrives {clock live calls admissions call} isNew guards := by
    have unseen : call.visit = none := by rw [ApiCall.visit, isNew]; rfl
    exact ⟨guards.clock, guards.limits, guards.visits.append unseen, guards.registered⟩
  steps around isRuntime guards isCall := by
    subst isRuntime
    dsimp only
    rw [StepResult.liveAfter_runtime, advance_runtime]
    obtain ⟨position, visitsAt, stepped⟩ := guards_step _ guards isCall around
    exact ⟨_, ⟨position, visitsAt, rfl⟩, stepped⟩
  leaves isRuntime guards isCall := by
    subst isRuntime
    obtain ⟨position, visitsAt, left⟩ := guards.leave _ isCall
    exact ⟨_, ⟨position, visitsAt, rfl⟩, left⟩

/-- On each runtime, the clock, the limits and the identified requests are at all times those of the
admission with the clients and the limit of its configuration, whose moves are those of the requests'
steps. -/
theorem limits_refine (runtime : Runtime) (moves : List ServiceMove) {number : Nat}
    {live : LiveRuntime}
    (isLive : (Service.run crates environment order hashKey errors runtime moves).runtimes[number]? =
      some live) :
    ∃ admissionMoves : List AdmissionMove,
      InStep (Service.step crates environment order hashKey errors)
        (Admissions.step live.runtime.auth live.runtime.config.limits.globalConcurrency)
        (Service.Answers (admissionAnswers crates environment order hashKey errors) number)
        (fun service admissions => ∀ live : LiveRuntime, service.runtimes[number]? = some live →
          Guards live.runtime.auth service.clock (service.calls.filter (ApiCall.isOn number))
            live.limits admissions)
        (.initial runtime)
        (.initial live.runtime.auth live.runtime.config.limits.globalConcurrency) moves
        admissionMoves ∧
      Guards live.runtime.auth
        (Service.run crates environment order hashKey errors runtime moves).clock
        ((Service.run crates environment order hashKey errors runtime moves).calls.filter
          (ApiCall.isOn number)) live.limits
        (admissionMoves.foldl
          (Admissions.step live.runtime.auth live.runtime.config.limits.globalConcurrency)
          (.initial live.runtime.auth live.runtime.config.limits.globalConcurrency)) := by
  obtain ⟨admissionMoves, inStep⟩ :=
    (@admissionRules crates environment order hashKey errors live.runtime).run runtime moves isLive
      rfl
  have weakens : ∀ (service : Service) (admissions : Admissions),
      service.RelatedOn number live.runtime
          (fun clock live calls admissions =>
            Guards live.runtime.auth clock calls live.limits admissions) admissions →
        ∀ live : LiveRuntime, service.runtimes[number]? = some live →
          Guards live.runtime.auth service.clock (service.calls.filter (ApiCall.isOn number))
            live.limits admissions := by
    intro service admissions relatedOn live isLive
    have related := relatedOn.related
    rwa [isLive, Option.getD_some, part, List.map_id] at related
  have guarded := inStep.mono weakens
  exact ⟨admissionMoves, guarded, guarded.final live isLive⟩

end Steps

/-- The request of the sample is identified and passes its admission. -/
theorem limits_refine_office :
    ∃ live : LiveRuntime, ∃ admissionMoves : List AdmissionMove,
      InStep (Service.step officeCrates officeEnvironment officeOrder (fun _ => []) officeErrors)
        (Admissions.step live.runtime.auth live.runtime.config.limits.globalConcurrency)
        (Service.Answers
          (admissionAnswers officeCrates officeEnvironment officeOrder (fun _ => []) officeErrors) 0)
        (fun service admissions => ∀ live : LiveRuntime, service.runtimes[0]? = some live →
          Guards live.runtime.auth service.clock (service.calls.filter (ApiCall.isOn 0)) live.limits
            admissions)
        (.initial officeRuntime)
        (.initial live.runtime.auth live.runtime.config.limits.globalConcurrency) officeMoves
        admissionMoves ∧
      Guards live.runtime.auth (officeService officeMoves).clock
        ((officeService officeMoves).calls.filter (ApiCall.isOn 0)) live.limits
        (admissionMoves.foldl
          (Admissions.step live.runtime.auth live.runtime.config.limits.globalConcurrency)
          (.initial live.runtime.auth live.runtime.config.limits.globalConcurrency)) := by
  have first : 0 < (officeService officeMoves).runtimes.length := by decide +kernel
  exact ⟨_, @limits_refine officeCrates officeEnvironment officeOrder (fun _ => []) officeErrors
    officeRuntime officeMoves 0 _ (List.getElem?_eq_getElem first)⟩

end ClaudeProxy
