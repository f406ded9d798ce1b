/-
Module: ClaudeProxy.Proofs.ServiceSteps
Layer: Proofs
Purpose: What a move of the service can do, said once: which calls, runtimes, contacts and answers there
  are after it. From this a rule for properties that depend on a request, the runtime it loaded, which
  never changes while others are put in place, and the attempts that were made.
Trusted boundary: none
Main exports: advance_runtime, Service.step_cases, CallView, ServiceRules, Service.Holds,
  ServiceRules.run, officeService
-/
import ClaudeProxy.Library.Run
import ClaudeProxy.Proofs.CountRouting
import ClaudeProxy.Server.Service

namespace ClaudeProxy

open Library

section Steps

variable {crates : Crates} {environment : Environment} {order : IterationOrder}
  {hashKey : String → Digest} {errors : JsonErrors}

/-! ### One step of a call -/

/-- A look at the targets changes no configuration. -/
theorem gather_runtime (around : Surroundings) (live : LiveRuntime) (routed : RoutedRequest)
    (next : List Candidate → StepResult) :
    (live.gather crates around routed next).2.runtime = live.runtime := by
  unfold LiveRuntime.gather
  split <;> rfl

/-- A step leaves the runtime as it was built. -/
theorem advance_runtime (request : ApiRequest) (clock : Instant) (around : Surroundings)
    (live : LiveRuntime) (phase : CallPhase) :
    (phase.advance crates environment order hashKey errors request clock around live).2.runtime =
      live.runtime := by
  cases phase with
  | arrived =>
      simp only [CallPhase.advance]
      split <;> rfl
  | timed client now =>
      simp only [CallPhase.advance]
      split <;> rfl
  | counted client =>
      simp only [CallPhase.advance]
      split <;> rfl
  | permitted client =>
      simp only [CallPhase.advance]
      split
      · split <;> rfl
      · split
        · rfl
        · exact gather_runtime ..
  | admitted client =>
      simp only [CallPhase.advance]
      split
      · rfl
      · exact gather_runtime ..
  | executing client routed left failures =>
      cases left with
      | nil => rfl
      | cons candidate rest =>
          simp only [CallPhase.advance]
          split <;> rfl
  | opening client routed inputTokens left failures =>
      cases left with
      | nil => rfl
      | cons candidate rest =>
          simp only [CallPhase.advance]
          split <;> rfl
  | reading client routed inputTokens candidate events => rfl

/-- Neither does any step of a request. -/
theorem runtime_of_advance {request : ApiRequest} {clock : Instant} {around : Surroundings}
    {live after : LiveRuntime} {phase : CallPhase} {result : StepResult}
    (stepped : phase.advance crates environment order hashKey errors request clock around live =
      (result, after)) : after.runtime = live.runtime := by
  have same := @advance_runtime crates environment order hashKey errors request clock around live
    phase
  rwa [stepped] at same

/-! ### One move -/

/-- What holds of each item and of one more holds of all. -/
theorem forall_snoc {α : Type} {holds : α → Prop} {items : List α} {last : α}
    (each : ∀ item ∈ items, holds item) (atLast : holds last) :
    ∀ item ∈ items ++ [last], holds item :=
  List.forall_mem_append.mpr ⟨each, List.forall_mem_singleton.mpr atLast⟩

/-- A call in progress, found with its runtime. -/
theorem Service.find_eq_some {service : Service} {index : Nat} {call : ApiCall} {live : LiveRuntime} :
    service.find index = some (call, live) ↔
      service.calls[index]? = some call ∧ service.runtimes[call.runtime]? = some live := by
  unfold Service.find
  simp only [Option.bind_eq_bind, Option.bind_eq_some_iff, Option.pure_def, Option.some.injEq,
    Prod.mk.injEq]
  constructor
  · rintro ⟨found, foundEq, state, stateEq, rfl, rfl⟩
    exact ⟨foundEq, stateEq⟩
  · rintro ⟨foundEq, stateEq⟩
    exact ⟨call, foundEq, live, stateEq, rfl, rfl⟩

variable (crates environment order hashKey errors) in
/-- What a move makes of the service. -/
inductive Service.Change (service : Service) : Service → Prop where
  | idle (clock : Instant) (heedsHangup : Bool) :
      Change service { service with clock := clock, heedsHangup := heedsHangup }
  | arrived (request : ApiRequest) :
      Change service { service with
        calls := service.calls ++
          [{ request := request, runtime := service.runtimes.length - 1, phase := .arrived }] }
  | settled {index : Nat} {call : ApiCall} {live after : LiveRuntime} {around : Surroundings}
      {result : StepResult} (found : service.find index = some (call, live))
      (stepped : call.phase.advance crates environment order hashKey errors call.request
        service.clock around live = (result, after)) :
      Change service
        (service.settle environment index call around.upstream result after)
  | left {index : Nat} {call : ApiCall} {live : LiveRuntime}
      (found : service.find index = some (call, live)) :
      Change service
        { service.leave index call live with dropped := service.dropped ++ [call] }
  | swapped {config : AppConfig} {runtime : Runtime} {current : LiveRuntime}
      (built : Runtime.new crates environment hashKey config = some (.ok runtime))
      (isCurrent : service.runtimes.getLast? = some current)
      (sameServer : runtime.config.server = current.runtime.config.server) :
      Change service { service with runtimes := service.runtimes ++ [runtime.live] }

/-- A reload puts a new runtime in place or leaves the service as it is, but for whether it heeds
another. -/
theorem Service.hangup_cases (loaded : Except ProxyError AppConfig) (service : Service) :
    service.Change crates environment order hashKey errors
      (service.hangup crates environment hashKey loaded) := by
  have unchanged : service.Change crates environment order hashKey errors service :=
    .idle service.clock service.heedsHangup
  unfold Service.hangup
  split
  · exact unchanged
  · cases loaded with
    | error error => exact unchanged
    | ok config =>
        dsimp only
        split
        · exact .idle service.clock false
        · exact unchanged
        · rename_i runtime built
          cases isCurrent : service.runtimes.getLast? with
          | none => exact unchanged
          | some current =>
              dsimp only
              split
              · rename_i sameServer
                exact .swapped built isCurrent sameServer
              · exact unchanged

/-- A reload leaves everything but the runtimes, and puts the one that it has built in place or none. -/
theorem hangup_runtimes (loaded : Except ProxyError AppConfig) (service : Service) :
    ∃ more heeds, service.hangup crates environment hashKey loaded =
        { service with runtimes := service.runtimes ++ more, heedsHangup := heeds } ∧
      (more = [] ∨ ∃ config runtime, loaded = .ok config ∧
        Runtime.new crates environment hashKey config = some (.ok runtime) ∧
        more = [runtime.live]) := by
  have idle : ∀ heeds, ∃ more after, { service with heedsHangup := heeds } =
        { service with runtimes := service.runtimes ++ more, heedsHangup := after } ∧
      (more = [] ∨ ∃ config runtime, loaded = .ok config ∧
        Runtime.new crates environment hashKey config = some (.ok runtime) ∧
        more = [runtime.live]) :=
    fun heeds => ⟨[], heeds, by rw [List.append_nil], .inl rfl⟩
  unfold Service.hangup
  split
  · exact idle _
  · split
    · exact idle _
    · split
      · exact idle _
      · exact idle _
      · rename_i runtime built
        split
        · split
          · exact ⟨_, service.heedsHangup, rfl, .inr ⟨_, runtime, rfl, built, rfl⟩⟩
          · exact idle _
        · exact idle _

/-- Each move of the service is one of five changes. -/
theorem Service.step_cases (service : Service) (move : ServiceMove) :
    service.Change crates environment order hashKey errors
      (service.step crates environment order hashKey errors move) := by
  have unchanged : service.Change crates environment order hashKey errors service :=
    .idle service.clock service.heedsHangup
  cases move with
  | tick elapsed => exact .idle (service.clock + elapsed) service.heedsHangup
  | arrive request => exact .arrived request
  | advance index around =>
      simp only [Service.step, Service.advance]
      cases found : service.find index with
      | none => exact unchanged
      | some entry => exact .settled found rfl
  | disconnect index =>
      simp only [Service.step]
      cases found : service.find index with
      | none => exact unchanged
      | some entry => exact .left found
  | hangup loaded => exact Service.hangup_cases loaded service

/-- An attempt is made on the runtime of its request. -/
theorem contact_runtime {call : ApiCall} {upstream : Upstream} {contact : Contact}
    (isContact : call.contact upstream = some contact) :
    contact.runtime = call.runtime := by
  unfold ApiCall.contact at isContact
  split at isContact
  · cases isContact
    rfl
  · cases isContact
    rfl
  · cases isContact

/-! ### Runtimes stay -/

/-- Every runtime is still there, at its place. -/
def Service.KeepsRuntimes (before after : Service) : Prop :=
  ∀ (number : Nat) (live : LiveRuntime), before.runtimes[number]? = some live →
    ∃ later : LiveRuntime, after.runtimes[number]? = some later ∧ later.runtime = live.runtime

theorem Service.KeepsRuntimes.same {before after : Service}
    (same : after.runtimes = before.runtimes) : before.KeepsRuntimes after := by
  intro number live found
  exact ⟨live, same ▸ found, rfl⟩

/-- A step of a request leaves the configuration of its runtime as it is. -/
theorem Service.keepsRuntimes_set {before after : Service} {number : Nat} {live later : LiveRuntime}
    (isAfter : after.runtimes = before.runtimes.set number later)
    (found : before.runtimes[number]? = some live) (same : later.runtime = live.runtime) :
    before.KeepsRuntimes after := by
  intro other held isHeld
  rw [isAfter]
  by_cases here : number = other
  · subst here
    have bound := (List.getElem?_eq_some_iff.mp found).1
    rw [found] at isHeld
    cases isHeld
    exact ⟨later, List.getElem?_set_self bound, same⟩
  · exact ⟨held, by rw [List.getElem?_set_ne here]; exact isHeld, rfl⟩

/-- The runtime of a request after its step: what the request holds is dropped when it leaves. -/
def StepResult.liveAfter (call : ApiCall) (live : LiveRuntime) : StepResult → LiveRuntime
  | .goesOn _ => live
  | .ends _ => { live with limits := call.phase.release live.limits }

/-- So does what a request gives back in the end. -/
theorem StepResult.liveAfter_runtime (call : ApiCall) (live : LiveRuntime) (result : StepResult) :
    (result.liveAfter call live).runtime = live.runtime := by
  cases result <;> rfl

theorem StepResult.liveAfter_circuits (call : ApiCall) (live : LiveRuntime) (result : StepResult) :
    (result.liveAfter call live).circuits = live.circuits := by
  cases result <;> rfl

/-- The requests in progress after a step of one. -/
def StepResult.callsAfter (index : Nat) (call : ApiCall) (calls : List ApiCall) :
    StepResult → List ApiCall
  | .goesOn next => calls.set index { call with phase := next }
  | .ends _ => calls.eraseIdx index

theorem Service.settle_runtimes (environment : Environment) (index : Nat) (call : ApiCall)
    (upstream : Upstream) (result : StepResult) (live : LiveRuntime) (service : Service) :
    (service.settle environment index call upstream result live).runtimes =
      service.runtimes.set call.runtime (result.liveAfter call live) := by
  cases result <;> rfl

theorem Service.Change.keepsRuntimes {service after : Service}
    (change : service.Change crates environment order hashKey errors after) :
    service.KeepsRuntimes after := by
  cases change with
  | idle clock heedsHangup => exact .same rfl
  | arrived request => exact .same rfl
  | @settled index call live stepped around result found isStep =>
      have isAfter := service.settle_runtimes environment index call around.upstream result stepped
      exact Service.keepsRuntimes_set isAfter (Service.find_eq_some.mp found).2
        ((result.liveAfter_runtime call stepped).trans (runtime_of_advance isStep))
  | left found =>
      exact Service.keepsRuntimes_set rfl (Service.find_eq_some.mp found).2 rfl
  | swapped built isCurrent sameServer =>
      intro number live found
      have bound := (List.getElem?_eq_some_iff.mp found).1
      exact ⟨live, by rw [List.getElem?_append_left bound]; exact found, rfl⟩

/-! ### Properties of requests -/

/-- What a request has to do with: the runtime it loaded, with its number, and the attempts so far. -/
structure CallView where
  contacts : List Contact
  number : Nat
  runtime : Runtime
  request : ApiRequest

namespace CallView

def call (phase : CallPhase) (view : CallView) : ApiCall := ⟨view.request, view.number, phase⟩

/-- After more attempts. -/
def grow (more : List Contact) (view : CallView) : CallView :=
  { view with contacts := view.contacts ++ more }

end CallView

def Service.view (number : Nat) (runtime : Runtime) (request : ApiRequest) (service : Service) :
    CallView := ⟨service.contacts, number, runtime, request⟩

variable (crates environment order hashKey errors) in
/-- What holds of every runtime, and of every call, attempt and outcome on the runtime that its request
loaded. It may depend on attempts that were made, and is kept when more are made. -/
structure ServiceRules (onRuntime : Runtime → Prop) (onCall : CallView → CallPhase → Prop)
    (onContact : Runtime → Contact → Prop)
    (onOutcome : CallView → Option (Except ProxyError ProxyResponse) → Prop) : Prop where
  built : ∀ config runtime, Runtime.new crates environment hashKey config = some (.ok runtime) →
    onRuntime runtime
  arrived : ∀ view, onRuntime view.runtime → onCall view .arrived
  callGrows : ∀ (view : CallView) more phase, onCall view phase → onCall (view.grow more) phase
  outcomeGrows : ∀ (view : CallView) more outcome,
    onOutcome view outcome → onOutcome (view.grow more) outcome
  contacted : ∀ (view : CallView) phase upstream contact, onRuntime view.runtime →
    onCall view phase → (view.call phase).contact upstream = some contact →
    onContact view.runtime contact
  stepped : ∀ (view : CallView) (live : LiveRuntime) phase clock (around : Surroundings) result after,
    onRuntime view.runtime → onCall view phase → live.runtime = view.runtime →
    phase.advance crates environment order hashKey errors view.request clock around live =
      (result, after) →
    let later := view.grow ((view.call phase).contact around.upstream).toList
    (∀ next, result = .goesOn next → onCall later next) ∧
      ∀ outcome, result = .ends outcome → onOutcome later outcome

variable (environment) in
/-- They hold of everything in the service. -/
structure Service.Holds (onRuntime : Runtime → Prop) (onCall : CallView → CallPhase → Prop)
    (onContact : Runtime → Contact → Prop)
    (onOutcome : CallView → Option (Except ProxyError ProxyResponse) → Prop) (service : Service) : Prop where
  runtimes : ∀ live ∈ service.runtimes, onRuntime live.runtime
  present : service.runtimes ≠ []
  calls : ∀ call ∈ service.calls, ∃ live, service.runtimes[call.runtime]? = some live ∧
    onCall (service.view call.runtime live.runtime call.request) call.phase
  contacts : ∀ contact ∈ service.contacts, ∃ live,
    service.runtimes[contact.runtime]? = some live ∧ onContact live.runtime contact
  answers : ∀ answer ∈ service.answers, ∃ live, service.runtimes[answer.runtime]? = some live ∧
    ∃ outcome, answer.response = answer.request.respond environment outcome ∧
      onOutcome (service.view answer.runtime live.runtime answer.request) outcome

section Rules

variable {onRuntime : Runtime → Prop} {onCall : CallView → CallPhase → Prop}
  {onContact : Runtime → Contact → Prop}
  {onOutcome : CallView → Option (Except ProxyError ProxyResponse) → Prop}

/-- What holds on the runtime of a number still does after a move. -/
theorem Service.KeepsRuntimes.carry {before after : Service} (keeps : before.KeepsRuntimes after)
    (holds : Runtime → Prop) {number : Nat}
    (onBefore : ∃ live : LiveRuntime, before.runtimes[number]? = some live ∧ holds live.runtime) :
    ∃ live : LiveRuntime, after.runtimes[number]? = some live ∧ holds live.runtime := by
  obtain ⟨live, found, isHeld⟩ := onBefore
  obtain ⟨later, laterFound, same⟩ := keeps number live found
  exact ⟨later, laterFound, same ▸ isHeld⟩

/-- Every runtime of a list in which one is replaced is as it was. -/
theorem runtimes_set {runtimes : List LiveRuntime} {number : Nat} {live later : LiveRuntime}
    (each : ∀ live ∈ runtimes, onRuntime live.runtime) (found : runtimes[number]? = some live)
    (same : later.runtime = live.runtime) :
    ∀ live ∈ runtimes.set number later, onRuntime live.runtime := by
  intro other member
  rcases List.mem_or_eq_of_mem_set member with old | new
  · exact each other old
  · rw [new, same]
    exact each live (List.mem_of_getElem? found)

/-- What does not depend on a move is kept by it: the runtimes stay, and attempts are only added. -/
structure Service.Carried (onCall : CallView → CallPhase → Prop) (onContact : Runtime → Contact → Prop)
    (onOutcome : CallView → Option (Except ProxyError ProxyResponse) → Prop) (environment : Environment)
    (service after : Service) : Prop where
  calls : ∀ call ∈ service.calls, ∃ live : LiveRuntime,
    after.runtimes[call.runtime]? = some live ∧
      onCall (after.view call.runtime live.runtime call.request) call.phase
  contacts : ∀ contact ∈ service.contacts, ∃ live : LiveRuntime,
    after.runtimes[contact.runtime]? = some live ∧ onContact live.runtime contact
  answers : ∀ answer ∈ service.answers, ∃ live : LiveRuntime,
    after.runtimes[answer.runtime]? = some live ∧
      ∃ outcome, answer.response = answer.request.respond environment outcome ∧
        onOutcome (after.view answer.runtime live.runtime answer.request) outcome

/-- What holds of the requests and attempts so far still holds after a step that only adds an
attempt. -/
theorem Service.Holds.carried
    (rules : ServiceRules crates environment order hashKey errors onRuntime onCall onContact onOutcome)
    {service after : Service}
    (holds : service.Holds environment onRuntime onCall onContact onOutcome)
    (keeps : service.KeepsRuntimes after) {more : List Contact}
    (grown : after.contacts = service.contacts ++ more) :
    service.Carried onCall onContact onOutcome environment after := by
  have views : ∀ number runtime request,
      after.view number runtime request = (service.view number runtime request).grow more := by
    intro number runtime request
    simp only [Service.view, CallView.grow, grown]
  constructor
  · intro call member
    simp only [views]
    exact keeps.carry
      (fun runtime => onCall ((service.view call.runtime runtime call.request).grow more) call.phase)
      (by
        obtain ⟨live, found, onLive⟩ := holds.calls call member
        exact ⟨live, found, rules.callGrows _ more _ onLive⟩)
  · intro contact member
    exact keeps.carry (fun runtime => onContact runtime contact) (holds.contacts contact member)
  · intro answer member
    simp only [views]
    exact keeps.carry
      (fun runtime => ∃ outcome, answer.response = answer.request.respond environment outcome ∧
        onOutcome ((service.view answer.runtime runtime answer.request).grow more) outcome)
      (by
        obtain ⟨live, found, outcome, isResponse, onLive⟩ := holds.answers answer member
        exact ⟨live, found, outcome, isResponse, rules.outcomeGrows _ more _ onLive⟩)

/-- A step of a request keeps the rules. -/
theorem Service.Holds.settled
    (rules : ServiceRules crates environment order hashKey errors onRuntime onCall onContact onOutcome)
    {service : Service} (holds : service.Holds environment onRuntime onCall onContact onOutcome)
    {index : Nat} {call : ApiCall} {live after : LiveRuntime} {around : Surroundings}
    {result : StepResult} (found : service.find index = some (call, live))
    (isStep : call.phase.advance crates environment order hashKey errors call.request service.clock
      around live = (result, after)) :
    (service.settle environment index call around.upstream result after).Holds environment onRuntime
      onCall onContact onOutcome := by
  have change : service.Change crates environment order hashKey errors _ := .settled found isStep
  have keeps := change.keepsRuntimes
  obtain ⟨isCall, isLive⟩ := Service.find_eq_some.mp found
  have onLive := holds.runtimes live (List.mem_of_getElem? isLive)
  obtain ⟨own, isOwn, onOwn⟩ := holds.calls call (List.mem_of_getElem? isCall)
  rw [isLive] at isOwn
  cases isOwn
  obtain ⟨goesOn, ends⟩ := rules.stepped (service.view call.runtime live.runtime call.request) live
    call.phase service.clock around result after onLive onOwn rfl isStep
  have isAfter := service.settle_runtimes environment index call around.upstream result after
  have same := (result.liveAfter_runtime call after).trans (runtime_of_advance isStep)
  obtain ⟨here, isHere, sameHere⟩ := keeps call.runtime live isLive
  have grown : (service.settle environment index call around.upstream result after).contacts =
      service.contacts ++ (call.contact around.upstream).toList := by
    cases result <;> rfl
  have carried := holds.carried rules keeps grown
  have view : (service.settle environment index call around.upstream result after).view call.runtime
      here.runtime call.request =
        (service.view call.runtime live.runtime call.request).grow
          (call.contact around.upstream).toList := by
    simp only [Service.view, CallView.grow, grown, sameHere]
  constructor
  · rw [isAfter]
    exact runtimes_set holds.runtimes isLive same
  · rw [isAfter]
    simpa using holds.present
  · intro other member
    cases result with
    | goesOn phase =>
        rcases List.mem_or_eq_of_mem_set member with old | new
        · exact carried.calls other old
        · rw [new]
          refine ⟨here, isHere, ?_⟩
          rw [view]
          exact goesOn phase rfl
    | ends outcome => exact carried.calls other (List.mem_of_mem_eraseIdx member)
  · intro contact member
    rw [grown] at member
    rcases List.mem_append.mp member with old | new
    · exact carried.contacts contact old
    · have isContact := Option.mem_toList.mp new
      refine ⟨here, by rw [contact_runtime isContact]; exact isHere, ?_⟩
      rw [sameHere]
      exact rules.contacted (service.view call.runtime live.runtime call.request) call.phase
        around.upstream contact onLive onOwn isContact
  · intro answer member
    cases result with
    | goesOn phase => exact carried.answers answer member
    | ends outcome =>
        rcases List.mem_append.mp member with old | new
        · exact carried.answers answer old
        · rw [List.mem_singleton.mp new]
          refine ⟨here, isHere, outcome, rfl, ?_⟩
          rw [view]
          exact ends outcome rfl

/-- So does every change of the service. -/
theorem Service.Holds.change
    (rules : ServiceRules crates environment order hashKey errors onRuntime onCall onContact onOutcome)
    {service after : Service}
    (holds : service.Holds environment onRuntime onCall onContact onOutcome)
    (change : service.Change crates environment order hashKey errors after) :
    after.Holds environment onRuntime onCall onContact onOutcome := by
  have keeps := change.keepsRuntimes
  cases change with
  | idle clock heedsHangup =>
      obtain ⟨runtimes, present, calls, contacts, answers⟩ := holds
      exact ⟨runtimes, present, calls, contacts, answers⟩
  | arrived request =>
      obtain ⟨runtimes, present, calls, contacts, answers⟩ := holds
      refine ⟨runtimes, present, ?_, contacts, answers⟩
      intro call member
      rcases List.mem_append.mp member with old | new
      · exact calls call old
      · rw [List.mem_singleton.mp new]
        have isLast := List.getLast?_eq_some_getLast present
        generalize service.runtimes.getLast present = last at isLast
        refine ⟨last, by rw [← List.getLast?_eq_getElem?]; exact isLast, ?_⟩
        exact rules.arrived _ (runtimes last (List.mem_of_getLast? isLast))
  | settled found isStep => exact holds.settled rules found isStep
  | left found =>
      obtain ⟨_, isLive⟩ := Service.find_eq_some.mp found
      have carried := holds.carried rules keeps (List.append_nil _).symm
      refine ⟨runtimes_set holds.runtimes isLive rfl, ?_, ?_, carried.contacts, carried.answers⟩
      · simpa [Service.leave, Service.setRuntime] using holds.present
      · intro other member
        exact carried.calls other (List.mem_of_mem_eraseIdx member)
  | swapped built isCurrent sameServer =>
      have carried := holds.carried rules keeps (List.append_nil _).symm
      refine ⟨?_, List.append_ne_nil_of_left_ne_nil holds.present _, carried.calls,
        carried.contacts, carried.answers⟩
      intro live member
      rcases List.mem_append.mp member with old | new
      · exact holds.runtimes live old
      · rw [List.mem_singleton.mp new]
        exact rules.built _ _ built

/-- So the rules hold in every run. -/
theorem ServiceRules.run
    (rules : ServiceRules crates environment order hashKey errors onRuntime onCall onContact onOutcome)
    {config : AppConfig} {runtime : Runtime}
    (built : Runtime.new crates environment hashKey config = some (.ok runtime))
    (moves : List ServiceMove) :
    (Service.run crates environment order hashKey errors runtime moves).Holds environment onRuntime
      onCall onContact onOutcome := by
  apply foldl_invariant (Service.Holds environment onRuntime onCall onContact onOutcome)
  · intro service move holds
    exact holds.change rules (service.step_cases move)
  · constructor
    · intro live member
      rw [List.mem_singleton.mp member]
      exact rules.built config runtime built
    · exact List.cons_ne_nil _ _
    · exact fun _ => List.not_mem_nil.elim
    · exact fun _ => List.not_mem_nil.elim
    · exact fun _ => List.not_mem_nil.elim

end Rules

end Steps

/-! ### A sample -/

/-- A request that shows the key of the only client. -/
def officeRequest : ApiRequest where
  endpoint := .messages
  headers := officeHeaders
  body := some (officeText [])
  requestUuid := "1"
  messageUuid := "2"

def officeAround : Surroundings where
  upstream := officeUpstreams 0
  draws _ := 0
  clock _ := 0
  now := 0

def officeOrder : IterationOrder := ⟨List.reverse, List.reverse_perm⟩

def officeService (moves : List ServiceMove) : Service :=
  Service.run officeCrates officeEnvironment officeOrder (fun _ => []) officeErrors
    officeRuntime moves

/-- A request comes, the configuration is loaded again, and the request goes on to its first
attempt, which fails. -/
def officeMoves : List ServiceMove :=
  [.arrive officeRequest, .hangup (.ok officeConfig)] ++ List.replicate 6 (.advance 0 officeAround)

end ClaudeProxy
