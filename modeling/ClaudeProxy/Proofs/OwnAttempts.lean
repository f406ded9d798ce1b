/-
Module: ClaudeProxy.Proofs.OwnAttempts
Layer: Proofs
Purpose: A rule for what holds of a request and the attempts made for it. Requests are told apart by
  the ids that are drawn for them. What one step of a request keeps, for the request and its own
  attempts, holds of every request in every run of the service, whatever the others do meanwhile.
Trusted boundary: none
Main exports: Service.attemptsOf, AttemptRules, Service.HoldsOwn, Service.HoldsOwn.change,
  AttemptRules.run, Service.HoldsOwn.owner
-/
import ClaudeProxy.Proofs.AnswerSources

namespace ClaudeProxy

open Library

/-! ### The attempts for one request -/

/-- The id that is drawn for a request tells it apart. -/
def Contact.isFor (drawn : String) (contact : Contact) : Bool :=
  contact.request.requestUuid = drawn

def Service.attemptsOf (drawn : String) (service : Service) : List Contact :=
  service.contacts.filter (Contact.isFor drawn)

/-- The ids of the requests that are in progress or over. -/
def Service.drawn (service : Service) : List String := service.requests.map ApiRequest.requestUuid

/-- A request with its own attempts. -/
def Service.ownView (number : Nat) (runtime : Runtime) (request : ApiRequest) (service : Service) :
    CallView := ⟨service.attemptsOf request.requestUuid, number, runtime, request⟩

section Rules

variable (crates : Crates) (environment : Environment) (order : IterationOrder)
  (hashKey : String → Digest) (errors : JsonErrors)

/-- What holds of a request in progress and its own attempts, and what of one that is over: answered
with an outcome, which is itself `none` if the request panicked, or dropped (`none`). -/
structure AttemptRules (onCall : CallView → CallPhase → Prop)
    (onOver : CallView → Option (Option (Except ProxyError ProxyResponse)) → Prop) : Prop where
  arrived : ∀ number runtime request, onCall ⟨[], number, runtime, request⟩ .arrived
  stepped : ∀ (view : CallView) (live : LiveRuntime) phase clock (around : Surroundings) result
      after,
    onCall view phase → live.runtime = view.runtime →
    phase.advance crates environment order hashKey errors view.request clock around live =
      (result, after) →
    let later := view.grow ((view.call phase).contact around.upstream).toList
    (∀ next, result = .goesOn next → onCall later next) ∧
      (∀ outcome, result = .ends outcome → onOver later (some outcome))
  left : ∀ view phase, onCall view phase → onOver view none

/-- They hold of every request, each with its own attempts. -/
structure Service.HoldsOwn (onCall : CallView → CallPhase → Prop)
    (onOver : CallView → Option (Option (Except ProxyError ProxyResponse)) → Prop) (service : Service) :
    Prop where
  present : service.runtimes ≠ []
  known : ∀ contact ∈ service.contacts, contact.request.requestUuid ∈ service.drawn
  calls : ∀ call ∈ service.calls, ∃ live : LiveRuntime,
    service.runtimes[call.runtime]? = some live ∧
      onCall (service.ownView call.runtime live.runtime call.request) call.phase
  answers : ∀ answer ∈ service.answers, ∃ live : LiveRuntime,
    service.runtimes[answer.runtime]? = some live ∧
      ∃ outcome, answer.response = answer.request.respond environment outcome ∧
        onOver (service.ownView answer.runtime live.runtime answer.request) (some outcome)
  dropped : ∀ call ∈ service.dropped, ∃ live : LiveRuntime,
    service.runtimes[call.runtime]? = some live ∧
      onOver (service.ownView call.runtime live.runtime call.request) none

end Rules

section Runs

variable {crates : Crates} {environment : Environment} {order : IterationOrder}
  {hashKey : String → Digest} {errors : JsonErrors} {onCall : CallView → CallPhase → Prop}
  {onOver : CallView → Option (Option (Except ProxyError ProxyResponse)) → Prop} {service after : Service}
  {index : Nat} {call : ApiCall} {live : LiveRuntime}

/-! ### What a step leaves as it is -/

theorem contact_request {upstream : Upstream} {contact : Contact}
    (isContact : call.contact upstream = some contact) : contact.request = call.request := by
  unfold ApiCall.contact at isContact
  split at isContact
  · cases isContact
    rfl
  · cases isContact
    rfl
  · cases isContact

/-- An attempt is one for its own request. -/
theorem attemptsOf_own {upstream : Upstream}
    (grown : after.contacts = service.contacts ++ (call.contact upstream).toList) :
    after.attemptsOf call.request.requestUuid =
      service.attemptsOf call.request.requestUuid ++ (call.contact upstream).toList := by
  unfold Service.attemptsOf
  rw [grown, List.filter_append]
  cases made : call.contact upstream with
  | none => rfl
  | some contact => simp [Contact.isFor, contact_request made]

/-- It is one for no other request. -/
theorem attemptsOf_other {upstream : Upstream} {drawn : String}
    (grown : after.contacts = service.contacts ++ (call.contact upstream).toList)
    (other : drawn ≠ call.request.requestUuid) :
    after.attemptsOf drawn = service.attemptsOf drawn := by
  unfold Service.attemptsOf
  rw [grown, List.filter_append]
  cases made : call.contact upstream with
  | none => simp
  | some contact => simp [Contact.isFor, contact_request made, Ne.symm other]

theorem attemptsOf_unknown {drawn : String}
    (known : ∀ contact ∈ service.contacts, contact.request.requestUuid ∈ service.drawn)
    (unknown : drawn ∉ service.drawn) : service.attemptsOf drawn = [] := by
  unfold Service.attemptsOf
  rw [List.filter_eq_nil_iff]
  intro contact member isFor
  rw [Contact.isFor, decide_eq_true_iff] at isFor
  exact unknown (isFor ▸ known contact member)

/-- The other requests in progress have other ids. -/
theorem drawn_ne_of_call (distinct : service.drawn.Nodup)
    (isCall : service.calls[index]? = some call) {other : ApiCall}
    (isOther : other ∈ service.calls.eraseIdx index) :
    other.request.requestUuid ≠ call.request.requestUuid := by
  unfold Service.drawn Service.requests at distinct
  rw [List.append_assoc, List.map_append] at distinct
  have calls := (List.nodup_append.mp distinct).1
  have taken := (requests_eraseIdx isCall).map ApiRequest.requestUuid
  have nodup := taken.nodup_iff.mpr calls
  rw [List.map_cons, List.nodup_cons] at nodup
  intro same
  apply nodup.1
  rw [← same, List.map_map]
  exact List.mem_map_of_mem isOther

/-- So have the requests that are over. -/
theorem drawn_ne_of_over (distinct : service.drawn.Nodup) (isCall : call ∈ service.calls)
    {request : ApiRequest} (isOver : request ∈ service.answers.map ApiAnswer.request ++
      service.dropped.map ApiCall.request) :
    request.requestUuid ≠ call.request.requestUuid := by
  unfold Service.drawn Service.requests at distinct
  rw [List.append_assoc, List.map_append] at distinct
  have apart := (List.nodup_append.mp distinct).2.2
  intro same
  exact apart _ (List.mem_map_of_mem (List.mem_map_of_mem isCall)) _ (List.mem_map_of_mem isOver)
    same.symm

theorem ownView_carry (keeps : service.KeepsRuntimes after) {number : Nat} {request : ApiRequest}
    (same : after.attemptsOf request.requestUuid = service.attemptsOf request.requestUuid)
    (holds : CallView → Prop)
    (before : ∃ live : LiveRuntime, service.runtimes[number]? = some live ∧
      holds (service.ownView number live.runtime request)) :
    ∃ live : LiveRuntime, after.runtimes[number]? = some live ∧
      holds (after.ownView number live.runtime request) := by
  unfold Service.ownView at before ⊢
  rw [same]
  exact keeps.carry (fun runtime =>
    holds ⟨service.attemptsOf request.requestUuid, number, runtime, request⟩) before

/-! ### One move -/

theorem mem_drawn_of_perm (same : after.requests.Perm service.requests) {drawn : String} :
    drawn ∈ after.drawn ↔ drawn ∈ service.drawn := (same.map ApiRequest.requestUuid).mem_iff

theorem mem_drawn_of_call (isCall : call ∈ service.calls) :
    call.request.requestUuid ∈ service.drawn := by
  apply List.mem_map_of_mem
  unfold Service.requests
  rw [List.append_assoc]
  exact List.mem_append_left _ (List.mem_map_of_mem isCall)

/-- What a step of a request leaves as it is: all that holds of the other requests. -/
structure Service.CarriedOwn (onCall : CallView → CallPhase → Prop)
    (onOver : CallView → Option (Option (Except ProxyError ProxyResponse)) → Prop)
    (environment : Environment) (index : Nat) (service after : Service) : Prop where
  calls : ∀ call ∈ service.calls.eraseIdx index, ∃ live : LiveRuntime,
    after.runtimes[call.runtime]? = some live ∧
      onCall (after.ownView call.runtime live.runtime call.request) call.phase
  answers : ∀ answer ∈ service.answers, ∃ live : LiveRuntime,
    after.runtimes[answer.runtime]? = some live ∧
      ∃ outcome, answer.response = answer.request.respond environment outcome ∧
        onOver (after.ownView answer.runtime live.runtime answer.request) (some outcome)
  dropped : ∀ call ∈ service.dropped, ∃ live : LiveRuntime,
    after.runtimes[call.runtime]? = some live ∧
      onOver (after.ownView call.runtime live.runtime call.request) none

theorem Service.HoldsOwn.carried (holds : service.HoldsOwn environment onCall onOver)
    (distinct : service.drawn.Nodup) (keeps : service.KeepsRuntimes after)
    (isCall : service.calls[index]? = some call) {upstream : Upstream}
    (grown : after.contacts = service.contacts ++ (call.contact upstream).toList) :
    service.CarriedOwn onCall onOver environment index after := by
  have member := List.mem_of_getElem? isCall
  constructor
  · intro other isOther
    have same := attemptsOf_other grown (drawn_ne_of_call distinct isCall isOther)
    exact ownView_carry keeps same (fun view => onCall view other.phase)
      (holds.calls other (List.mem_of_mem_eraseIdx isOther))
  · intro answer isAnswer
    have isOver : answer.request ∈ service.answers.map ApiAnswer.request ++
        service.dropped.map ApiCall.request :=
      List.mem_append_left _ (List.mem_map_of_mem isAnswer)
    have same := attemptsOf_other grown (drawn_ne_of_over distinct member isOver)
    exact ownView_carry keeps same
      (fun view => ∃ outcome, answer.response = answer.request.respond environment outcome ∧
        onOver view (some outcome)) (holds.answers answer isAnswer)
  · intro other isDropped
    have isOver : other.request ∈ service.answers.map ApiAnswer.request ++
        service.dropped.map ApiCall.request :=
      List.mem_append_right _ (List.mem_map_of_mem isDropped)
    have same := attemptsOf_other grown (drawn_ne_of_over distinct member isOver)
    exact ownView_carry keeps same (fun view => onOver view none) (holds.dropped other isDropped)

theorem Service.HoldsOwn.settled
    (rules : AttemptRules crates environment order hashKey errors onCall onOver)
    (holds : service.HoldsOwn environment onCall onOver) (distinct : service.drawn.Nodup)
    {later : LiveRuntime} {around : Surroundings} {result : StepResult}
    (found : service.find index = some (call, live))
    (isStep : call.phase.advance crates environment order hashKey errors call.request service.clock
      around live = (result, later)) :
    (service.settle environment index call around.upstream result later).HoldsOwn environment onCall
      onOver := by
  have change : service.Change crates environment order hashKey errors _ := .settled found isStep
  have keeps := change.keepsRuntimes
  obtain ⟨isCall, isLive⟩ := Service.find_eq_some.mp found
  have member := List.mem_of_getElem? isCall
  obtain ⟨own, isOwn, onOwn⟩ := holds.calls call member
  rw [isLive] at isOwn
  cases isOwn
  obtain ⟨goesOn, ends⟩ := rules.stepped _ live call.phase service.clock around result later
    onOwn rfl isStep
  have same := @settle_requests environment service index call isCall around.upstream result later
  have grown : (service.settle environment index call around.upstream result later).contacts =
      service.contacts ++ (call.contact around.upstream).toList := by
    cases result <;> rfl
  have carried := holds.carried distinct keeps isCall grown
  obtain ⟨here, isHere, sameHere⟩ := keeps call.runtime live isLive
  have view : (service.settle environment index call around.upstream result later).ownView
      call.runtime here.runtime call.request =
        (service.ownView call.runtime live.runtime call.request).grow
          (call.contact around.upstream).toList := by
    simp only [Service.ownView, CallView.grow, attemptsOf_own grown, sameHere]
  constructor
  · rw [service.settle_runtimes environment index call around.upstream result later]
    simpa using holds.present
  · intro contact isContact
    rw [mem_drawn_of_perm same]
    rw [grown] at isContact
    rcases List.mem_append.mp isContact with old | new
    · exact holds.known contact old
    · rw [contact_request (Option.mem_toList.mp new)]
      exact mem_drawn_of_call member
  · intro other isOther
    cases result with
    | goesOn next =>
        have bound := (List.getElem?_eq_some_iff.mp isCall).1
        have changed := (List.set_perm_cons_eraseIdx bound { call with phase := next }).mem_iff.mp
          isOther
        rcases List.mem_cons.mp changed with rfl | old
        · refine ⟨here, isHere, ?_⟩
          rw [view]
          exact goesOn next rfl
        · exact carried.calls other old
    | ends outcome => exact carried.calls other isOther
  · intro answer isAnswer
    cases result with
    | goesOn next => exact carried.answers answer isAnswer
    | ends outcome =>
        rcases List.mem_append.mp isAnswer with old | new
        · exact carried.answers answer old
        · rw [List.mem_singleton.mp new]
          refine ⟨here, isHere, outcome, rfl, ?_⟩
          rw [view]
          exact ends outcome rfl
  · intro other isDropped
    cases result with
    | goesOn next => exact carried.dropped other isDropped
    | ends outcome => exact carried.dropped other isDropped

/-- A move after which the requests are those that there were, with their attempts. -/
theorem Service.HoldsOwn.still (holds : service.HoldsOwn environment onCall onOver)
    (keeps : service.KeepsRuntimes after) (contacts : after.contacts = service.contacts)
    (calls : after.calls = service.calls) (answers : after.answers = service.answers)
    (dropped : after.dropped = service.dropped) (present : after.runtimes ≠ []) :
    after.HoldsOwn environment onCall onOver := by
  have same : ∀ drawn, after.attemptsOf drawn = service.attemptsOf drawn := by
    intro drawn
    rw [Service.attemptsOf, contacts]
    rfl
  have sameDrawn : after.drawn = service.drawn := by
    simp only [Service.drawn, Service.requests, calls, answers, dropped]
  constructor
  · exact present
  · rw [contacts, sameDrawn]
    exact holds.known
  · intro call member
    rw [calls] at member
    exact ownView_carry keeps (same _) (fun view => onCall view call.phase) (holds.calls call member)
  · intro answer member
    rw [answers] at member
    exact ownView_carry keeps (same _)
      (fun view => ∃ outcome, answer.response = answer.request.respond environment outcome ∧
        onOver view (some outcome)) (holds.answers answer member)
  · intro call member
    rw [dropped] at member
    exact ownView_carry keeps (same _) (fun view => onOver view none) (holds.dropped call member)

/-- A client that goes away takes its request along. -/
theorem Service.HoldsOwn.left
    (rules : AttemptRules crates environment order hashKey errors onCall onOver)
    (holds : service.HoldsOwn environment onCall onOver)
    (found : service.find index = some (call, live)) :
    Service.HoldsOwn environment onCall onOver
      { service.leave index call live with dropped := service.dropped ++ [call] } := by
  have change : service.Change crates environment order hashKey errors _ := .left found
  have keeps := change.keepsRuntimes
  obtain ⟨isCall, isLive⟩ := Service.find_eq_some.mp found
  have same : ∀ drawn, Service.attemptsOf drawn
      { service.leave index call live with dropped := service.dropped ++ [call] } =
        service.attemptsOf drawn := fun _ => rfl
  have perm : (Service.requests
      { service.leave index call live with dropped := service.dropped ++ [call] }).Perm
        service.requests := by
    simp only [Service.leave, Service.setRuntime, Service.requests, List.map_append, List.map_cons,
      List.map_nil]
    exact dropped_perm (requests_eraseIdx isCall)
  constructor
  · simpa [Service.leave, Service.setRuntime] using holds.present
  · intro contact isContact
    exact (mem_drawn_of_perm perm).mpr (holds.known contact isContact)
  · intro other isOther
    exact ownView_carry keeps (same _) (fun view => onCall view other.phase)
      (holds.calls other (List.mem_of_mem_eraseIdx isOther))
  · intro answer isAnswer
    exact ownView_carry keeps (same _)
      (fun view => ∃ outcome, answer.response = answer.request.respond environment outcome ∧
        onOver view (some outcome)) (holds.answers answer isAnswer)
  · intro other isDropped
    refine ownView_carry keeps (same _) (fun view => onOver view none) ?_
    rcases List.mem_append.mp isDropped with old | new
    · exact holds.dropped other old
    · rw [List.mem_singleton.mp new]
      obtain ⟨own, isOwn, onOwn⟩ := holds.calls call (List.mem_of_getElem? isCall)
      exact ⟨own, isOwn, rules.left _ call.phase onOwn⟩

/-- A request that comes in has made no attempt, if its id is a new one. -/
theorem Service.HoldsOwn.arrived
    (rules : AttemptRules crates environment order hashKey errors onCall onOver)
    (holds : service.HoldsOwn environment onCall onOver) {request : ApiRequest}
    (fresh : request.requestUuid ∉ service.drawn) :
    Service.HoldsOwn environment onCall onOver
      { service with
        calls := service.calls ++
          [{ request := request, runtime := service.runtimes.length - 1, phase := .arrived }] } := by
  obtain ⟨present, known, calls, answers, dropped⟩ := holds
  refine ⟨present, ?_, ?_, answers, dropped⟩
  · intro contact isContact
    have old := known contact isContact
    simp only [Service.drawn, Service.requests, List.map_append, List.mem_append] at old ⊢
    rcases old with (inCalls | inAnswers) | inDropped
    · exact .inl (.inl (.inl inCalls))
    · exact .inl (.inr inAnswers)
    · exact .inr inDropped
  · intro call member
    rcases List.mem_append.mp member with old | new
    · exact calls call old
    · rw [List.mem_singleton.mp new]
      have isLast := List.getLast?_eq_some_getLast present
      generalize service.runtimes.getLast present = last at isLast
      refine ⟨last, by rw [← List.getLast?_eq_getElem?]; exact isLast, ?_⟩
      have none := attemptsOf_unknown known fresh
      have began := rules.arrived (service.runtimes.length - 1) last.runtime request
      rw [← none] at began
      exact began

/-- One move keeps the rules, as long as no two requests have one id after it. -/
theorem Service.HoldsOwn.change
    (rules : AttemptRules crates environment order hashKey errors onCall onOver)
    (holds : service.HoldsOwn environment onCall onOver)
    (change : service.Change crates environment order hashKey errors after)
    (distinct : after.drawn.Nodup) : after.HoldsOwn environment onCall onOver := by
  have keeps := change.keepsRuntimes
  cases change with
  | idle clock heedsHangup => exact holds.still keeps rfl rfl rfl rfl holds.present
  | arrived request =>
      refine holds.arrived rules fun seen => ?_
      simp only [Service.drawn, Service.requests, List.map_append, List.map_cons, List.map_nil,
        List.append_assoc] at distinct seen
      have apart := List.nodup_middle.mp distinct
      exact (List.nodup_cons.mp apart).1 seen
  | @settled index call live later around result found isStep =>
      have same := @settle_requests environment service index call (Service.find_eq_some.mp found).1
        around.upstream result later
      have before := (same.map ApiRequest.requestUuid).nodup_iff.mp distinct
      exact holds.settled rules before found isStep
  | left found => exact holds.left rules found
  | swapped built isCurrent sameServer =>
      exact holds.still keeps rfl rfl rfl rfl (List.append_ne_nil_of_left_ne_nil holds.present _)

/-! ### Runs -/

theorem Service.HoldsOwn.moves
    (rules : AttemptRules crates environment order hashKey errors onCall onOver)
    (moves : List ServiceMove) (holds : service.HoldsOwn environment onCall onOver)
    (distinct : ((moves.filterMap ServiceMove.arrival ++ service.requests).map
      ApiRequest.requestUuid).Nodup) :
    (moves.foldl (Service.step crates environment order hashKey errors) service).HoldsOwn environment
      onCall onOver := by
  induction moves generalizing service with
  | nil => exact holds
  | cons move rest inductionHypothesis =>
      have here := @step_requests crates environment order hashKey errors service move
      have same : (rest.filterMap ServiceMove.arrival ++
          (service.step crates environment order hashKey errors move).requests).Perm
            ((move :: rest).filterMap ServiceMove.arrival ++ service.requests) := by
        refine (here.append_left _).trans ?_
        cases arrived : move.arrival with
        | none => simp [arrived]
        | some request =>
            simp only [List.filterMap_cons, arrived, Option.toList_some, List.cons_append]
            exact List.perm_middle
      have later := (same.map ApiRequest.requestUuid).nodup_iff.mpr distinct
      have afterMove : (service.step crates environment order hashKey errors move).drawn.Nodup := by
        rw [List.map_append] at later
        exact (List.nodup_append.mp later).2.1
      exact inductionHypothesis (holds.change rules (service.step_cases move) afterMove) later

/-- In every run in which the ids that are drawn differ, the rules hold of every request. -/
theorem AttemptRules.run
    (rules : AttemptRules crates environment order hashKey errors onCall onOver) (runtime : Runtime)
    {moves : List ServiceMove}
    (distinct : ((moves.filterMap ServiceMove.arrival).map ApiRequest.requestUuid).Nodup) :
    (Service.run crates environment order hashKey errors runtime moves).HoldsOwn environment onCall
      onOver := by
  have began : (Service.initial runtime).HoldsOwn environment onCall onOver := by
    refine ⟨List.cons_ne_nil _ _, ?_, ?_, ?_, ?_⟩
    · intro contact isContact
      exact (List.not_mem_nil isContact).elim
    · intro call isCall
      exact (List.not_mem_nil isCall).elim
    · intro answer isAnswer
      exact (List.not_mem_nil isAnswer).elim
    · intro call isDropped
      exact (List.not_mem_nil isDropped).elim
  have none : (Service.initial runtime).requests = [] := rfl
  refine began.moves rules moves ?_
  rw [none, List.append_nil]
  exact distinct

/-- An attempt was made for a request that came in, whose own attempts it is among. -/
theorem Service.HoldsOwn.owner
    (rules : AttemptRules crates environment order hashKey errors onCall onOver)
    (holds : service.HoldsOwn environment onCall onOver)
    (weaker : ∀ view outcome, onOver view (some outcome) → onOver view none) {contact : Contact}
    (isContact : contact ∈ service.contacts) :
    ∃ number live request, service.runtimes[number]? = some live ∧
      contact ∈ (service.ownView number live.runtime request).contacts ∧
        onOver (service.ownView number live.runtime request) none := by
  have own : ∀ {request : ApiRequest}, request.requestUuid = contact.request.requestUuid →
      contact ∈ service.attemptsOf request.requestUuid := by
    intro request same
    exact List.mem_filter.mpr ⟨isContact, decide_eq_true same.symm⟩
  obtain ⟨request, isRequest, same⟩ := List.mem_map.mp (holds.known contact isContact)
  unfold Service.requests at isRequest
  rcases List.mem_append.mp isRequest with here | inDropped
  · rcases List.mem_append.mp here with inCalls | inAnswers
    · obtain ⟨call, isCall, rfl⟩ := List.mem_map.mp inCalls
      obtain ⟨live, isLive, onLive⟩ := holds.calls call isCall
      exact ⟨_, live, _, isLive, own same, rules.left _ _ onLive⟩
    · obtain ⟨answer, isAnswer, rfl⟩ := List.mem_map.mp inAnswers
      obtain ⟨live, isLive, outcome, _, onLive⟩ := holds.answers answer isAnswer
      exact ⟨_, live, _, isLive, own same, weaker _ _ onLive⟩
  · obtain ⟨call, isDropped, rfl⟩ := List.mem_map.mp inDropped
    obtain ⟨live, isLive, onLive⟩ := holds.dropped call isDropped
    exact ⟨_, live, _, isLive, own same, onLive⟩

end Runs

end ClaudeProxy
