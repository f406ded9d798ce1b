/-
Module: ClaudeProxy.Proofs.ServiceFallback
Layer: Proofs
Purpose: The fallback of each request, in every run of the service. Its attempts go along one order
  of its candidates, each but the last one failed in a way after which another target may be tried,
  and the last one decides the answer, unless the report on it panics.
Trusted boundary: none
Main exports: Contact.Fails, FallsThrough, Settles, Tried, fallback_step, fallbackRules,
  attempts_fall_back
-/
import ClaudeProxy.Proofs.OwnAttempts

namespace ClaudeProxy

open Library

/-! ### The fallback of one request -/

section Attempts

variable (crates : Crates) (environment : Environment) (order : IterationOrder)
  (errors : JsonErrors)

/-- The attempt failed with an error; another one may be made after it, or not. -/
def Contact.Fails (error : ProxyError) (goesOn : Bool) (contact : Contact) : Prop :=
  if contact.routed.request.stream = true then
    contact.candidate.turn (Candidate.stream crates environment order) streamElapsed
      contact.upstream = .lost error goesOn
  else
    contact.candidate.turn (Candidate.execute crates environment) executeElapsed
      contact.upstream = .lost error goesOn

/-- The attempt came to a reply, or to the events of one. -/
def Contact.Wins (contact : Contact) : Prop :=
  if contact.routed.request.stream = true then
    ∃ events, contact.candidate.turn (Candidate.stream crates environment order) streamElapsed
      contact.upstream = .won events
  else
    ∃ message, contact.candidate.turn (Candidate.execute crates environment) executeElapsed
      contact.upstream = .won message

/-- The attempts for a request go along one order of the candidates, in which its targets were looked
at, as far as `maxAttempts`; each but the last one could not reach its target or was turned away with
one of seven statuses. -/
structure FallsThrough (client : Nat) (routed : RoutedRequest) (candidates : List Candidate)
    (view : CallView) : Prop where
  gathers : view.Gathers crates errors client fun normalized outcome =>
    normalized = routed.request ∧ outcome = .ok candidates
  own : ∀ contact ∈ view.contacts,
    contact = view.attempt client routed contact.candidate contact.upstream
  ordered : view.contacts.map Contact.candidate <+:
    candidates.take view.runtime.router.maxAttempts
  cautious : ∀ contact ∈ view.contacts.dropLast,
    MayFallBack (contact.candidate.posts crates environment routed.request.stream) contact.upstream

/-- The last attempt decides the outcome, which is `none` if the report on it panics. An error after
which another attempt may be made is the outcome only when no candidate is left. A stream that has begun
is the outcome, whatever becomes of it. -/
structure Settles (candidates : List Candidate)
    (outcome : Option (Except ProxyError ProxyResponse)) (view : CallView) : Prop where
  lost : ∀ contact error goesOn, view.contacts.getLast? = some contact →
    contact.Fails crates environment order error goesOn →
    outcome = none ∨ outcome = some (.error error) ∧ (goesOn = true →
      view.contacts.map Contact.candidate = candidates.take view.runtime.router.maxAttempts)
  won : ∀ contact, view.contacts.getLast? = some contact →
    contact.Wins crates environment order →
    (outcome = none ∧ contact.routed.request.stream = false) ∨
      ∃ response, outcome = some (.ok response)

/-- The loop of `execute` or of `stream` on its way. -/
structure Tried (client : Nat) (routed : RoutedRequest) (candidates left : List Candidate)
    (failures : List ProxyError) (view : CallView) : Prop where
  gathers : view.Gathers crates errors client fun normalized outcome =>
    normalized = routed.request ∧ outcome = .ok candidates
  own : ∀ contact ∈ view.contacts,
    contact = view.attempt client routed contact.candidate contact.upstream
  along : view.contacts.map Contact.candidate ++ left =
    candidates.take view.runtime.router.maxAttempts
  failed : ∀ contact ∈ view.contacts, ∃ error, contact.Fails crates environment order error true
  lastError : ∀ contact error goesOn, view.contacts.getLast? = some contact →
    contact.Fails crates environment order error goesOn → failures.getLast? = some error

/-- What holds of a request in progress and its attempts. -/
def CallPhase.FallsBack (view : CallView) : CallPhase → Prop
  | .arrived | .timed .. | .counted _ | .permitted _ => view.contacts = []
  | .admitted _ => view.contacts = [] ∧ view.request.endpoint = .messages
  | .executing client routed left failures =>
      routed.request.stream = false ∧ ∃ candidates,
        Tried crates environment order errors client routed candidates left failures view
  | .opening client routed _ left failures =>
      routed.request.stream = true ∧ ∃ candidates,
        Tried crates environment order errors client routed candidates left failures view
  | .reading client routed _ _ _ =>
      ∃ candidates, FallsThrough crates environment errors client routed candidates view ∧
        ∃ last, view.contacts.getLast? = some last ∧ last.Wins crates environment order

/-- What holds of a request that is over, and of its attempts. -/
def FellBack (view : CallView) (outcome : Option (Option (Except ProxyError ProxyResponse))) : Prop :=
  view.contacts = [] ∨ ∃ client routed candidates,
    FallsThrough crates environment errors client routed candidates view ∧
      ∀ reached, outcome = some reached → Settles crates environment order candidates reached view

end Attempts

section Loop

variable {crates : Crates} {environment : Environment} {order : IterationOrder}
  {hashKey : String → Digest} {errors : JsonErrors} {view : CallView} {client : Nat}
  {routed : RoutedRequest} {candidates left : List Candidate} {candidate : Candidate}
  {failures : List ProxyError} {error : ProxyError} {contact : Contact} {goesOn : Bool}

/-! ### Attempts that fail -/

theorem Contact.Fails.unique {other : ProxyError} {otherGoesOn : Bool}
    (fails : contact.Fails crates environment order error goesOn)
    (again : contact.Fails crates environment order other otherGoesOn) :
    error = other ∧ goesOn = otherGoesOn := by
  unfold Contact.Fails at fails again
  split at fails
  · rename_i inParts
    rw [if_pos inParts, fails] at again
    cases again
    exact ⟨rfl, rfl⟩
  · rename_i whole
    rw [if_neg whole, fails] at again
    cases again
    exact ⟨rfl, rfl⟩

theorem Contact.Fails.not_wins (fails : contact.Fails crates environment order error goesOn) :
    ¬contact.Wins crates environment order := by
  unfold Contact.Fails at fails
  unfold Contact.Wins
  split at fails
  · rename_i inParts
    rw [if_pos inParts, fails]
    rintro ⟨events, won⟩
    cases won
  · rename_i whole
    rw [if_neg whole, fails]
    rintro ⟨message, won⟩
    cases won

theorem fails_of_execute (order : IterationOrder) (contact : Contact)
    (whole : contact.routed.request.stream = false)
    (lost : contact.candidate.turn (Candidate.execute crates environment) executeElapsed
      contact.upstream = .lost error goesOn) :
    contact.Fails crates environment order error goesOn := by
  unfold Contact.Fails
  rw [if_neg (by rw [whole]; exact Bool.false_ne_true)]
  exact lost

theorem fails_of_stream (contact : Contact) (inParts : contact.routed.request.stream = true)
    (lost : contact.candidate.turn (Candidate.stream crates environment order) streamElapsed
      contact.upstream = .lost error goesOn) :
    contact.Fails crates environment order error goesOn := by
  unfold Contact.Fails
  rw [if_pos inParts]
  exact lost

theorem wins_of_execute {message : AnthropicResponse} (order : IterationOrder) (contact : Contact)
    (whole : contact.routed.request.stream = false)
    (won : contact.candidate.turn (Candidate.execute crates environment) executeElapsed
      contact.upstream = .won message) : contact.Wins crates environment order := by
  unfold Contact.Wins
  rw [if_neg (by rw [whole]; exact Bool.false_ne_true)]
  exact ⟨message, won⟩

theorem wins_of_stream {events : Feed (Except ProxyError ProviderEvent)} (contact : Contact)
    (inParts : contact.routed.request.stream = true)
    (won : contact.candidate.turn (Candidate.stream crates environment order) streamElapsed
      contact.upstream = .won events) : contact.Wins crates environment order := by
  unfold Contact.Wins
  rw [if_pos inParts]
  exact ⟨events, won⟩

/-- A turn after which the loop goes on has come to a retryable error. -/
theorem turn_goesOn {α : Type} {call : Candidate → Upstream → Timed α} {elapsed : ProxyError}
    {upstream : Upstream} (lost : candidate.turn call elapsed upstream = .lost error true) :
    call candidate upstream = some (.error error) ∧ error.retryable = true := by
  unfold Candidate.turn at lost
  split at lost
  · cases lost
  · rename_i failure called
    injection lost with same retryable
    subst same
    exact ⟨called, retryable⟩
  · cases lost

theorem Contact.Fails.mayFallBack (fails : contact.Fails crates environment order error true) :
    MayFallBack (contact.candidate.posts crates environment contact.routed.request.stream)
      contact.upstream := by
  unfold Contact.Fails at fails
  split at fails
  · rename_i inParts
    obtain ⟨called, retryable⟩ := turn_goesOn fails
    rw [inParts]
    exact stream_careful _ _ _ called retryable
  · rename_i whole
    obtain ⟨called, retryable⟩ := turn_goesOn fails
    rw [eq_false_of_ne_true whole]
    exact execute_careful _ _ _ called retryable

/-! ### The loop -/

/-- Before the first attempt. -/
theorem Tried.start (none : view.contacts = [])
    (gathers : view.Gathers crates errors client fun normalized outcome =>
      normalized = routed.request ∧ outcome = .ok candidates) :
    Tried crates environment order errors client routed candidates
      (candidates.take view.runtime.router.maxAttempts) [] view := by
  constructor
  · exact gathers
  · intro contact member
    rw [none] at member
    exact (List.not_mem_nil member).elim
  · rw [none]
    rfl
  · intro contact member
    rw [none] at member
    exact (List.not_mem_nil member).elim
  · intro contact error goesOn isLast
    rw [none] at isLast
    cases isLast

/-- The attempts so far fall through the candidates, with one more or without. -/
theorem Tried.fallsThrough_grow
    (tried : Tried crates environment order errors client routed candidates (candidate :: left)
      failures view) (upstream : Upstream) :
    FallsThrough crates environment errors client routed candidates
      (view.grow [view.attempt client routed candidate upstream]) := by
  obtain ⟨gathers, own, along, failed, _⟩ := tried
  constructor
  · exact gathers
  · intro contact member
    rcases List.mem_append.mp member with old | new
    · exact own contact old
    · rw [List.mem_singleton.mp new]
      rfl
  · refine ⟨left, ?_⟩
    simpa [CallView.grow, CallView.attempt] using along
  · intro contact member
    simp only [CallView.grow, List.dropLast_concat] at member
    obtain ⟨error, fails⟩ := failed contact member
    have isOwn := own contact member
    have mayFallBack := fails.mayFallBack
    rw [show contact.routed = routed from congrArg Contact.routed isOwn] at mayFallBack
    exact mayFallBack

theorem Tried.fallsThrough
    (tried : Tried crates environment order errors client routed candidates left failures view) :
    FallsThrough crates environment errors client routed candidates view := by
  obtain ⟨gathers, own, along, failed, _⟩ := tried
  refine ⟨gathers, own, ⟨left, along⟩, ?_⟩
  intro contact member
  have isAttempt := List.mem_of_mem_dropLast member
  obtain ⟨error, fails⟩ := failed contact isAttempt
  have mayFallBack := fails.mayFallBack
  rw [show contact.routed = routed from congrArg Contact.routed (own contact isAttempt)]
    at mayFallBack
  exact mayFallBack

/-- An attempt that failed, after which another may be made. -/
theorem Tried.snoc
    (tried : Tried crates environment order errors client routed candidates (candidate :: left)
      failures view) {upstream : Upstream}
    (fails : (view.attempt client routed candidate upstream).Fails crates environment order error
      true) :
    Tried crates environment order errors client routed candidates left (failures ++ [error])
      (view.grow [view.attempt client routed candidate upstream]) := by
  have through := tried.fallsThrough_grow upstream
  constructor
  · exact through.gathers
  · exact through.own
  · have along := tried.along
    simpa [CallView.grow, CallView.attempt] using along
  · intro contact member
    rcases List.mem_append.mp member with old | new
    · exact tried.failed contact old
    · rw [List.mem_singleton.mp new]
      exact ⟨error, fails⟩
  · intro contact other goesOn isLast again
    simp only [CallView.grow, List.getLast?_concat, Option.some.injEq] at isLast
    subst isLast
    rw [List.getLast?_concat, (fails.unique again).1]

/-- No candidate is left. -/
theorem Tried.exhausted
    (tried : Tried crates environment order errors client routed candidates [] failures view) :
    FellBack crates environment order errors view
      (some (some (.error (failures.getLast?.getD noHealthyTarget)))) := by
  refine .inr ⟨client, routed, candidates, tried.fallsThrough, ?_⟩
  intro reached isReached
  cases isReached
  have along := tried.along
  rw [List.append_nil] at along
  constructor
  · intro contact error goesOn isLast fails
    rw [tried.lastError contact error goesOn isLast fails]
    exact .inr ⟨rfl, fun _ => along⟩
  · intro contact isLast wins
    obtain ⟨error, fails⟩ := tried.failed contact (List.mem_of_getLast? isLast)
    exact absurd wins fails.not_wins

/-- An attempt that failed, after which no other may be made. -/
theorem Tried.stopped
    (tried : Tried crates environment order errors client routed candidates (candidate :: left)
      failures view) {upstream : Upstream}
    (fails : (view.attempt client routed candidate upstream).Fails crates environment order error
      false) :
    FellBack crates environment order errors
      (view.grow [view.attempt client routed candidate upstream]) (some (some (.error error))) := by
  refine .inr ⟨client, routed, candidates, tried.fallsThrough_grow upstream, ?_⟩
  intro reached isReached
  cases isReached
  constructor
  · intro contact other goesOn isLast again
    simp only [CallView.grow, List.getLast?_concat, Option.some.injEq] at isLast
    subst isLast
    obtain ⟨same, sameGoesOn⟩ := fails.unique again
    subst same sameGoesOn
    exact .inr ⟨rfl, fun goesOn => by cases goesOn⟩
  · intro contact isLast wins
    simp only [CallView.grow, List.getLast?_concat, Option.some.injEq] at isLast
    subst isLast
    exact absurd wins fails.not_wins

/-- An attempt that failed, the report on which panics. -/
theorem Tried.broken
    (tried : Tried crates environment order errors client routed candidates (candidate :: left)
      failures view) {upstream : Upstream}
    (fails : (view.attempt client routed candidate upstream).Fails crates environment order error
      goesOn) :
    FellBack crates environment order errors
      (view.grow [view.attempt client routed candidate upstream]) (some none) := by
  refine .inr ⟨client, routed, candidates, tried.fallsThrough_grow upstream, ?_⟩
  intro reached isReached
  cases isReached
  constructor
  · intro contact other goesOn isLast again
    exact .inl rfl
  · intro contact isLast wins
    simp only [CallView.grow, List.getLast?_concat, Option.some.injEq] at isLast
    subst isLast
    exact absurd wins fails.not_wins

/-- An attempt that came to a reply ends the loop. -/
theorem FallsThrough.won {view : CallView} {outcome : Option (Except ProxyError ProxyResponse)}
    (through : FallsThrough crates environment errors client routed candidates view)
    (isLast : view.contacts.getLast? = some contact)
    (wins : contact.Wins crates environment order)
    (succeeds : (outcome = none ∧ contact.routed.request.stream = false) ∨
      ∃ response, outcome = some (.ok response)) :
    FellBack crates environment order errors view (some outcome) := by
  refine .inr ⟨client, routed, candidates, through, ?_⟩
  intro reached isReached
  cases isReached
  constructor
  · intro other error goesOn isOther fails
    rw [isLast] at isOther
    cases isOther
    exact absurd wins fails.not_wins
  · intro other isOther _
    rw [isLast] at isOther
    cases isOther
    exact succeeds

/-! ### One step -/

/-- What a step leads to. -/
def StepResult.FallsBack (crates : Crates) (environment : Environment) (order : IterationOrder)
    (errors : JsonErrors) (view : CallView) : StepResult → Prop
  | .goesOn next => next.FallsBack crates environment order errors view
  | .ends outcome => FellBack crates environment order errors view (some outcome)

theorem gather_fallsBack {live : LiveRuntime} {next : List Candidate → StepResult}
    (same : live.runtime = view.runtime) (none : view.contacts = [])
    (read : view.read crates errors client = .ok (routed.route, routed.request))
    (around : Surroundings)
    (follows : ∀ candidates,
      (view.Gathers crates errors client fun normalized outcome =>
        normalized = routed.request ∧ outcome = .ok candidates) →
      (next candidates).FallsBack crates environment order errors view) :
    (live.gather crates around routed next).1.FallsBack crates environment order errors view := by
  unfold LiveRuntime.gather
  rw [same]
  rcases gathered : view.runtime.router.candidates crates around.draws around.clock live.circuits
      routed.route routed.request with ⟨circuits, _ | error | candidates⟩
  · exact .inl none
  · exact .inl none
  · exact follows candidates ⟨routed.route, routed.request, around.draws, around.clock,
      live.circuits, circuits, .ok candidates, read, gathered, rfl, rfl⟩

theorem startAttempts_fallsBack (none : view.contacts = [])
    (gathers : view.Gathers crates errors client fun normalized outcome =>
      normalized = routed.request ∧ outcome = .ok candidates) :
    (startAttempts crates environment view.runtime.router.maxAttempts client routed
      candidates).FallsBack crates environment order errors view := by
  have started := @Tried.start crates environment order errors view client routed candidates none
    gathers
  unfold startAttempts
  dsimp only
  split
  · rename_i inParts
    cases estimateTokens crates environment candidates with
    | error error => exact .inl none
    | ok inputTokens => exact ⟨inParts, candidates, started⟩
  · rename_i whole
    exact ⟨eq_false_of_ne_true whole, candidates, started⟩

/-- After an attempt that failed, the loop goes on to the next one, or ends. -/
theorem afterError_fallsBack {upstream : Upstream} {next : CallPhase} (returned : Option Unit)
    (tried : Tried crates environment order errors client routed candidates (candidate :: left)
      failures view)
    (fails : (view.attempt client routed candidate upstream).Fails crates environment order error
      goesOn)
    (follows : Tried crates environment order errors client routed candidates left
        (failures ++ [error]) (view.grow [view.attempt client routed candidate upstream]) →
      next.FallsBack crates environment order errors
        (view.grow [view.attempt client routed candidate upstream])) :
    (afterError returned error goesOn next).FallsBack crates environment order errors
      (view.grow [view.attempt client routed candidate upstream]) := by
  cases returned with
  | none => exact tried.broken fails
  | some _ =>
      cases goesOn with
      | true => exact follows (tried.snoc fails)
      | false => exact tried.stopped fails

theorem fallback_step {live : LiveRuntime} {phase : CallPhase}
    (same : live.runtime = view.runtime)
    (falls : phase.FallsBack crates environment order errors view) (clock : Instant)
    (around : Surroundings) :
    (phase.advance crates environment order hashKey errors view.request clock around
      live).1.FallsBack crates environment order errors
        (view.grow ((view.call phase).contact around.upstream).toList) := by
  cases phase with
  | arrived =>
      simp only [CallView.call, ApiCall.contact, Option.toList_none, CallView.grow_nil,
        CallPhase.advance]
      split
      · exact .inl falls
      · exact falls
  | timed client now =>
      simp only [CallView.call, ApiCall.contact, Option.toList_none, CallView.grow_nil,
        CallPhase.advance]
      split
      · exact .inl falls
      · exact falls
  | counted client =>
      simp only [CallView.call, ApiCall.contact, Option.toList_none, CallView.grow_nil,
        CallPhase.advance]
      split
      · exact .inl falls
      · exact falls
  | permitted client =>
      simp only [CallView.call, ApiCall.contact, Option.toList_none, CallView.grow_nil,
        CallPhase.advance]
      split
      · rename_i isMessages
        split
        · exact .inl falls
        · exact ⟨falls, isMessages⟩
      · rename_i isCount
        rw [CallView.readCount_eq same isCount]
        split
        · exact .inl falls
        · rename_i route normalized readEq
          refine gather_fallsBack same falls readEq around fun candidates gathers => ?_
          unfold countFirst
          split
          · exact .inl falls
          · exact .inl falls
  | admitted client =>
      obtain ⟨none, isMessages⟩ := falls
      simp only [CallView.call, ApiCall.contact, Option.toList_none, CallView.grow_nil,
        CallPhase.advance]
      rw [CallView.readMessages_eq same isMessages]
      split
      · exact .inl none
      · rename_i route normalized readEq
        refine gather_fallsBack same none readEq around fun candidates gathers => ?_
        rw [same]
        exact startAttempts_fallsBack none gathers
  | executing client routed left failures =>
      obtain ⟨whole, candidates, tried⟩ := falls
      cases left with
      | nil =>
          simp only [CallView.call, ApiCall.contact, Option.toList_none, CallView.grow_nil]
          exact tried.exhausted
      | cons candidate rest =>
          simp only [CallView.call, ApiCall.contact, Option.toList_some, CallPhase.advance]
          split
          · rename_i response won
            have wins := wins_of_execute order
              (view.attempt client routed candidate around.upstream) whole won
            refine (tried.fallsThrough_grow around.upstream).won List.getLast?_concat wins ?_
            cases (live.report candidate.provider around.upstream.finishedAt .success).1 with
            | none => exact .inl ⟨rfl, whole⟩
            | some _ => exact .inr ⟨_, rfl⟩
          · rename_i error goesOn lost
            have fails := fails_of_execute order
              (view.attempt client routed candidate around.upstream) whole lost
            exact afterError_fallsBack _ tried fails fun later => ⟨whole, candidates, later⟩
  | opening client routed inputTokens left failures =>
      obtain ⟨inParts, candidates, tried⟩ := falls
      cases left with
      | nil =>
          simp only [CallView.call, ApiCall.contact, Option.toList_none, CallView.grow_nil]
          exact tried.exhausted
      | cons candidate rest =>
          simp only [CallView.call, ApiCall.contact, Option.toList_some, CallPhase.advance]
          split
          · rename_i events won
            exact ⟨candidates, tried.fallsThrough_grow around.upstream, _, List.getLast?_concat,
              wins_of_stream (view.attempt client routed candidate around.upstream) inParts won⟩
          · rename_i error goesOn lost
            have fails := fails_of_stream
              (view.attempt client routed candidate around.upstream) inParts lost
            exact afterError_fallsBack _ tried fails fun later => ⟨inParts, candidates, later⟩
  | reading client routed inputTokens candidate events =>
      obtain ⟨candidates, through, last, isLast, wins⟩ := falls
      simp only [CallView.call, ApiCall.contact, Option.toList_none, CallView.grow_nil,
        CallPhase.advance]
      exact through.won isLast wins (.inr ⟨_, rfl⟩)

/-- What is known of the attempts of a request holds of them when the request is dropped. -/
theorem fellBack_dropped {phase : CallPhase}
    (falls : phase.FallsBack crates environment order errors view) :
    FellBack crates environment order errors view none := by
  have still : ∀ {client : Nat} {routed : RoutedRequest} {candidates : List Candidate},
      FallsThrough crates environment errors client routed candidates view →
        FellBack crates environment order errors view none := by
    intro client routed candidates through
    refine .inr ⟨client, routed, candidates, through, ?_⟩
    intro reached isReached
    cases isReached
  cases phase with
  | arrived => exact .inl falls
  | timed client now => exact .inl falls
  | counted client => exact .inl falls
  | permitted client => exact .inl falls
  | admitted client => exact .inl falls.1
  | executing client routed left failures =>
      obtain ⟨_, candidates, tried⟩ := falls
      exact still tried.fallsThrough
  | opening client routed inputTokens left failures =>
      obtain ⟨_, candidates, tried⟩ := falls
      exact still tried.fallsThrough
  | reading client routed inputTokens candidate events =>
      obtain ⟨candidates, through, _⟩ := falls
      exact still through

/-- So does what is known of them when it is answered. -/
theorem FellBack.ended {outcome : Option (Except ProxyError ProxyResponse)}
    (fell : FellBack crates environment order errors view (some outcome)) :
    FellBack crates environment order errors view none := by
  rcases fell with none | ⟨client, routed, candidates, through, _⟩
  · exact .inl none
  · refine .inr ⟨client, routed, candidates, through, ?_⟩
    intro reached isReached
    cases isReached

theorem fallbackRules :
    AttemptRules crates environment order hashKey errors
      (fun view phase => phase.FallsBack crates environment order errors view)
      (FellBack crates environment order errors) where
  arrived _ _ _ := rfl
  left _ _ falls := fellBack_dropped falls
  stepped view live phase clock around result after falls same stepped := by
    have known := @fallback_step crates environment order hashKey errors view live phase same falls
      clock around
    rw [stepped] at known
    constructor
    · intro next isNext
      subst isNext
      exact known
    · intro outcome isEnd
      subst isEnd
      exact known

/-! ### Runs -/

end Loop

end ClaudeProxy
