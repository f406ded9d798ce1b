/-
Module: ClaudeProxy.Proofs.AnswerSources
Layer: Proofs
Purpose: Where answers come from. In every run of the service a client is answered with a refusal of its
  own request, with the count for it, or with what came of an attempt that was made for it: the error of
  the attempt, or the translation of the reply; or with the response to a panic, of the look at its
  targets or of the report on one of its attempts. So no request is ever answered with the reply to
  another, however they take turns.
Trusted boundary: none
Main exports: Contact.Replied, Contact.Lost, Explained, CallPhase.Traced, traced_step,
  answers_explained
-/
import ClaudeProxy.Proofs.RequestFates

namespace ClaudeProxy

open Library

section Sources

variable (crates : Crates) (environment : Environment) (order : IterationOrder)
  (hashKey : String → Digest) (errors : JsonErrors)

/-! ### What an attempt came to -/

/-- The provider replied with a success to the request that the attempt is for. -/
structure Contact.Replied (contact : Contact) (reply : HttpResponse) : Prop where
  received : ∃ sent,
    contact.candidate.posts crates environment contact.routed.request.stream = .ok sent ∧
      contact.upstream.reply sent = some (.answered reply)
  success : 200 ≤ reply.status ∧ reply.status < 300

/-- The attempt ended in an error. -/
def Contact.Lost (contact : Contact) (error : ProxyError) : Prop :=
  if contact.routed.request.stream = true then
    ∃ goesOn, contact.candidate.turn (Candidate.stream crates environment order) streamElapsed
      contact.upstream = .lost error goesOn
  else
    ∃ goesOn, contact.candidate.turn (Candidate.execute crates environment) executeElapsed
      contact.upstream = .lost error goesOn

/-- The event stream that a reply is translated to, if it ends at some time in some state of the
circuits. -/
def Contact.streamed (contact : Contact) (request : StreamRequest) (now : Instant)
    (circuits : Circuits) (reply : HttpResponse) : ProxyResponse :=
  let events := parseSse crates order reply.chunks
  let forwarded := forwardEvents contact.candidate.provider now circuits events.items events.tail
  streamResponse (bodyStream request forwarded.feed) forwarded.panicked

/-- An attempt for the request. -/
def CallView.attempt (client : Nat) (routed : RoutedRequest) (candidate : Candidate)
    (upstream : Upstream) (view : CallView) : Contact :=
  ⟨view.request, view.number, client, routed, candidate, upstream⟩

/-- The attempt was made for the request. -/
def CallView.Made (view : CallView) (contact : Contact) : Prop :=
  contact ∈ view.contacts ∧ contact.request = view.request ∧ contact.runtime = view.number

/-- The route of a request, with its normal form, by its endpoint. -/
def CallView.read (view : CallView) (client : Nat) : Except ProxyError (Route × NormalizedRequest) :=
  let identity := view.runtime.auth[client]?.getD default
  match view.request.endpoint with
  | .messages => view.runtime.readMessages crates errors identity view.request.body
  | .countTokens => view.runtime.readCount crates errors identity view.request.body

/-- The look at the targets of a request came to this, in some state of the circuits. -/
def CallView.Gathers (view : CallView) (client : Nat)
    (handed : NormalizedRequest → Except ProxyError (List Candidate) → Prop) : Prop :=
  ∃ route normalized draws clock circuits after outcome,
    view.read crates errors client = .ok (route, normalized) ∧
      view.runtime.router.candidates crates draws clock circuits route normalized =
        (after, some outcome) ∧
      handed normalized outcome

/-- The look at the targets of a request panicked, in some state of the circuits. -/
def CallView.LookPanics (view : CallView) (client : Nat) : Prop :=
  ∃ route normalized draws clock circuits after,
    view.read crates errors client = .ok (route, normalized) ∧
      view.runtime.router.candidates crates draws clock circuits route normalized = (after, none)

/-- The report on an attempt panics in some state of the circuits. -/
def Contact.ReportPanics (contact : Contact) : Prop :=
  ∃ report circuits,
    (contact.candidate.provider.report contact.upstream.finishedAt report circuits).1 = none

/-- Why a request has the outcome it has. -/
inductive Explained (view : CallView) : Option (Except ProxyError ProxyResponse) → Prop where
  | unidentified {error : ProxyError}
      (refused : view.runtime.identify hashKey view.request.headers = .error error) :
      Explained view (some (.error error))
  | limited {client : Nat} {error : ProxyError}
      (identified : Identified hashKey view.runtime view.request client)
      (isLimit : error ∈ [rateExceeded, concurrencyExceeded, globalExceeded]) :
      Explained view (some (.error error))
  | unread {client : Nat} {error : ProxyError}
      (identified : Identified hashKey view.runtime view.request client)
      (refused : view.read crates errors client = .error error) : Explained view (some (.error error))
  | unserved {client : Nat} {error : ProxyError}
      (identified : Identified hashKey view.runtime view.request client)
      (gathers : view.Gathers crates errors client fun _ outcome => outcome = .error error) :
      Explained view (some (.error error))
  | counted {client : Nat} {candidate : Candidate}
      (isCount : view.request.endpoint = .countTokens)
      (identified : Identified hashKey view.runtime view.request client)
      (gathers : view.Gathers crates errors client fun _ outcome =>
        ∃ rest, outcome = .ok (candidate :: rest)) :
      Explained view
        (some ((candidate.provider.countTokens crates environment candidate.request).map fun tokens =>
          jsonResponse (.obj [("input_tokens", .num tokens)])))
  | unestimated {client : Nat} {candidate : Candidate} {error : ProxyError}
      (isMessages : view.request.endpoint = .messages)
      (identified : Identified hashKey view.runtime view.request client)
      (gathers : view.Gathers crates errors client fun normalized outcome =>
        normalized.stream = true ∧ ∃ rest, outcome = .ok (candidate :: rest))
      (uncounted : candidate.provider.countTokens crates environment candidate.request =
        .error error) : Explained view (some (.error error))
  | lost {contact : Contact} {error : ProxyError} (made : view.Made contact)
      (lost : contact.Lost crates environment order error) : Explained view (some (.error error))
  | message {contact : Contact} {reply : HttpResponse} {parsed : OpenAiResponse}
      {message : AnthropicResponse} (made : view.Made contact)
      (whole : contact.routed.request.stream = false)
      (replied : contact.Replied crates environment reply) (isJson : reply.json = some (.ok parsed))
      (translated : convertResponse crates parsed contact.candidate.request.originalModel =
        .ok message) : Explained view (some (.ok (jsonResponse message.toValue)))
  | streamed {contact : Contact} {reply : HttpResponse} {inputTokens : Nat} {now : Instant}
      {circuits : Circuits} (made : view.Made contact)
      (inParts : contact.routed.request.stream = true)
      (replied : contact.Replied crates environment reply) :
      Explained view (some (.ok (contact.streamed crates order
        { messageId := view.request.messageId
          model := contact.routed.request.originalModel
          requestId := view.request.requestId
          inputTokens := inputTokens } now circuits reply)))
  | unlooked {client : Nat} (identified : Identified hashKey view.runtime view.request client)
      (panics : view.LookPanics crates errors client) : Explained view none
  | unreported {contact : Contact} (made : view.Made contact) (panics : contact.ReportPanics) :
      Explained view none

/-! ### What is known on the way -/

/-- Every error so far is one of an attempt for the request. -/
def CallView.Failed (view : CallView) (failures : List ProxyError) : Prop :=
  ∀ error ∈ failures, ∃ contact, view.Made contact ∧ contact.Lost crates environment order error

/-- What is known of a request in a phase. -/
def CallPhase.Traced (view : CallView) : CallPhase → Prop
  | .arrived => True
  | .timed client _ | .counted client | .permitted client =>
      Identified hashKey view.runtime view.request client
  | .admitted client =>
      view.request.endpoint = .messages ∧ Identified hashKey view.runtime view.request client
  | .executing _ routed left failures =>
      routed.request.stream = false ∧ (left = [] → failures ≠ []) ∧
        view.Failed crates environment order failures
  | .opening _ routed _ left failures =>
      routed.request.stream = true ∧ (left = [] → failures ≠ []) ∧
        view.Failed crates environment order failures
  | .reading client routed _ candidate events =>
      routed.request.stream = true ∧ ∃ upstream,
        view.attempt client routed candidate upstream ∈ view.contacts ∧
          candidate.stream crates environment order upstream = some (.ok events)

end Sources

section Steps

variable {crates : Crates} {environment : Environment} {order : IterationOrder}
  {hashKey : String → Digest} {errors : JsonErrors} {view : CallView}

/-! ### More attempts -/

theorem CallView.Made.grow {contact : Contact} (made : view.Made contact) (more : List Contact) :
    (view.grow more).Made contact :=
  ⟨List.mem_append_left _ made.1, made.2⟩

theorem CallView.grow_nil (view : CallView) : view.grow [] = view := by
  unfold CallView.grow
  rw [List.append_nil]

/-- An attempt that is made for a request is among its attempts. -/
theorem CallView.made_attempt (view : CallView) (client : Nat) (routed : RoutedRequest)
    (candidate : Candidate) (upstream : Upstream) :
    (view.grow [view.attempt client routed candidate upstream]).Made
      (view.attempt client routed candidate upstream) :=
  ⟨List.mem_append_right _ List.mem_cons_self, rfl, rfl⟩

/-- Errors of attempts stay such when there are more attempts. -/
theorem CallView.Failed.grow {failures : List ProxyError}
    (failed : view.Failed crates environment order failures) (more : List Contact) :
    (view.grow more).Failed crates environment order failures := by
  intro error member
  obtain ⟨contact, made, lost⟩ := failed error member
  exact ⟨contact, made.grow more, lost⟩

/-- So does what is known of a request on its way. -/
theorem CallPhase.Traced.grow {phase : CallPhase}
    (traced : phase.Traced crates environment order hashKey view) (more : List Contact) :
    phase.Traced crates environment order hashKey (view.grow more) := by
  cases phase with
  | arrived => trivial
  | timed client now => exact traced
  | counted client => exact traced
  | permitted client => exact traced
  | admitted client => exact traced
  | executing client routed left failures =>
      exact ⟨traced.1, traced.2.1, traced.2.2.grow more⟩
  | opening client routed inputTokens left failures =>
      exact ⟨traced.1, traced.2.1, traced.2.2.grow more⟩
  | reading client routed inputTokens candidate events =>
      obtain ⟨inParts, upstream, isContact, won⟩ := traced
      exact ⟨inParts, upstream, List.mem_append_left _ isContact, won⟩

/-- So does an explanation. -/
theorem Explained.grow {outcome : Option (Except ProxyError ProxyResponse)}
    (explained : Explained crates environment order hashKey errors view outcome)
    (more : List Contact) :
    Explained crates environment order hashKey errors (view.grow more) outcome := by
  cases explained with
  | unidentified refused => exact .unidentified refused
  | limited identified isLimit => exact .limited identified isLimit
  | unread identified refused => exact .unread identified refused
  | unserved identified gathers => exact .unserved identified gathers
  | counted isCount identified gathers =>
      exact .counted isCount identified gathers
  | unestimated isMessages identified gathers uncounted =>
      exact .unestimated isMessages identified gathers uncounted
  | lost made lost => exact .lost (made.grow more) lost
  | message made whole replied isJson translated =>
      exact .message (made.grow more) whole replied isJson translated
  | streamed made inParts replied =>
      exact .streamed (made.grow more) inParts replied
  | unlooked identified panics => exact .unlooked identified panics
  | unreported made panics => exact .unreported (made.grow more) panics

/-! ### Attempts -/

/-- A future comes to a value if both its parts do. -/
theorem andThen_ok {α β : Type} {first : Timed α} {next : α → Timed β} {result : β}
    (done : first.andThen next = some (.ok result)) :
    ∃ value, first = some (.ok value) ∧ next value = some (.ok result) := by
  cases first with
  | none => cases done
  | some outcome =>
      cases outcome with
      | error error => cases done
      | ok value => exact ⟨value, rfl, done⟩

/-- A response that `send` hands on is a success that the provider replied with. -/
theorem send_ok {candidate : Candidate} {stream : Bool} {upstream : Upstream} {body : Value}
    {reply : HttpResponse}
    (prepared : candidate.provider.prepare crates candidate.request candidate.target.model stream =
      .ok body)
    (sent : candidate.provider.send crates environment body upstream = some (.ok reply)) :
    (∃ posted, candidate.posts crates environment stream = .ok posted ∧
        upstream.reply posted = some (.answered reply)) ∧
      200 ≤ reply.status ∧ reply.status < 300 := by
  obtain ⟨posted, isPosted, received⟩ := andThen_ok sent
  cases replied : upstream.reply posted with
  | none =>
      rw [replied] at received
      cases received
  | some answer =>
      rw [replied] at received
      cases answer with
      | broken transport => cases received
      | answered response =>
          unfold receive at received
          dsimp only at received
          split at received
          · rename_i success
            cases received
            exact ⟨⟨posted, Except.bind_eq_ok.mpr ⟨body, prepared, Option.some.inj isPosted⟩,
              replied⟩, success⟩
          · obtain ⟨text, _, same⟩ := Option.map_eq_some_iff.mp received
            cases same

/-- A message that `execute` returns is the translation of a reply to its request. -/
theorem execute_ok {candidate : Candidate} {upstream : Upstream} {message : AnthropicResponse}
    (done : candidate.execute crates environment upstream = some (.ok message)) :
    ∃ reply parsed, ((∃ posted, candidate.posts crates environment false = .ok posted ∧
        upstream.reply posted = some (.answered reply)) ∧
      200 ≤ reply.status ∧ reply.status < 300) ∧
      reply.json = some (.ok parsed) ∧
      convertResponse crates parsed candidate.request.originalModel = .ok message := by
  obtain ⟨body, prepared, rest⟩ := andThen_ok done
  obtain ⟨reply, sent, read⟩ := andThen_ok rest
  obtain ⟨parsed, isJson, converted⟩ := Option.map_eq_some_iff.mp read
  cases parsed with
  | error error => cases converted
  | ok parsed => exact ⟨reply, parsed, send_ok (Option.some.inj prepared) sent, isJson, converted⟩

/-- The events that `stream` returns are those of such a reply. -/
theorem stream_ok {candidate : Candidate} {upstream : Upstream}
    {events : Feed (Except ProxyError ProviderEvent)}
    (done : candidate.stream crates environment order upstream = some (.ok events)) :
    ∃ reply, ((∃ posted, candidate.posts crates environment true = .ok posted ∧
        upstream.reply posted = some (.answered reply)) ∧
      200 ≤ reply.status ∧ reply.status < 300) ∧ events = parseSse crates order reply.chunks := by
  obtain ⟨body, prepared, rest⟩ := andThen_ok done
  obtain ⟨reply, sent, read⟩ := andThen_ok rest
  have same := Except.ok.inj (Option.some.inj read)
  exact ⟨reply, send_ok (Option.some.inj prepared) sent, same.symm⟩

theorem replied_of (contact : Contact) {stream : Bool} {reply : HttpResponse}
    (isStream : contact.routed.request.stream = stream)
    (received : (∃ posted, contact.candidate.posts crates environment stream = .ok posted ∧
        contact.upstream.reply posted = some (.answered reply)) ∧
      200 ≤ reply.status ∧ reply.status < 300) : contact.Replied crates environment reply := by
  subst isStream
  exact ⟨received.1, received.2⟩

/-- What the loop makes of a turn. -/
theorem turn_won {α : Type} {call : Candidate → Upstream → Timed α} {elapsed : ProxyError}
    {candidate : Candidate} {upstream : Upstream} {value : α}
    (won : candidate.turn call elapsed upstream = .won value) :
    call candidate upstream = some (.ok value) := by
  unfold Candidate.turn at won
  split at won
  · rename_i done
    cases won
    exact done
  · cases won
  · cases won

/-- An attempt that is lost is lost with its error. -/
theorem lost_of_execute (order : IterationOrder) (contact : Contact) {error : ProxyError}
    {goesOn : Bool} (whole : contact.routed.request.stream = false)
    (lost : contact.candidate.turn (Candidate.execute crates environment) executeElapsed
      contact.upstream = .lost error goesOn) : contact.Lost crates environment order error := by
  unfold Contact.Lost
  rw [if_neg (by rw [whole]; exact Bool.false_ne_true)]
  exact ⟨goesOn, lost⟩

theorem lost_of_stream (contact : Contact) {error : ProxyError} {goesOn : Bool}
    (inParts : contact.routed.request.stream = true)
    (lost : contact.candidate.turn (Candidate.stream crates environment order) streamElapsed
      contact.upstream = .lost error goesOn) : contact.Lost crates environment order error := by
  unfold Contact.Lost
  rw [if_pos inParts]
  exact ⟨goesOn, lost⟩

/-! ### Limits -/

/-- A rate check refuses with one error. -/
theorem checkRate_error {identity : ClientIdentity} {now : Instant} {limits after : ClientLimits}
    {error : ProxyError} (refused : identity.checkRate now limits = (.error error, after)) :
    error = rateExceeded := by
  unfold ClientIdentity.checkRate at refused
  dsimp only at refused
  split at refused
  · cases refused
    rfl
  · cases refused

/-- So does the permit of a client. -/
theorem acquirePermit_error {limits after : ClientLimits} {error : ProxyError}
    (refused : limits.acquirePermit = (.error error, after)) : error = concurrencyExceeded := by
  unfold ClientLimits.acquirePermit at refused
  split at refused
  · cases refused
    rfl
  · cases refused

/-- So does the global permit. -/
theorem acquireGlobal_error {limits after : Limits} {error : ProxyError}
    (refused : limits.acquireGlobal = (.error error, after)) : error = globalExceeded := by
  unfold Limits.acquireGlobal at refused
  split at refused
  · cases refused
    rfl
  · cases refused

/-! ### One step -/

/-- What a step leads to is known. -/
def StepResult.Known (crates : Crates) (environment : Environment) (order : IterationOrder)
    (hashKey : String → Digest) (errors : JsonErrors) (view : CallView) : StepResult → Prop
  | .goesOn next => next.Traced crates environment order hashKey view
  | .ends outcome => Explained crates environment order hashKey errors view outcome

/-- What is known after the look at the targets, if it is known what follows a successful one. -/
theorem gather_known {live : LiveRuntime} {client : Nat} {routed : RoutedRequest}
    {next : List Candidate → StepResult} (same : live.runtime = view.runtime)
    (identified : Identified hashKey view.runtime view.request client)
    (read : view.read crates errors client = .ok (routed.route, routed.request))
    (around : Surroundings)
    (follows : ∀ candidate rest,
      view.Gathers crates errors client (fun normalized outcome =>
        normalized = routed.request ∧ outcome = .ok (candidate :: rest)) →
      (next (candidate :: rest)).Known crates environment order hashKey errors view) :
    (live.gather crates around routed next).1.Known crates environment order hashKey errors view := by
  unfold LiveRuntime.gather
  rw [same]
  cases gathered : view.runtime.router.candidates crates around.draws around.clock live.circuits
      routed.route routed.request with
  | mk circuits found =>
      rcases found with _ | error | candidates
      · exact .unlooked identified ⟨routed.route, routed.request, around.draws, around.clock,
          live.circuits, circuits, read, gathered⟩
      · exact .unserved identified ⟨routed.route, routed.request, around.draws, around.clock,
          live.circuits, circuits, .error error, read, gathered, rfl⟩
      · obtain ⟨candidate, rest, rfl⟩ :=
          List.exists_cons_of_ne_nil (candidates_ne_nil gathered)
        exact follows candidate rest ⟨routed.route, routed.request, around.draws, around.clock,
          live.circuits, circuits, .ok (candidate :: rest), read, gathered, rfl, rfl⟩

/-- Before its first attempt a request has not failed yet, or its tokens could not be estimated. -/
theorem startAttempts_known {maxAttempts client : Nat} {routed : RoutedRequest}
    {candidate : Candidate} {rest : List Candidate} (attemptsPos : 0 < maxAttempts)
    (isMessages : view.request.endpoint = .messages)
    (identified : Identified hashKey view.runtime view.request client)
    (gathers : view.Gathers crates errors client fun normalized outcome =>
      normalized = routed.request ∧ outcome = .ok (candidate :: rest)) :
    (startAttempts crates environment maxAttempts client routed (candidate :: rest)).Known crates
      environment order hashKey errors view := by
  have someLeft : (candidate :: rest).take maxAttempts ≠ [] := by
    cases maxAttempts with
    | zero => exact absurd attemptsPos (Nat.lt_irrefl 0)
    | succ more => exact List.cons_ne_nil _ _
  have noFailure : view.Failed crates environment order [] := fun _ => List.not_mem_nil.elim
  unfold startAttempts estimateTokens
  dsimp only
  split
  · rename_i inParts
    cases counted : candidate.provider.countTokens crates environment candidate.request with
    | error error =>
        refine .unestimated isMessages identified ?_ counted
        obtain ⟨route, normalized, draws, clock, circuits, after, outcome, read, gathered, same,
          isOutcome⟩ := gathers
        exact ⟨route, normalized, draws, clock, circuits, after, outcome, read, gathered,
          same ▸ inParts, rest, isOutcome⟩
    | ok inputTokens => exact ⟨inParts, fun none => absurd none someLeft, noFailure⟩
  · rename_i whole
    exact ⟨eq_false_of_ne_true whole, fun none => absurd none someLeft, noFailure⟩

/-- An error of an attempt, after it has been made. -/
theorem afterError_known {contact : Contact} {error : ProxyError} {goesOn : Bool} {next : CallPhase}
    (made : view.Made contact) (lost : contact.Lost crates environment order error)
    (later : next.Traced crates environment order hashKey view) (live : LiveRuntime) :
    (afterError (live.report contact.candidate.provider contact.upstream.finishedAt
      (.failure error)).1 error goesOn next).Known crates environment order hashKey errors view := by
  unfold afterError
  split
  · rename_i panics
    exact .unreported made ⟨.failure error, live.circuits, panics⟩
  · split
    · exact later
    · exact .lost made lost

/-- A message, once its success is reported. -/
theorem afterSuccess_known {contact : Contact} {reply : HttpResponse} {parsed : OpenAiResponse}
    {message : AnthropicResponse} (made : view.Made contact)
    (whole : contact.routed.request.stream = false)
    (replied : contact.Replied crates environment reply) (isJson : reply.json = some (.ok parsed))
    (translated : convertResponse crates parsed contact.candidate.request.originalModel =
      .ok message) (live : LiveRuntime) :
    (afterSuccess (live.report contact.candidate.provider contact.upstream.finishedAt .success).1
      message).Known crates environment order hashKey errors view := by
  unfold afterSuccess
  cases reported : (live.report contact.candidate.provider contact.upstream.finishedAt .success).1 with
  | none => exact .unreported made ⟨.success, live.circuits, reported⟩
  | some _ => exact .message made whole replied isJson translated

/-- An attempt that is lost adds its error. -/
theorem CallView.Failed.snoc {failures : List ProxyError} {contact : Contact} {error : ProxyError}
    (failed : view.Failed crates environment order failures) (made : view.Made contact)
    (lost : contact.Lost crates environment order error) :
    view.Failed crates environment order (failures ++ [error]) := by
  intro other member
  rcases List.mem_append.mp member with old | new
  · exact failed other old
  · rw [List.mem_singleton.mp new]
    exact ⟨contact, made, lost⟩

/-- Without a candidate left the last error is that of an attempt. -/
theorem exhausted_known {failures : List ProxyError} (some : failures ≠ [])
    (failed : view.Failed crates environment order failures) :
    (exhausted failures).Known crates environment order hashKey errors view := by
  have isLast := List.getLast?_eq_some_getLast some
  obtain ⟨contact, made, lost⟩ := failed _ (List.getLast_mem some)
  unfold exhausted
  rw [isLast]
  exact .lost made lost

theorem CallView.readCount_eq {live : LiveRuntime} {client : Nat} (same : live.runtime = view.runtime)
    (isCount : view.request.endpoint = .countTokens) :
    live.runtime.readCount crates errors (live.identity client) view.request.body =
      view.read crates errors client := by
  unfold CallView.read LiveRuntime.identity
  rw [isCount, same]

theorem CallView.readMessages_eq {live : LiveRuntime} {client : Nat}
    (same : live.runtime = view.runtime) (isMessages : view.request.endpoint = .messages) :
    live.runtime.readMessages crates errors (live.identity client) view.request.body =
      view.read crates errors client := by
  unfold CallView.read LiveRuntime.identity
  rw [isMessages, same]

/-- One step of a request keeps what is known of it, or comes to an outcome that is explained. -/
theorem traced_step {config : AppConfig} {live : LiveRuntime} {phase : CallPhase}
    (built : Runtime.new crates environment hashKey config = some (.ok view.runtime))
    (same : live.runtime = view.runtime)
    (traced : phase.Traced crates environment order hashKey view) (clock : Instant)
    (around : Surroundings) :
    (phase.advance crates environment order hashKey errors view.request clock around live).1.Known
      crates environment order hashKey errors
      (view.grow ((view.call phase).contact around.upstream).toList) := by
  obtain ⟨_, valid, _, routerBuilt⟩ := Runtime.new_eq_ok built
  have attemptsPos := maxAttempts_of_valid ⟨config, valid⟩ routerBuilt
  cases phase with
  | arrived =>
      simp only [CallView.call, ApiCall.contact, Option.toList_none, CallView.grow_nil,
        CallPhase.advance]
      split
      · rename_i error refused
        exact .unidentified (same ▸ refused)
      · rename_i client identity identified
        exact identified_of_ok (same ▸ identified)
  | timed client now =>
      simp only [CallView.call, ApiCall.contact, Option.toList_none, CallView.grow_nil,
        CallPhase.advance]
      split
      · rename_i error after refused
        rw [checkRate_error refused]
        exact .limited traced (by simp)
      · exact traced
  | counted client =>
      simp only [CallView.call, ApiCall.contact, Option.toList_none, CallView.grow_nil,
        CallPhase.advance]
      split
      · rename_i error after refused
        rw [acquirePermit_error refused]
        exact .limited traced (by simp)
      · exact traced
  | permitted client =>
      simp only [CallView.call, ApiCall.contact, Option.toList_none, CallView.grow_nil,
        CallPhase.advance]
      split
      · rename_i isMessages
        split
        · rename_i error after refused
          rw [acquireGlobal_error refused]
          exact .limited traced (by simp)
        · exact ⟨isMessages, traced⟩
      · rename_i isCount
        rw [CallView.readCount_eq same isCount]
        split
        · rename_i error refused
          exact .unread traced refused
        · rename_i route normalized readEq
          refine gather_known same traced readEq around fun candidate rest gathers => ?_
          refine .counted isCount traced ?_
          obtain ⟨route, normalized, draws, clock, circuits, after, outcome, read, gathered, _,
            isOutcome⟩ := gathers
          exact ⟨route, normalized, draws, clock, circuits, after, outcome, read, gathered, rest,
            isOutcome⟩
  | admitted client =>
      obtain ⟨isMessages, identified⟩ := traced
      simp only [CallView.call, ApiCall.contact, Option.toList_none, CallView.grow_nil,
        CallPhase.advance]
      rw [CallView.readMessages_eq same isMessages]
      split
      · rename_i error refused
        exact .unread identified refused
      · rename_i route normalized readEq
        refine gather_known same identified readEq around fun candidate rest gathers => ?_
        exact startAttempts_known (same ▸ attemptsPos) isMessages identified gathers
  | executing client routed left failures =>
      obtain ⟨whole, present, failed⟩ := traced
      cases left with
      | nil =>
          simp only [CallView.call, ApiCall.contact, Option.toList_none, CallView.grow_nil]
          exact exhausted_known (present rfl) failed
      | cons candidate rest =>
          simp only [CallView.call, ApiCall.contact, Option.toList_some, CallPhase.advance]
          have made := view.made_attempt client routed candidate around.upstream
          split
          · rename_i response won
            obtain ⟨reply, parsed, received, isJson, translated⟩ := execute_ok (turn_won won)
            have replied := replied_of (view.attempt client routed candidate around.upstream) whole
              received
            exact afterSuccess_known made whole replied isJson translated live
          · rename_i error goesOn lost
            have isLost := lost_of_execute order
              (view.attempt client routed candidate around.upstream) whole lost
            have later : CallPhase.Traced crates environment order hashKey
                (view.grow [view.attempt client routed candidate around.upstream])
                (.executing client routed rest (failures ++ [error])) :=
              ⟨whole, fun _ => List.append_ne_nil_of_right_ne_nil _ (List.cons_ne_nil _ _),
                (failed.grow _).snoc made isLost⟩
            exact afterError_known made isLost later live
  | opening client routed inputTokens left failures =>
      obtain ⟨inParts, present, failed⟩ := traced
      cases left with
      | nil =>
          simp only [CallView.call, ApiCall.contact, Option.toList_none, CallView.grow_nil]
          exact exhausted_known (present rfl) failed
      | cons candidate rest =>
          simp only [CallView.call, ApiCall.contact, Option.toList_some, CallPhase.advance]
          have made := view.made_attempt client routed candidate around.upstream
          split
          · rename_i events won
            exact ⟨inParts, around.upstream, made.1, turn_won won⟩
          · rename_i error goesOn lost
            have isLost := lost_of_stream
              (view.attempt client routed candidate around.upstream) inParts lost
            have later : CallPhase.Traced crates environment order hashKey
                (view.grow [view.attempt client routed candidate around.upstream])
                (.opening client routed inputTokens rest (failures ++ [error])) :=
              ⟨inParts, fun _ => List.append_ne_nil_of_right_ne_nil _ (List.cons_ne_nil _ _),
                (failed.grow _).snoc made isLost⟩
            exact afterError_known made isLost later live
  | reading client routed inputTokens candidate events =>
      obtain ⟨inParts, upstream, isContact, won⟩ := traced
      obtain ⟨reply, received, isEvents⟩ := stream_ok won
      have replied := replied_of (view.attempt client routed candidate upstream) inParts received
      simp only [CallView.call, ApiCall.contact, Option.toList_none, CallView.grow_nil,
        CallPhase.advance]
      rw [isEvents]
      exact @Explained.streamed crates environment order hashKey errors view
        (view.attempt client routed candidate upstream) reply inputTokens around.now live.circuits
        ⟨isContact, rfl, rfl⟩ inParts replied

/-! ### Runs -/

/-- So it is with every request of a run. -/
theorem sourceRules :
    ServiceRules crates environment order hashKey errors
      (fun runtime => ∃ config, Runtime.new crates environment hashKey config = some (.ok runtime))
      (fun view phase => phase.Traced crates environment order hashKey view) (fun _ _ => True)
      fun view outcome => Explained crates environment order hashKey errors view outcome where
  built config _ isBuilt := ⟨config, isBuilt⟩
  arrived _ _ := trivial
  callGrows _ more _ traced := traced.grow more
  outcomeGrows _ more _ explained := explained.grow more
  contacted _ _ _ _ _ _ _ := trivial
  stepped view live phase clock around result after onRuntime traced same stepped := by
    obtain ⟨config, built⟩ := onRuntime
    have known := @traced_step crates environment order hashKey errors view config live phase built
      same traced clock around
    rw [stepped] at known
    constructor
    · intro next isNext
      subst isNext
      exact known
    · intro outcome isEnd
      subst isEnd
      exact known

/-- What holds of attempts holds of one that was made for a request, on the runtime of the request. -/
theorem Service.Holds.made {service : Service} {onRuntime : Runtime → Prop}
    {onCall : CallView → CallPhase → Prop} {onContact : Runtime → Contact → Prop}
    {onOutcome : CallView → Option (Except ProxyError ProxyResponse) → Prop}
    (holds : service.Holds environment onRuntime onCall onContact onOutcome) {number : Nat}
    {live : LiveRuntime} (isLive : service.runtimes[number]? = some live) {request : ApiRequest}
    {contact : Contact} (made : (service.view number live.runtime request).Made contact) :
    onContact live.runtime contact := by
  obtain ⟨member, _, isNumber⟩ := made
  obtain ⟨own, isOwn, onOwn⟩ := holds.contacts contact member
  have sameRuntime := isOwn.symm.trans ((congrArg (service.runtimes[·]?) isNumber).trans isLive)
  cases sameRuntime
  exact onOwn

end Steps

end ClaudeProxy
