/-
Module: ClaudeProxy.Proofs.UnderstoodAnswers
Layer: Proofs
Purpose: Clients understand the answers. In every run of the service, whatever clients send and
  whatever providers reply, each answer that comes of no panic is one that a client of the API can
  read by what it asked for, and it is about the client's own request. A stream that a panic breaks off
  is one as far as it goes.
Trusted boundary: none
Main exports: readFailure_envelope, readWhole_toValue, readStreamed_messageFrames, Fulfils,
  Interrupted, explained_understood, answers_understood
-/
import ClaudeProxy.Client.Answers
import ClaudeProxy.Proofs.AnswerSources
import ClaudeProxy.Proofs.Dialogue
import ClaudeProxy.Proofs.Fitting
import ClaudeProxy.Proofs.StreamLifecycle
import ClaudeProxy.Proofs.Validation

namespace ClaudeProxy

open Library

/-! ### Headers -/

section Responses

variable {environment : Environment} {request : ApiRequest} {response : ProxyResponse}

theorem Headers.lookup_insert_ne {name key value : String} (headers : Headers)
    (differs : key ≠ name.toLower) :
    (Headers.insert name value headers).lookup key = headers.lookup key := by
  unfold Headers.insert
  induction headers with
  | nil => simp [List.lookup_cons, beq_false_of_ne differs]
  | cons header rest inductionHypothesis =>
      obtain ⟨other, held⟩ := header
      by_cases replaced : other = name.toLower
      · subst replaced
        simpa [List.lookup_cons, beq_false_of_ne differs] using inductionHypothesis
      · simp only [List.filter_cons, decide_not, replaced, decide_false, Bool.not_false, if_true,
          List.cons_append, List.lookup_cons]
        simp only [decide_not] at inductionHypothesis
        rw [inductionHypothesis]

theorem Headers.lookup_insert_self (name value : String) (headers : Headers) :
    (Headers.insert name value headers).lookup name.toLower = some value := by
  unfold Headers.insert
  induction headers with
  | nil => simp
  | cons header rest inductionHypothesis =>
      obtain ⟨other, held⟩ := header
      by_cases replaced : other = name.toLower
      · subst replaced
        simpa using inductionHypothesis
      · simp only [List.filter_cons, decide_not, replaced, decide_false, Bool.not_false, if_true,
          List.cons_append, List.lookup_cons, beq_false_of_ne (Ne.symm replaced)]
        simpa only [decide_not] using inductionHypothesis

theorem notNamed :
    "content-type" ≠ "request-id".toLower ∧ "content-type" ≠ "x-request-id".toLower := by
  decide +kernel

/-- The id of a request changes nothing of what its answer is. -/
theorem understand_setRequestId (environment : Environment) (asked : Asked) (requestId : String)
    (response : ProxyResponse) :
    understand asked (setRequestId environment requestId response) = understand asked response := by
  unfold setRequestId
  split
  · have sameType : (((response.headers.insert "request-id" requestId).insert "x-request-id"
        requestId).lookup "content-type") = response.headers.lookup "content-type" := by
      rw [Headers.lookup_insert_ne _ notNamed.2, Headers.lookup_insert_ne _ notNamed.1]
    simp only [understand, ProxyResponse.hasType, sameType]
    cases response.body <;> rfl
  · rfl

theorem setRequestId_named (requestId : String) (response : ProxyResponse)
    (isHeader : environment.isHeaderValue requestId = true) :
    (setRequestId environment requestId response).headers.lookup "request-id" = some requestId := by
  unfold setRequestId
  have other : "request-id" ≠ "x-request-id".toLower := by decide +kernel
  have lower : "request-id".toLower = "request-id" := by decide +kernel
  have inserted := Headers.lookup_insert_self "request-id" requestId response.headers
  rw [lower] at inserted
  rw [if_pos isHeader, Headers.lookup_insert_ne _ other]
  exact inserted

/-! ### Failures -/

theorem readFailure_envelope (error : ProxyError) (requestId : String) :
    readFailure (error.withRequestId requestId).envelope =
      some ⟨error.anthropicType, error.message, some requestId⟩ := by
  simp [readFailure, ProxyError.envelope, ProxyError.withRequestId, Value.strAt, guard,
    ProxyError.anthropicType]

theorem fitsStatus_envelope (error : ProxyError) (requestId : Option String) :
    (Failure.mk error.anthropicType error.message requestId).fitsStatus error.status = true := by
  obtain ⟨kind, message, _, _, _⟩ := error
  cases kind <;> rfl

theorem status_ne_ok (error : ProxyError) : error.status ≠ 200 := by
  unfold ProxyError.status
  split <;> decide

/-- Every error is understood, whatever was asked for. -/
theorem understand_error (asked : Asked) (error : ProxyError) (requestId : String) :
    understand asked (error.withRequestId requestId).intoResponse =
      some (.failure ⟨error.anthropicType, error.message, some requestId⟩) := by
  have isJson : (error.withRequestId requestId).intoResponse.hasType "application/json" = true := by
    have notRetry : "content-type" ≠ "retry-after".toLower := by decide +kernel
    unfold ProxyResponse.hasType ProxyError.intoResponse
    dsimp only
    split
    · rw [Headers.lookup_insert_ne _ notRetry]
      rfl
    · rfl
  have isStatus : (error.withRequestId requestId).intoResponse.status = error.status := rfl
  have isBody : (error.withRequestId requestId).intoResponse.body =
      .json (error.withRequestId requestId).envelope := rfl
  have fits := fitsStatus_envelope error (some requestId)
  simp [understand, isBody, isJson, isStatus, status_ne_ok, readFailure_envelope, fits, guard]

/-! ### Whole messages -/

theorem readContentBlock_toValue (block : OutputBlock) :
    readContentBlock block.toValue = some block := by
  cases block with
  | text written => simp [readContentBlock, OutputBlock.toValue, Value.strAt]
  | toolUse id name input => simp [readContentBlock, OutputBlock.toValue, Value.strAt]

theorem readContent_toValue (content : List OutputBlock) :
    content.mapM (readContentBlock ∘ OutputBlock.toValue) = some content := by
  induction content with
  | nil => rfl
  | cons block rest inductionHypothesis =>
      simp [List.mapM_cons, readContentBlock_toValue, inductionHypothesis]

/-- A message of an assistant is read as it is. -/
theorem readWhole_toValue {message : AnthropicResponse} {reason : String}
    (isMessage : message.kind = "message") (ofAssistant : message.role = "assistant")
    (stopped : message.stopReason = some reason) :
    readWhole message.toValue =
      some ⟨message.id, message.model, message.content, reason, message.usage⟩ := by
  simp [readWhole, AnthropicResponse.toValue, Value.strAt, Value.asArray, isMessage, ofAssistant,
    stopped, readContent_toValue, readUsage, Usage.toValue, guard]

end Responses

/-! ### Streams -/

section Streams

variable {stream : StreamRequest} {feed : Feed (Except ProxyError ProviderEvent)} {client : Client}

/-- A stream that a client has followed to its end is read, with what its first frame says. -/
theorem readStreamed_of_run (run : clientRun {} (bodyStream stream feed) = some client)
    (ended : client.phase = .stopped ∨ client.phase = .failed) :
    readStreamed (bodyStream stream feed) =
      some ⟨stream.messageId, stream.model, client, if client.phase = .failed
        then (bodyStream stream feed).getLast?.bind (·.data.strAt "request_id") else none⟩ := by
  have opening : (bodyStream stream feed).head? = some
      (StreamEncoder.messageStart stream.messageId stream.model stream.inputTokens) := rfl
  unfold readStreamed
  rw [run, opening]
  simp [ended, guard, StreamEncoder.messageStart, sseEvent, Value.pointer, Value.asStr]

/-- The last frame of a stream that is broken. -/
theorem bodyStream_getLast {events : List ProviderEvent}
    {rest : List (Except ProxyError ProviderEvent)} {tail : Tail} {frame : SseFrame}
    (ends : ∀ encoder, encodeEvents stream.requestId encoder rest tail = [frame]) :
    (bodyStream stream ⟨events.map .ok ++ rest, tail⟩).getLast? = some frame := by
  unfold bodyStream
  dsimp only
  rw [encodeEvents_append, ends, ← List.cons_append, List.getLast?_concat]

/-- A stream of which the client knows that it is complete, or for which request it was broken. -/
def Ended (stream : StreamRequest) (frames : List SseFrame) : Prop :=
  ∃ client brokenFor,
    readStreamed frames = some ⟨stream.messageId, stream.model, client, brokenFor⟩ ∧
      ((client.phase = .stopped ∧ client.blocks ≠ [] ∧
          ∃ reason : StopReason, client.stopReason = some reason.asStr) ∨
        client.phase = .failed ∧ brokenFor = some stream.requestId)

theorem ended_of_broken {error : ProxyError}
    (run : clientRun {} (bodyStream stream feed) = some client) (broken : client.phase = .failed)
    (isLast : (bodyStream stream feed).getLast? = some (streamError error stream.requestId)) :
    Ended stream (bodyStream stream feed) := by
  have read := readStreamed_of_run run (.inr broken)
  rw [if_pos broken, isLast] at read
  refine ⟨client, _, read, .inr ⟨broken, ?_⟩⟩
  simp [streamError, sseEvent, Value.strAt]

/-- A decoded stream is understood, once it has come to an end. -/
theorem readStreamed_messageFrames (crates : Crates) (order : IterationOrder)
    (stream : StreamRequest) (input : Feed (Except TransportError Bytes)) :
    Ended stream (messageFrames crates order stream input) := by
  obtain ⟨events, areOpen, shape⟩ := parseSse_shape crates order input
  unfold messageFrames
  generalize parseSse crates order input = feed at shape
  cases shape with
  | finished reason usage =>
      have run := bodyStream_finished stream areOpen reason usage
      have read := readStreamed_of_run run (.inl rfl)
      exact ⟨_, _, read, .inl ⟨rfl, StreamEncoder.finishedBlocks_ne_nil _ _, reason, rfl⟩⟩
  | failed error =>
      obtain ⟨client, run, broken⟩ := bodyStream_failed stream areOpen error
      exact ended_of_broken run broken (bodyStream_getLast fun _ => rfl)
  | silent =>
      obtain ⟨client, run, broken⟩ := bodyStream_silent stream areOpen
      have isLast := @bodyStream_getLast stream events [] .pending
        (streamError idleTimeout stream.requestId) fun _ => rfl
      rw [List.append_nil] at isLast
      exact ended_of_broken run broken isLast

/-- A stream that opens its message and follows the protocol, but may come to no end. -/
def Interrupted (stream : StreamRequest) (frames : List SseFrame) : Prop :=
  frames.head? = some
      (StreamEncoder.messageStart stream.messageId stream.model stream.inputTokens) ∧
    ∃ client, clientRun {} frames = some client

section Served

variable {crates : Crates} {order : IterationOrder} {provider : Provider} {now : Instant}
  {circuits : Circuits} {input : Feed (Except TransportError Bytes)}

/-- What is served of a stream follows the protocol, as far as it goes. -/
theorem servedFrames_interrupted (stream : StreamRequest) :
    Interrupted stream (servedFrames crates order stream provider now circuits input) := by
  refine ⟨rfl, ?_⟩
  obtain ⟨events, areOpen, shape⟩ := parseSse_shape crates order input
  by_cases recordable : Recordable provider now circuits (parseSse crates order input)
  · rw [servedFrames_of_recordable recordable]
    obtain ⟨client, run, _⟩ := bodyStream_lifecycle stream areOpen shape
    exact ⟨client, run⟩
  · obtain ⟨client, _, -, -, run⟩ := bodyStream_append stream events areOpen
    have stopped := run [] .closed
    rw [List.append_nil] at stopped
    unfold servedFrames
    dsimp only
    rw [(forwardEvents_stuck shape recordable).1]
    exact ⟨client, stopped⟩

end Served

end Streams

/-! ### Answers -/

section Answers

variable {crates : Crates} {environment : Environment} {order : IterationOrder}
  {hashKey : String → Digest} {errors : JsonErrors} {view : CallView} {request : ApiRequest}

/-- What an attempt is for is what its request asks for. -/
theorem asked_of_attempt {runtime : Runtime} {client : Nat} {routed : RoutedRequest}
    (attempts : AttemptsFor crates hashKey errors runtime request client routed) :
    request.asked = (if routed.request.stream = true then .stream else .whole) ∧
      request.model = some routed.request.originalModel := by
  obtain ⟨endpoint, _, read⟩ := attempts
  simp only [Runtime.readMessages, Runtime.routed, Except.bind_eq_ok, orReject_eq_ok] at read
  obtain ⟨parsed, isParsed, normalized, isNormal, _, _, _, _, same⟩ := read
  obtain ⟨_, sameRequest⟩ := Prod.mk.inj (Except.ok.inj same)
  subst sameRequest
  obtain ⟨_, _, _, _, _, _, _, _, _, _, _, _, isNormalized⟩ := normalize_eq_ok.mp isNormal
  unfold ApiRequest.asked ApiRequest.model
  rw [endpoint, isParsed, isNormalized]
  exact ⟨rfl, rfl⟩

/-- A translated message is one of an assistant, with a stop reason. -/
theorem convertResponse_header {provided : OpenAiResponse} {model : String}
    {message : AnthropicResponse}
    (converted : convertResponse crates provided model = .ok message) :
    message.kind = "message" ∧ message.model = model ∧
      ∃ reason : StopReason, message.stopReason = some reason.asStr := by
  unfold convertResponse at converted
  split at converted
  · cases converted
  · simp only [Except.bind_eq_ok] at converted
    obtain ⟨_, _, reason, _, same⟩ := converted
    cases same
    exact ⟨rfl, rfl, reason, rfl⟩

/-- A success is understood as it is, whatever id is put on it. -/
theorem understand_ok (environment : Environment) (request : ApiRequest) {response : ProxyResponse}
    {read : Understood} (understood : understand request.asked response = some read) :
    understand request.asked (request.respond environment (some (.ok response))) = some read := by
  unfold ApiRequest.respond
  dsimp only
  rw [understand_setRequestId]
  exact understood

theorem respond_body (environment : Environment) (request : ApiRequest) (response : ProxyResponse) :
    (request.respond environment (some (.ok response))).body = response.body := by
  simp only [ApiRequest.respond, setRequestId]
  split <;> rfl

/-- A stream that is not broken off is served as it was decoded. -/
theorem streamed_of_calm {contact : Contact} {stream : StreamRequest} {now : Instant}
    {circuits : Circuits} {reply : HttpResponse}
    (calm : (contact.streamed crates order stream now circuits reply).isPanic = false) :
    contact.streamed crates order stream now circuits reply =
      streamResponse (messageFrames crates order stream reply.chunks) false := by
  obtain ⟨events, -, shape⟩ := parseSse_shape crates order reply.chunks
  have recordable : Recordable contact.candidate.provider now circuits
      (parseSse crates order reply.chunks) := by
    by_contra stuck
    have panicked := (forwardEvents_stuck shape stuck).2
    exact Bool.false_ne_true (calm.symm.trans panicked)
  have isFeed := forwardEvents_shape shape recordable
  unfold Contact.streamed at calm ⊢
  dsimp only [streamResponse, ProxyResponse.isPanic] at calm ⊢
  rw [calm, isFeed]
  rfl

/-- What explains an outcome that comes of no panic lets its answer be understood. -/
theorem explained_understood {outcome : Option (Except ProxyError ProxyResponse)}
    (calm : (StepResult.ends outcome).panics = false)
    (attempts : ∀ contact, view.Made contact →
      AttemptsFor crates hashKey errors view.runtime contact.request contact.client contact.routed ∧
        OfRoute crates view.runtime contact.routed contact.candidate)
    (explained : Explained crates environment order hashKey errors view outcome) :
    ∃ read, understand view.request.asked (view.request.respond environment outcome) = some read ∧
      read.IsFor view.request := by
  have failure : ∀ error : ProxyError, ∃ read,
      understand view.request.asked (view.request.respond environment (some (.error error))) =
          some read ∧
        read.IsFor view.request :=
    fun error => ⟨_, understand_error view.request.asked error view.request.requestId, rfl⟩
  cases explained with
  | unidentified refused => exact failure _
  | limited identified isLimit => exact failure _
  | unread identified refused => exact failure _
  | unserved identified gathers => exact failure _
  | unestimated isMessages identified gathers uncounted => exact failure _
  | lost made lost => exact failure _
  | @counted client candidate isCount identified gathers =>
      cases counted : candidate.provider.countTokens crates environment candidate.request with
      | error error => exact failure error
      | ok tokens =>
          have asked : view.request.asked = .count := by
            unfold ApiRequest.asked
            rw [isCount]
          refine ⟨.count tokens, understand_ok environment view.request ?_, trivial⟩
          rw [asked]
          rfl
  | @message contact reply parsed message made whole replied isJson translated =>
      obtain ⟨attempted, ofRoute⟩ := attempts contact made
      rw [made.2.1] at attempted
      obtain ⟨asked, isModel⟩ := asked_of_attempt attempted
      obtain ⟨isMessage, sameModel, reason, stopped⟩ := convertResponse_header translated
      obtain ⟨ofAssistant, someContent⟩ := convertResponse_shape translated
      have read := readWhole_toValue isMessage ofAssistant stopped
      have kept := (frame_of_adapted ofRoute.adapted).originalModel
      refine ⟨.whole ⟨message.id, message.model, message.content, reason.asStr, message.usage⟩,
        understand_ok environment view.request ?_, ?_, someContent, reason, rfl⟩
      · rw [asked, if_neg (by rw [whole]; exact Bool.false_ne_true)]
        simp only [understand, jsonResponse, read]
        rfl
      · rw [isModel, sameModel, kept]
  | unlooked identified panics => cases calm
  | unreported made panics => cases calm
  | @streamed contact reply inputTokens now circuits made inParts replied =>
      obtain ⟨attempted, _⟩ := attempts contact made
      rw [made.2.1] at attempted
      obtain ⟨asked, isModel⟩ := asked_of_attempt attempted
      obtain ⟨client, brokenFor, read, ended⟩ := readStreamed_messageFrames crates order
        { messageId := view.request.messageId
          model := contact.routed.request.originalModel
          requestId := view.request.requestId
          inputTokens := inputTokens } reply.chunks
      refine ⟨.stream ⟨view.request.messageId, contact.routed.request.originalModel, client,
        brokenFor⟩, understand_ok environment view.request ?_, rfl, isModel.symm, ended⟩
      rw [asked, if_pos inParts, streamed_of_calm calm]
      simp only [understand, streamResponse, read]
      rfl

/-- What a panic leaves of an answer. -/
def ApiAnswer.BrokenOff (answer : ApiAnswer) : Prop :=
  answer.response = panicResponse ∨ answer.request.asked = .stream ∧
    ∃ frames model inputTokens, answer.response.body = .eventStream frames true ∧
      some model = answer.request.model ∧
      Interrupted
        { messageId := answer.request.messageId
          model := model
          requestId := answer.request.requestId
          inputTokens := inputTokens } frames

theorem explained_brokenOff {outcome : Option (Except ProxyError ProxyResponse)}
    (panics : (StepResult.ends outcome).panics = true)
    (attempts : ∀ contact, view.Made contact →
      AttemptsFor crates hashKey errors view.runtime contact.request contact.client contact.routed)
    (explained : Explained crates environment order hashKey errors view outcome) :
    (ApiAnswer.mk view.request view.number (view.request.respond environment outcome)).BrokenOff := by
  cases explained with
  | unidentified refused => cases panics
  | limited identified isLimit => cases panics
  | unread identified refused => cases panics
  | unserved identified gathers => cases panics
  | unestimated isMessages identified gathers uncounted => cases panics
  | lost made lost => cases panics
  | @counted client candidate isCount identified gathers =>
      cases counted : candidate.provider.countTokens crates environment candidate.request with
      | error error =>
          rw [counted] at panics
          cases panics
      | ok tokens =>
          rw [counted] at panics
          cases panics
  | message made whole replied isJson translated => cases panics
  | unlooked identified panics => exact .inl rfl
  | unreported made panics => exact .inl rfl
  | @streamed contact reply inputTokens now circuits made inParts replied =>
      have attempted := attempts contact made
      rw [made.2.1] at attempted
      obtain ⟨asked, isModel⟩ := asked_of_attempt attempted
      rw [if_pos inParts] at asked
      have interrupted := @servedFrames_interrupted crates order contact.candidate.provider now
        circuits reply.chunks
        { messageId := view.request.messageId
          model := contact.routed.request.originalModel
          requestId := view.request.requestId
          inputTokens := inputTokens }
      refine .inr ⟨asked, _, _, inputTokens, ?_, isModel.symm, interrupted⟩
      simp only [StepResult.panics, Contact.streamed, streamResponse, ProxyResponse.isPanic]
        at panics
      rw [respond_body]
      simp only [Contact.streamed, streamResponse, panics, servedFrames]

/-- What the client of an answer has from it. -/
structure Fulfils (environment : Environment) (answer : ApiAnswer) : Prop where
  understood : answer.response.isPanic = false →
    ∃ read, understand answer.request.asked answer.response = some read ∧
      read.IsFor answer.request
  brokenOff : answer.response.isPanic = true → answer.BrokenOff
  /-- A success names the request in its headers, as a failure does in its body. -/
  named : answer.response.status = 200 →
    environment.isHeaderValue answer.request.requestId = true →
    answer.response.headers.lookup "request-id" = some answer.request.requestId

/-- However requests interleave and runtimes are put in place, and whatever the providers reply:
every answer that comes of no panic can be read by a client as an answer to what it asked for. There is
no panic while there is room for the cooldowns of the configurations. -/
theorem answers_understood {config : AppConfig} {runtime : Runtime}
    (built : Runtime.new crates environment hashKey config = some (.ok runtime))
    (moves : List ServiceMove) {answer : ApiAnswer}
    (isAnswer : answer ∈
      (Service.run crates environment order hashKey errors runtime moves).answers) :
    Fulfils environment answer ∧ ∀ horizon, horizon + config.cooldown ≤ clockMax →
      (∀ move ∈ moves, move.LeavesRoom horizon) → answer.response.isPanic = false := by
  have sources := (@sourceRules crates environment order hashKey errors).run built moves
  have holds := (@authorizationRules crates environment order hashKey errors).run built moves
  obtain ⟨live, isLive, outcome, isResponse, explained⟩ := sources.answers answer isAnswer
  have panics := respond_isPanic environment answer.request outcome
  rw [← isResponse] at panics
  refine ⟨⟨?_, ?_, ?_⟩, fun horizon room roomy => (answers_calm built room roomy).answers _ isAnswer⟩
  · intro calm
    rw [isResponse]
    exact explained_understood (panics.symm.trans calm)
      (fun contact made => holds.made isLive made) explained
  · intro broken
    have brokenOff := explained_brokenOff (panics.symm.trans broken)
      (fun contact made => (holds.made isLive made).1) explained
    rw [show answer = ⟨answer.request, answer.runtime, answer.response⟩ from rfl, isResponse]
    exact brokenOff
  · intro succeeded isHeader
    rw [isResponse] at succeeded ⊢
    rcases outcome with _ | error | response
    · cases succeeded
    · exact absurd succeeded (status_ne_ok _)
    · exact setRequestId_named _ _ isHeader

end Answers

/-- The answer of the sample, after its last step: a failure, and no panic. -/
theorem answers_understood_office :
    ∃ answer ∈ (officeService (officeMoves ++ [.advance 0 officeAround])).answers,
      Fulfils officeEnvironment answer ∧ answer.response.isPanic = false := by
  have answered : 0 < (officeService (officeMoves ++ [.advance 0 officeAround])).answers.length := by
    decide +kernel
  have isAnswer := List.getElem_mem answered
  obtain ⟨fulfils, calm⟩ := @answers_understood officeCrates officeEnvironment officeOrder (fun _ => [])
    officeErrors officeConfig officeRuntime rfl (officeMoves ++ [.advance 0 officeAround]) _ isAnswer
  exact ⟨_, isAnswer, fulfils, calm 0 (by decide) (by decide +kernel)⟩

end ClaudeProxy
