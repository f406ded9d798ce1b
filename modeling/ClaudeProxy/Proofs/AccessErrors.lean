/-
Module: ClaudeProxy.Proofs.AccessErrors
Layer: Proofs
Purpose: What the statuses 401 and 403 say. The proxy answers with 401 exactly when the key of a request
  is that of no client, and with 403 only when its client may not use the route that the request takes.
  Nothing that a provider replies, and nothing else that goes wrong, is reported to a client as one of
  the two.
Trusted boundary: none
Main exports: Invalid, Impersonal, normalize_invalid, lost_impersonal, UnknownKey, Barred, AccessExact,
  explained_access, access_exact
-/
import ClaudeProxy.Proofs.AnswerSources
import ClaudeProxy.Proofs.CandidateErrors

namespace ClaudeProxy

open Library
open Library.Except (Fails)

/-! ### Kinds of errors -/

/-- The request is to blame. -/
def Invalid (error : ProxyError) : Prop := error.kind = .invalidRequest

/-- The error is not about who asks. -/
def Impersonal (error : ProxyError) : Prop :=
  error.kind ≠ .authentication ∧ error.kind ≠ .permission

/-- An error of any kind but the two that are about a client's identity and rights. -/
theorem impersonal_of_kind {error : ProxyError} (kind : ErrorKind) (isKind : error.kind = kind)
    (other : kind ≠ .authentication ∧ kind ≠ .permission) : Impersonal error := by
  rw [Impersonal, isKind]
  exact other

/-- An invalid request says nothing about who sent it. -/
theorem Invalid.impersonal {error : ProxyError} (invalid : Invalid error) : Impersonal error :=
  impersonal_of_kind .invalidRequest invalid (by decide)

/-- Nor does another error that the proxy makes itself, of any kind but those two. -/
theorem IsNew.impersonal {kind : ErrorKind} {error : ProxyError} (isNew : IsNew kind error)
    (other : kind ≠ .authentication ∧ kind ≠ .permission) : Impersonal error :=
  impersonal_of_kind kind isNew.kind_eq other

section Checks

variable {α : Type} {strict : Bool} {path : String}

/-- What the checks of a request find missing or wrong is an invalid request: here a value that is
none. -/
theorem orReject_invalid (found : Option α) (message : String) :
    Fails Invalid (orReject found (.invalid message)) :=
  orReject_isNew.imp fun _ => IsNew.kind_eq

theorem rejected_invalid {condition : Prop} [Decidable condition] (message : String) :
    Fails Invalid (rejectIf condition (.invalid message)) :=
  rejectIf_isNew.imp fun _ => IsNew.kind_eq

theorem requiredStr_invalid (value : Value) (key path : String) :
    Fails Invalid (requiredStr value key path) := orReject_invalid _ _

/-- A field that is not allowed is an invalid request. -/
theorem onlyKeys_invalid (value : Value) (allowed : List String) (path : String) :
    Fails Invalid (onlyKeys value allowed path) := by
  unfold onlyKeys
  split
  · exact .error rfl
  · exact .ok ()

/-- So it is where unknown fields are only refused in strict mode. -/
theorem ensureOnly_invalid (value : Value) (allowed : List String) (path : String) (strict : Bool) :
    Fails Invalid (ensureOnly value allowed path strict) := by
  unfold ensureOnly
  split
  · exact .ok ()
  · exact (rejected_invalid _).bind fun _ => onlyKeys_invalid _ _ _

/-! ### The body of a request -/

/-- A system prompt is refused as an invalid request only. -/
theorem parseSystem_invalid (value : Value) (strict : Bool) :
    Fails Invalid (parseSystem value strict) := by
  unfold parseSystem
  split
  · exact .ok _
  · refine Fails.mapM (fun entry => ?_) _
    exact (rejected_invalid _).bind fun _ => (requiredStr_invalid _ _ _).bind fun _ =>
      (ensureOnly_invalid _ _ _ _).bind fun _ => .ok _
  · exact .error rfl

theorem parseBase64Source_invalid (crates : Crates) (source : Value) (path : String) :
    Fails Invalid (parseBase64Source crates source path) :=
  (onlyKeys_invalid _ _ _).bind fun _ => (orReject_invalid _ _).bind fun _ =>
    (rejected_invalid _).bind fun _ => (orReject_invalid _ _).bind fun _ =>
      (rejected_invalid _).bind fun _ => .ok _

theorem parseUrlSource_invalid (crates : Crates) (source : Value) (path : String) :
    Fails Invalid (parseUrlSource crates source path) :=
  (onlyKeys_invalid _ _ _).bind fun _ => (orReject_invalid _ _).bind fun _ =>
    (orReject_invalid _ _).bind fun _ => (rejected_invalid _).bind fun _ => .ok _

/-- So is an image, whichever source it has. -/
theorem parseImage_invalid (crates : Crates) (block : Value) (path : String) (strict : Bool) :
    Fails Invalid (parseImage crates block path strict) := by
  refine (ensureOnly_invalid _ _ _ _).bind fun _ => (orReject_invalid _ _).bind fun source =>
    (orReject_invalid _ _).bind fun kind => ?_
  split
  · exact parseBase64Source_invalid _ _ _
  · split
    · exact parseUrlSource_invalid _ _ _
    · exact .error rfl

/-- So is a block of content, whatever kind it is of. -/
theorem parseBlockOf_invalid (crates : Crates) (kind : String) (block : Value) (path : String)
    (strict : Bool) : Fails Invalid (parseBlockOf crates kind block path strict) := by
  unfold parseBlockOf
  split
  · exact (ensureOnly_invalid _ _ _ _).bind fun _ => (rejected_invalid _).bind fun _ =>
      (requiredStr_invalid _ _ _).bind fun _ => .ok _
  · split
    · exact parseImage_invalid _ _ _ _
    · split
      · exact (ensureOnly_invalid _ _ _ _).bind fun _ => (requiredStr_invalid _ _ _).bind fun _ =>
          (requiredStr_invalid _ _ _).bind fun _ => (orReject_invalid _ _).bind fun _ => .ok _
      · split
        · exact (ensureOnly_invalid _ _ _ _).bind fun _ => (requiredStr_invalid _ _ _).bind fun _ => .ok _
        · exact .error rfl

/-- A message with a wrong role or wrong blocks is an invalid request. -/
theorem normalizeMessage_invalid (crates : Crates) (message : InputMessage) (index : Nat)
    (strict : Bool) : Fails Invalid (normalizeMessage crates message index strict) := by
  have role : Fails Invalid (parseRole message.role index) := by
    unfold parseRole
    repeat' split
    · exact .ok _
    · exact .ok _
    · exact .ok _
    · exact .error rfl
  have content : Fails Invalid (parseContent crates message.content index strict) := by
    unfold parseContent
    split
    · exact .ok _
    · refine (rejected_invalid _).bind fun _ => Fails.mapM (fun entry => ?_) _
      exact (requiredStr_invalid _ _ _).bind fun _ => parseBlockOf_invalid _ _ _ _ _
    · exact .error rfl
  exact role.bind fun _ => content.bind fun _ => .ok _

theorem normalizeSystem_invalid (system : Option Value) (strict : Bool) :
    Fails Invalid (normalizeSystem system strict) := by
  cases system with
  | none => exact .ok []
  | some value => exact (parseSystem_invalid value strict).bind fun _ => .ok _

/-- A history whose tools do not pair is an invalid request. -/
theorem validateToolHistory_invalid (messages : List NormalizedMessage) :
    Fails Invalid (validateToolHistory messages) := by
  refine Fails.foldlM (fun history message => Fails.foldlM (fun history block => ?_) _ _) _ _
  cases block with
  | text text => exact .ok _
  | image mediaType data => exact .ok _
  | toolUse id name input => exact (rejected_invalid _).bind fun _ => .ok _
  | toolResult toolUseId content isError => exact (rejected_invalid _).bind fun _ => .ok _

/-- So are tools with a wrong name or schema, or two of one name. -/
theorem checkTools_invalid (tools : List ToolDefinition) (strict : Bool) :
    Fails Invalid (checkTools tools strict) := by
  refine Fails.foldlM (fun seen tool => ?_) _ _
  exact (rejected_invalid _).bind fun _ => (rejected_invalid _).bind fun _ =>
    (rejected_invalid _).bind fun _ => .ok _

/-- So is a choice of tools that is not one of the four. -/
theorem parseToolChoice_invalid (value : Option Value) (strict : Bool) :
    Fails Invalid (parseToolChoice value strict) := by
  cases value with
  | none => exact .ok none
  | some value =>
      refine (requiredStr_invalid _ _ _).bind fun kind => Fails.bind ?_ fun _ => .ok _
      unfold parseChoiceOf
      repeat' split
      · exact (ensureOnly_invalid _ _ _ _).bind fun _ => .ok _
      · exact (ensureOnly_invalid _ _ _ _).bind fun _ => .ok _
      · exact (ensureOnly_invalid _ _ _ _).bind fun _ => .ok _
      · exact (ensureOnly_invalid _ _ _ _).bind fun _ => (requiredStr_invalid _ _ _).bind fun _ => .ok _
      · exact .error rfl

/-- So is the choice of a tool that is not there. -/
theorem checkToolChoice_invalid (choice : Option ToolChoice) (tools : List ToolDefinition)
    (names : List String) : Fails Invalid (checkToolChoice choice tools names) := by
  unfold checkToolChoice
  split
  · exact (rejected_invalid _).bind fun _ => rejected_invalid _
  · exact rejected_invalid _
  · exact .ok ()

/-- So is a field of the request that is out of its range. -/
theorem checkFields_invalid (request : AnthropicRequest) (strict : Bool) :
    Fails Invalid (checkFields request strict) :=
  (rejected_invalid _).bind fun _ => (rejected_invalid _).bind fun _ =>
    (rejected_invalid _).bind fun _ => (rejected_invalid _).bind fun _ =>
      (rejected_invalid _).bind fun _ => (rejected_invalid _).bind fun _ =>
        (rejected_invalid _).bind fun _ => (rejected_invalid _).bind fun _ =>
          (rejected_invalid _).bind fun _ => rejected_invalid _

/-- A request that is not normalized is to blame for it. -/
theorem normalize_invalid (crates : Crates) (request : AnthropicRequest) (looseValidation : Bool) :
    Fails Invalid (normalize crates request looseValidation) :=
  (checkFields_invalid _ _).bind fun _ => (normalizeSystem_invalid _ _).bind fun _ =>
    (Fails.mapM (fun _ => normalizeMessage_invalid _ _ _ _) _).bind fun _ =>
      (validateToolHistory_invalid _).bind fun _ => (checkTools_invalid _ _).bind fun _ =>
        (parseToolChoice_invalid _ _).bind fun _ => (checkToolChoice_invalid _ _ _).bind fun _ => .ok _

end Checks

/-! ### The bodies of the endpoints -/

/-- Either the request is to blame, or its client may not use the route. -/
def InvalidOrDenied (error : ProxyError) : Prop := Invalid error ∨ error = permissionDenied

/-- The checks of a request never deny anything. -/
theorem invalid_or_denied {α : Type} {run : Except ProxyError α} (fails : Fails Invalid run) :
    Fails InvalidOrDenied run := fun error failed => .inl (fails error failed)

section Reading

variable {crates : Crates} {environment : Environment} {errors : JsonErrors} {runtime : Runtime}
  {identity : ClientIdentity}

/-- No route, or more than one, is an invalid request. -/
theorem resolve_invalid (router : Router) (request : NormalizedRequest) :
    Fails Invalid (router.resolve request) := by
  unfold Router.resolve
  split
  · exact .error rfl
  · exact .ok _
  · exact .error rfl

/-- On the way to its route a request is found invalid, or its client is denied the route. -/
theorem routed_error (request : AnthropicRequest) :
    Fails InvalidOrDenied (runtime.routed crates identity request) := by
  refine (invalid_or_denied (normalize_invalid _ _ _)).bind fun normalized => ?_
  refine (invalid_or_denied (resolve_invalid _ _)).bind fun route => ?_
  refine Fails.bind ?_ fun _ => .ok _
  unfold rejectIf
  split
  · exact .error (.inr rfl)
  · exact .ok ()

/-- That is all that `messages` can find wrong with a body. -/
theorem readMessages_error (body : Option JsonText) :
    Fails InvalidOrDenied (runtime.readMessages crates errors identity body) :=
  (invalid_or_denied (orReject_invalid _ _)).bind fun request => routed_error request

/-- And all that `count_tokens` can. -/
theorem readCount_error (body : Option JsonText) :
    Fails InvalidOrDenied (runtime.readCount crates errors identity body) :=
  (invalid_or_denied (orReject_invalid _ _)).bind fun _ =>
    (invalid_or_denied (orReject_invalid _ _)).bind fun _ =>
      (invalid_or_denied (orReject_invalid _ _)).bind fun request => routed_error request

end Reading

/-! ### Attempts -/

section Attempts

variable {crates : Crates} {environment : Environment} {order : IterationOrder}

/-- The preparation of an attempt says nothing of its client. -/
theorem prepare_impersonal (provider : Provider) (request : NormalizedRequest) (model : String)
    (stream : Bool) : Fails Impersonal (provider.prepare crates request model stream) :=
  (prepare_isNew provider request model stream).imp fun _ isNew => isNew.impersonal (by decide)

/-- A count fails for the request, or for a tokenizer that does not load. -/
theorem countTokens_invalid (provider : Provider) (request : NormalizedRequest) :
    Fails Invalid (provider.countTokens crates environment request) := by
  refine Fails.bind (adaptRequest_error crates provider.capabilities request) fun adapted => ?_
  refine Fails.bind (Fails.bind (rejected_invalid _) fun _ => ?_) fun _ => .ok _
  cases environment.tokenizer provider.capabilities.tokenizer with
  | error error => exact .error rfl
  | ok encoded => exact .ok encoded

/-- Nor does a secret that cannot be read. -/
theorem httpRequest_impersonal (provider : Provider) (body : Value) :
    Fails Impersonal (provider.httpRequest environment body) :=
  (httpRequest_isNew provider body).imp fun _ isNew => isNew.impersonal (by decide)

/-- A reply that is no answer is a fault of the upstream. -/
theorem convertResponse_impersonal (response : OpenAiResponse) (model : String) :
    Fails Impersonal (convertResponse crates response model) :=
  (convertResponse_isNew response model).imp fun _ isNew => isNew.impersonal (by decide)

/-- So is a connection that breaks. -/
theorem classifyTransport_impersonal (error : TransportError) :
    Impersonal (classifyTransport error) := by
  unfold classifyTransport
  split
  · exact impersonal_of_kind .upstream rfl (by decide)
  · split
    · exact impersonal_of_kind .timeout rfl (by decide)
    · exact impersonal_of_kind .upstream rfl (by decide)

/-- A 401 and a 403 of a provider are failures of the proxy's own credentials. -/
theorem statusKind_impersonal (status : Nat) :
    statusKind status ≠ .authentication ∧ statusKind status ≠ .permission := by
  unfold statusKind
  repeat' split
  all_goals exact ⟨by decide, by decide⟩

/-- Whatever a provider replies, a 401 or 403 of its own among it, says nothing of the client. -/
theorem send_impersonal {provider : Provider} {body : Value} {upstream : Upstream}
    {error : ProxyError}
    (failed : provider.send crates environment body upstream = some (.error error)) :
    Impersonal error := by
  rcases andThen_error failed with unsent | ⟨request, -, received⟩
  · exact httpRequest_impersonal provider body error (Option.some.inj unsent)
  · cases replied : upstream.reply request with
    | none =>
        rw [replied] at received
        cases received
    | some reply =>
        rw [replied] at received
        cases reply with
        | broken transport =>
            cases received
            exact classifyTransport_impersonal transport
        | answered response =>
            unfold receive at received
            dsimp only at received
            split at received
            · cases received
            · obtain ⟨text, -, same⟩ := Option.map_eq_some_iff.mp received
              cases same
              exact statusKind_impersonal response.status

/-- So no error of a whole call does. -/
theorem execute_impersonal {candidate : Candidate} {upstream : Upstream} {error : ProxyError}
    (failed : candidate.execute crates environment upstream = some (.error error)) :
    Impersonal error := by
  rcases andThen_error failed with unprepared | ⟨body, -, sent⟩
  · exact prepare_impersonal _ _ _ _ error (Option.some.inj unprepared)
  · rcases andThen_error sent with unsent | ⟨response, -, read⟩
    · exact send_impersonal unsent
    · obtain ⟨parsed, -, same⟩ := Option.map_eq_some_iff.mp read
      cases parsed with
      | error text =>
          cases same
          exact impersonal_of_kind .upstream rfl (by decide)
      | ok parsed => exact convertResponse_impersonal parsed _ error same

/-- And no error of a stream that is opened. -/
theorem stream_impersonal {candidate : Candidate} {upstream : Upstream} {error : ProxyError}
    (failed : candidate.stream crates environment order upstream = some (.error error)) :
    Impersonal error := by
  rcases andThen_error failed with unprepared | ⟨body, -, sent⟩
  · exact prepare_impersonal _ _ _ _ error (Option.some.inj unprepared)
  · rcases andThen_error sent with unsent | ⟨response, -, handed⟩
    · exact send_impersonal unsent
    · cases handed

/-- Nor does the error of an attempt, timeouts among them. -/
theorem turn_impersonal {α : Type} {call : Candidate → Upstream → Timed α} {elapsed : ProxyError}
    {candidate : Candidate} {upstream : Upstream} {error : ProxyError} {goesOn : Bool}
    (calls : ∀ error, call candidate upstream = some (.error error) → Impersonal error)
    (waits : Impersonal elapsed)
    (lost : candidate.turn call elapsed upstream = .lost error goesOn) : Impersonal error := by
  unfold Candidate.turn at lost
  split at lost
  · cases lost
  · rename_i failed
    cases lost
    exact calls error failed
  · cases lost
    exact waits

/-- Whatever a provider replies, its client is told of no error about who asks. -/
theorem lost_impersonal {contact : Contact} {error : ProxyError}
    (lost : contact.Lost crates environment order error) : Impersonal error := by
  unfold Contact.Lost at lost
  split at lost
  · obtain ⟨goesOn, isLost⟩ := lost
    exact turn_impersonal (fun _ => stream_impersonal)
      (impersonal_of_kind .timeout rfl (by decide)) isLost
  · obtain ⟨goesOn, isLost⟩ := lost
    exact turn_impersonal (fun _ => execute_impersonal)
      (impersonal_of_kind .timeout rfl (by decide)) isLost

/-! ### The look at the targets -/

/-- An error that is kept on the way is one of the request. -/
theorem add_invalid {request : NormalizedRequest} {gathering : Gathering}
    (holds : ∀ error, gathering.capabilityError = some error → Invalid error) (now : Instant)
    (resolved : Provider × TargetConfig) {error : ProxyError}
    (isError : (gathering.add crates request now resolved).capabilityError = some error) :
    Invalid error := by
  unfold Gathering.add at isError
  split at isError
  · exact holds error isError
  · split at isError
    · rename_i failure rejected
      cases found : gathering.capabilityError with
      | none =>
          rw [found] at isError
          cases isError
          exact adaptRequest_error crates resolved.1.capabilities request failure rejected
      | some earlier =>
          rw [found] at isError
          cases isError
          exact holds earlier found
    · split at isError
      · exact holds error isError
      · split at isError
        · exact holds error isError
        · exact holds error isError

/-- Nor does what the look at the targets finds. -/
theorem gather_impersonal {draws : Nat → Nat} {clock : Nat → Instant} {circuits after : Circuits}
    {request : NormalizedRequest} {resolved : List (Provider × TargetConfig)} {error : ProxyError}
    (gathered : gatherCandidates crates draws clock circuits request resolved =
      (after, some (.error error))) : Impersonal error := by
  have invalid : ∀ (entries : List ((Provider × TargetConfig) × Nat)) (gathering : Gathering),
      (∀ error, gathering.capabilityError = some error → Invalid error) →
      ∀ error, (entries.foldl (fun (gathering : Gathering) entry =>
        gathering.add crates request (clock entry.2) entry.1) gathering).capabilityError =
          some error → Invalid error := by
    intro entries
    induction entries with
    | nil => exact fun _ holds => holds
    | cons entry rest inductionHypothesis =>
        intro gathering holds
        exact inductionHypothesis _ fun error isError => add_invalid holds _ _ isError
  have noError : ∀ error, ({ circuits := circuits } : Gathering).capabilityError = some error →
      Invalid error := by
    intro error impossible
    cases impossible
  unfold gatherCandidates at gathered
  dsimp only at gathered
  obtain ⟨-, outcome⟩ := Prod.mk.inj gathered
  split at outcome
  · cases outcome
  split at outcome
  · cases outcome
    cases found : (resolved.zipIdx.foldl (fun (gathering : Gathering) entry =>
        gathering.add crates request (clock entry.2) entry.1)
        { circuits := circuits }).capabilityError with
    | none => exact impersonal_of_kind .overloaded rfl (by decide)
    | some error => exact (invalid _ _ noError error found).impersonal
  · cases outcome

/-- So no error of `candidates` does. -/
theorem candidates_impersonal {router : Router} {route : Route} {draws : Nat → Nat}
    {clock : Nat → Instant} {circuits after : Circuits} {request : NormalizedRequest}
    {error : ProxyError}
    (gathered : router.candidates crates draws clock circuits route request =
      (after, some (.error error))) : Impersonal error := by
  unfold Router.candidates at gathered
  split at gathered
  · cases gathered
  · exact gather_impersonal gathered

end Attempts

/-! ### Who asks, and for what -/

section Access

/-- The request shows the version it has to, and the key of no client. -/
structure UnknownKey (environment : Environment) (hashKey : String → Digest) (config : AppConfig)
    (request : ApiRequest) : Prop where
  version : validateVersion config request.headers = .ok ()
  noClient : ∀ key, extractKey request.headers = some key → ∀ client ∈ config.clients,
    ∀ configured, client.key.resolve environment = .ok configured → hashKey configured ≠ hashKey key

/-- The request that an endpoint finds in a body. -/
def ApiRequest.Parses (request : ApiRequest) (parsed : AnthropicRequest) : Prop :=
  match request.endpoint with
  | .messages => request.body.bind AnthropicRequest.fromText = some parsed
  | .countTokens => ∃ value object, request.body.bind (readValue textDepth) = some value ∧
      value.asObject = some object ∧
      AnthropicRequest.fromValue (.object (Entries.insert "stream" (.bool false)
        (Entries.insert "max_tokens" (.num 1) object))) = some parsed

/-- The request is one of a client that may not use the route that it takes. -/
def Barred (crates : Crates) (hashKey : String → Digest) (runtime : Runtime) (request : ApiRequest) :
    Prop :=
  ∃ client parsed normalized route, Identified hashKey runtime request client ∧
    request.Parses parsed ∧
    normalize crates parsed runtime.config.server.looseInputValidation = .ok normalized ∧
    runtime.router.resolve normalized = .ok route ∧
    (runtime.auth[client]?.getD default).allowsRoute route.id = false

/-- What the status of an answer says about who asks. A request that is barred is told so, or that a
limit is exceeded. -/
structure AccessExact (crates : Crates) (environment : Environment) (hashKey : String → Digest)
    (runtime : Runtime) (request : ApiRequest) (response : ProxyResponse) : Prop where
  unauthenticated : response.status = 401 ↔ UnknownKey environment hashKey runtime.config request
  forbidden : response.status = 403 → Barred crates hashKey runtime request
  barred : Barred crates hashKey runtime request →
    ∃ error ∈ [permissionDenied, rateExceeded, concurrencyExceeded, globalExceeded],
      response = request.respond environment (some (.error error))

variable {crates : Crates} {environment : Environment} {order : IterationOrder}
  {hashKey : String → Digest} {errors : JsonErrors} {runtime : Runtime} {request : ApiRequest}

/-! ### Keys -/

/-- No client is found exactly if no configured one has the key. -/
theorem unauthenticated_iff
    (registered : AuthRegistry.new environment hashKey runtime.config.clients = .ok runtime.auth)
    (headers : HeaderMap) :
    (∀ client, runtime.auth.authenticate hashKey headers ≠ .ok client) ↔
      ∀ key, extractKey headers = some key → ∀ client ∈ runtime.config.clients,
        ∀ configured, client.key.resolve environment = .ok configured →
          hashKey configured ≠ hashKey key := by
  constructor
  · intro noClient key extracted client member configured resolved sameHash
    obtain ⟨index, bound, rfl⟩ := List.mem_iff_getElem.mp member
    obtain ⟨identity, own, held, _, ownResolved, hashed⟩ :=
      AuthRegistry.new_identity registered (List.getElem?_eq_getElem bound)
    rw [resolved] at ownResolved
    cases ownResolved
    have isMatch : (runtime.auth.findIdx? fun identity => identity.keyHash == hashKey key) ≠ none := by
      rw [Ne, List.findIdx?_eq_none_iff]
      intro noMatch
      have differs := noMatch identity (List.mem_of_getElem? held)
      rw [hashed, sameHash, beq_self_eq_true] at differs
      cases differs
    obtain ⟨found, isFound⟩ := Option.ne_none_iff_exists'.mp isMatch
    refine noClient found ?_
    unfold AuthRegistry.authenticate
    rw [extracted]
    exact orReject_eq_ok.mpr isFound
  · intro noClient client authenticated
    cases extracted : extractKey headers with
    | none => exact authenticate_missing extracted client authenticated
    | some key =>
        obtain ⟨⟨identity, held, sameHash⟩, _⟩ := (authenticate_iff extracted).mp authenticated
        have sameLength := (Except.mapM_eq_ok.mp registered).length_eq
        have bound : client < runtime.config.clients.length :=
          sameLength ▸ (List.getElem?_eq_some_iff.mp held).1
        obtain ⟨registeredAs, configured, isRegistered, _, resolved, hashed⟩ :=
          AuthRegistry.new_identity registered (List.getElem?_eq_getElem bound)
        rw [held] at isRegistered
        cases isRegistered
        exact noClient key extracted _ (List.getElem_mem bound) configured resolved
          (hashed.symm.trans sameHash)

/-- A request without a known key comes from none of the clients. -/
theorem not_identified_of_unknown
    (registered : AuthRegistry.new environment hashKey runtime.config.clients = .ok runtime.auth)
    (unknown : UnknownKey environment hashKey runtime.config request) (client : Nat) :
    ¬ Identified hashKey runtime request client := by
  intro identified
  simp only [Identified, Runtime.identify, Except.bind_eq_ok] at identified
  obtain ⟨_, _, _, authenticated, same⟩ := identified
  cases same
  exact (unauthenticated_iff registered request.headers).mpr unknown.noClient client authenticated

/-- A request that nobody is found for shows a wrong version, or an unknown key. -/
theorem identify_error
    (registered : AuthRegistry.new environment hashKey runtime.config.clients = .ok runtime.auth)
    {error : ProxyError} (refused : runtime.identify hashKey request.headers = .error error) :
    (Invalid error ∧ ¬ UnknownKey environment hashKey runtime.config request) ∨
      error.kind = .authentication ∧ UnknownKey environment hashKey runtime.config request := by
  cases version : validateVersion runtime.config request.headers with
  | error failure =>
      have same : failure = error := by
        rw [Runtime.identify, version] at refused
        exact Except.error.inj refused
      have invalid : Fails Invalid (validateVersion runtime.config request.headers) := by
        unfold validateVersion
        split
        · exact .ok ()
        · split
          · exact rejected_invalid _
          · exact .error rfl
      refine .inl ⟨same ▸ invalid failure version, fun unknown => ?_⟩
      rw [unknown.version] at version
      cases version
  | ok done =>
      cases authenticated : runtime.auth.authenticate hashKey request.headers with
      | ok client =>
          rw [Runtime.identify, version, authenticated] at refused
          cases refused
      | error failure =>
          have same : failure = error := by
            rw [Runtime.identify, version, authenticated] at refused
            exact Except.error.inj refused
          have isKind : Fails (fun error => error.kind = .authentication)
              (runtime.auth.authenticate hashKey request.headers) := by
            unfold AuthRegistry.authenticate orReject
            refine Fails.bind ?_ fun _ => ?_
            · split
              · exact .ok _
              · exact .error rfl
            · split
              · exact .ok _
              · exact .error rfl
          refine .inr ⟨same ▸ isKind failure authenticated, version, ?_⟩
          refine (unauthenticated_iff registered request.headers).mp fun client found => ?_
          rw [found] at authenticated
          cases authenticated

/-! ### Routes -/

theorem bind_denied_iff {α β : Type} {first : Except ProxyError α} {next : α → Except ProxyError β}
    (invalid : Fails Invalid first) :
    (first >>= next) = .error permissionDenied ↔
      ∃ value, first = .ok value ∧ next value = .error permissionDenied := by
  cases first with
  | error failure =>
      refine iff_of_false (fun same => ?_) (fun ⟨_, impossible, _⟩ => nomatch impossible)
      cases same
      have isInvalid : Invalid permissionDenied := invalid _ rfl
      cases isInvalid
  | ok value =>
      constructor
      · exact fun denied => ⟨value, rfl, denied⟩
      · rintro ⟨_, same, denied⟩
        cases same
        exact denied

/-- A client is denied a route exactly if it may not use the one that its request takes. -/
theorem routed_denied_iff {identity : ClientIdentity} {parsed : AnthropicRequest} :
    runtime.routed crates identity parsed = .error permissionDenied ↔
      ∃ normalized route,
        normalize crates parsed runtime.config.server.looseInputValidation = .ok normalized ∧
          runtime.router.resolve normalized = .ok route ∧ identity.allowsRoute route.id = false := by
  unfold Runtime.routed
  rw [bind_denied_iff (normalize_invalid _ _ _)]
  refine exists_congr fun normalized => ?_
  rw [bind_denied_iff (resolve_invalid _ _)]
  rw [← exists_and_left]
  refine exists_congr fun route => and_congr_right fun _ => and_congr_right fun _ => ?_
  unfold rejectIf
  split
  · rename_i denied
    exact iff_of_true rfl denied
  · rename_i allowed
    exact iff_of_false nofun allowed

/-- So it is for both endpoints. -/
theorem read_denied_iff {view : CallView} {client : Nat} :
    view.read crates errors client = .error permissionDenied ↔
      ∃ parsed, view.request.Parses parsed ∧ view.runtime.routed crates
        (view.runtime.auth[client]?.getD default) parsed = .error permissionDenied := by
  unfold CallView.read ApiRequest.Parses
  dsimp only
  cases view.request.endpoint with
  | messages =>
      unfold Runtime.readMessages
      rw [bind_denied_iff (orReject_invalid _ _)]
      exact exists_congr fun parsed => and_congr_left fun _ => orReject_eq_ok
  | countTokens =>
      unfold Runtime.readCount
      rw [bind_denied_iff (orReject_invalid _ _)]
      constructor
      · rintro ⟨value, isValue, rest⟩
        obtain ⟨object, isObject, rest⟩ := (bind_denied_iff (orReject_invalid _ _)).mp rest
        obtain ⟨parsed, isParsed, denied⟩ := (bind_denied_iff (orReject_invalid _ _)).mp rest
        exact ⟨parsed, ⟨value, object, orReject_eq_ok.mp isValue, orReject_eq_ok.mp isObject,
          orReject_eq_ok.mp isParsed⟩, denied⟩
      · rintro ⟨parsed, ⟨value, object, isValue, isObject, isParsed⟩, denied⟩
        refine ⟨value, orReject_eq_ok.mpr isValue, ?_⟩
        refine (bind_denied_iff (orReject_invalid _ _)).mpr ⟨object, orReject_eq_ok.mpr isObject, ?_⟩
        exact (bind_denied_iff (orReject_invalid _ _)).mpr
          ⟨parsed, orReject_eq_ok.mpr isParsed, denied⟩

/-- A request is denied its route by the reading of its body exactly if it is barred. -/
theorem barred_iff {view : CallView} {client : Nat}
    (identified : Identified hashKey view.runtime view.request client) :
    Barred crates hashKey view.runtime view.request ↔
      view.read crates errors client = .error permissionDenied := by
  rw [read_denied_iff]
  constructor
  · rintro ⟨other, parsed, normalized, route, alsoIdentified, parses, isNormal, resolved, denied⟩
    have sameClient := (Prod.mk.inj (Except.ok.inj (alsoIdentified.symm.trans identified))).1
    rw [sameClient] at denied
    exact ⟨parsed, parses, routed_denied_iff.mpr ⟨normalized, route, isNormal, resolved, denied⟩⟩
  · rintro ⟨parsed, parses, denied⟩
    obtain ⟨normalized, route, isNormal, resolved, notAllowed⟩ := routed_denied_iff.mp denied
    exact ⟨client, parsed, normalized, route, identified, parses, isNormal, resolved, notAllowed⟩

/-! ### Answers -/

/-- An error that says nothing of its client is neither 401 nor 403. -/
theorem status_impersonal {error : ProxyError} (impersonal : Impersonal error) :
    error.status ≠ 401 ∧ error.status ≠ 403 := by
  obtain ⟨notAuthentication, notPermission⟩ := impersonal
  unfold ProxyError.status
  split <;> simp_all

/-- The errors of the limits are 429 and 503. -/
theorem status_limit {error : ProxyError}
    (isLimit : error ∈ [rateExceeded, concurrencyExceeded, globalExceeded]) :
    error.status = 429 ∨ error.status = 503 := by
  simp only [List.mem_cons, List.not_mem_nil, or_false] at isLimit
  rcases isLimit with rfl | rfl | rfl
  · exact .inl rfl
  · exact .inl rfl
  · exact .inr rfl

/-- The status of the answer to an outcome. -/
def outcomeStatus (outcome : Option (Except ProxyError ProxyResponse)) : Nat :=
  match outcome with
  | some (.ok response) => response.status
  | some (.error error) => error.status
  | none => 500

/-- An error keeps its status in the response. -/
theorem respond_status (outcome : Option (Except ProxyError ProxyResponse)) :
    (request.respond environment outcome).status = outcomeStatus outcome := by
  rcases outcome with _ | error | response
  · rfl
  · rfl
  · unfold ApiRequest.respond setRequestId outcomeStatus
    dsimp only
    split <;> rfl

/-- A request of a known client is not answered with 401, nor with 403 if it is read. -/
theorem access_read {view : CallView} {client : Nat} {read : Route × NormalizedRequest}
    {outcome : Option (Except ProxyError ProxyResponse)}
    (registered : AuthRegistry.new environment hashKey view.runtime.config.clients =
      .ok view.runtime.auth)
    (identified : Identified hashKey view.runtime view.request client)
    (isRead : view.read crates errors client = .ok read)
    (other : outcomeStatus outcome ≠ 401 ∧ outcomeStatus outcome ≠ 403) :
    AccessExact crates environment hashKey view.runtime view.request
      (view.request.respond environment outcome) where
  unauthenticated := by
    rw [respond_status]
    exact iff_of_false other.1 fun unknown =>
      not_identified_of_unknown registered unknown client identified
  forbidden isForbidden := by
    rw [respond_status] at isForbidden
    exact absurd isForbidden other.2
  barred isBarred := by
    have denied : view.read crates errors client = .error permissionDenied :=
      (barred_iff identified).mp isBarred
    cases denied.symm.trans isRead

/-- What comes of an attempt is no statement about the client. -/
theorem access_attempt {view : CallView} {contact : Contact}
    {outcome : Option (Except ProxyError ProxyResponse)}
    (registered : AuthRegistry.new environment hashKey view.runtime.config.clients =
      .ok view.runtime.auth)
    (attempts : ∀ contact, view.Made contact → AttemptsFor crates hashKey errors view.runtime
      contact.request contact.client contact.routed)
    (made : view.Made contact)
    (other : outcomeStatus outcome ≠ 401 ∧ outcomeStatus outcome ≠ 403) :
    AccessExact crates environment hashKey view.runtime view.request
      (view.request.respond environment outcome) := by
  obtain ⟨isMessages, identified, isRead⟩ := attempts contact made
  rw [made.2.1] at isMessages identified isRead
  have read : view.read crates errors contact.client =
      .ok (contact.routed.route, contact.routed.request) := by
    unfold CallView.read
    rw [isMessages]
    exact isRead
  exact access_read registered identified read other

/-- A refusal of a known client whose request is not read. -/
theorem access_refused {view : CallView} {client : Nat} {error : ProxyError}
    (registered : AuthRegistry.new environment hashKey view.runtime.config.clients =
      .ok view.runtime.auth)
    (identified : Identified hashKey view.runtime view.request client) (notUnknown : error.status ≠ 401)
    (forbidden : error.status = 403 → Barred crates hashKey view.runtime view.request)
    (isRefusal : error ∈ [permissionDenied, rateExceeded, concurrencyExceeded, globalExceeded]) :
    AccessExact crates environment hashKey view.runtime view.request
      (view.request.respond environment (some (.error error))) where
  unauthenticated := by
    rw [respond_status]
    exact iff_of_false notUnknown fun unknown =>
      not_identified_of_unknown registered unknown client identified
  forbidden isForbidden := by
    rw [respond_status] at isForbidden
    exact forbidden isForbidden
  barred _ := ⟨error, isRefusal, rfl⟩

/-- A refusal of a request whose client is not known, or whose version is not accepted. -/
theorem access_unidentified {view : CallView} {error : ProxyError}
    (registered : AuthRegistry.new environment hashKey view.runtime.config.clients =
      .ok view.runtime.auth)
    (refused : view.runtime.identify hashKey view.request.headers = .error error) :
    AccessExact crates environment hashKey view.runtime view.request
      (view.request.respond environment (some (.error error))) := by
  have notBarred : ¬ Barred crates hashKey view.runtime view.request := by
    rintro ⟨client, _, _, _, identified, _⟩
    rw [identified] at refused
    cases refused
  rcases identify_error registered refused with ⟨invalid, known⟩ | ⟨isKind, unknown⟩
  · have other := status_impersonal invalid.impersonal
    refine ⟨?_, fun isForbidden => ?_, fun isBarred => absurd isBarred notBarred⟩
    · rw [respond_status]
      exact iff_of_false other.1 known
    · rw [respond_status] at isForbidden
      exact absurd isForbidden other.2
  · have status : error.status = 401 := by
      unfold ProxyError.status
      rw [isKind]
    refine ⟨?_, fun isForbidden => ?_, fun isBarred => absurd isBarred notBarred⟩
    · rw [respond_status]
      exact iff_of_true status unknown
    · rw [respond_status] at isForbidden
      cases status.symm.trans isForbidden

/-- What explains an outcome explains the status of the response. -/
theorem explained_access {view : CallView} {outcome : Option (Except ProxyError ProxyResponse)}
    (registered : AuthRegistry.new environment hashKey view.runtime.config.clients =
      .ok view.runtime.auth)
    (attempts : ∀ contact, view.Made contact → AttemptsFor crates hashKey errors view.runtime
      contact.request contact.client contact.routed)
    (explained : Explained crates environment order hashKey errors view outcome) :
    AccessExact crates environment hashKey view.runtime view.request
      (view.request.respond environment outcome) := by
  have succeeds : (200 : Nat) ≠ 401 ∧ (200 : Nat) ≠ 403 := by decide
  have panics : (500 : Nat) ≠ 401 ∧ (500 : Nat) ≠ 403 := by decide
  cases explained with
  | unidentified refused => exact access_unidentified registered refused
  | limited identified isLimit =>
      have status := status_limit isLimit
      refine access_refused registered identified ?_ ?_ (List.mem_cons_of_mem _ isLimit)
      · rcases status with isStatus | isStatus <;> simp [isStatus]
      · rcases status with isStatus | isStatus <;> simp [isStatus]
  | @unread client error identified refused =>
      have isKind : InvalidOrDenied error := by
        unfold CallView.read at refused
        dsimp only at refused
        split at refused
        · exact readMessages_error _ error refused
        · exact readCount_error _ error refused
      rcases isKind with invalid | rfl
      · have other := status_impersonal invalid.impersonal
        refine ⟨?_, fun isForbidden => ?_, fun isBarred => ?_⟩
        · rw [respond_status]
          exact iff_of_false other.1 fun unknown =>
            not_identified_of_unknown registered unknown client identified
        · rw [respond_status] at isForbidden
          exact absurd isForbidden other.2
        · have denied : view.read crates errors client = .error permissionDenied :=
            (barred_iff identified).mp isBarred
          cases denied.symm.trans refused
          cases invalid
      · exact access_refused registered identified (by decide)
          (fun _ => (barred_iff identified).mpr refused) List.mem_cons_self
  | unserved identified gathers =>
      obtain ⟨route, normalized, draws, clock, circuits, after, outcome, isRead, gathered, same⟩ :=
        gathers
      subst same
      exact access_read registered identified isRead
        (status_impersonal (candidates_impersonal gathered))
  | @counted client candidate isCount identified gathers =>
      obtain ⟨route, normalized, draws, clock, circuits, after, outcome, isRead, gathered, same⟩ :=
        gathers
      refine access_read registered identified isRead ?_
      cases counted : candidate.provider.countTokens crates environment candidate.request with
      | error error =>
          exact status_impersonal (countTokens_invalid _ _ error counted).impersonal
      | ok tokens => exact succeeds
  | unestimated isMessages identified gathers uncounted =>
      obtain ⟨route, normalized, draws, clock, circuits, after, outcome, isRead, gathered, same⟩ :=
        gathers
      exact access_read registered identified isRead
        (status_impersonal (countTokens_invalid _ _ _ uncounted).impersonal)
  | lost made lost => exact access_attempt registered attempts made (status_impersonal
      (lost_impersonal lost))
  | message made whole replied isJson translated =>
      exact access_attempt registered attempts made succeeds
  | streamed made inParts replied => exact access_attempt registered attempts made succeeds
  | unlooked identified lookPanics =>
      obtain ⟨route, normalized, _, _, _, _, isRead, _⟩ := lookPanics
      exact access_read registered identified isRead panics
  | unreported made reportPanics => exact access_attempt registered attempts made panics

/-- However requests interleave and runtimes are put in place: a request is answered with 401 exactly if
its key is that of no client of its configuration, and with 403 only if its client may not use the
route; such a request is answered with 403 unless a limit is exceeded. -/
theorem access_exact {config : AppConfig} {runtime : Runtime}
    (built : Runtime.new crates environment hashKey config = some (.ok runtime))
    (moves : List ServiceMove) {answer : ApiAnswer}
    (isAnswer : answer ∈
      (Service.run crates environment order hashKey errors runtime moves).answers) :
    ∃ live, (Service.run crates environment order hashKey errors runtime moves).runtimes[
        answer.runtime]? = some live ∧
      AccessExact crates environment hashKey live.runtime answer.request answer.response := by
  have sources := (@sourceRules crates environment order hashKey errors).run built moves
  have holds := (@authorizationRules crates environment order hashKey errors).run built moves
  obtain ⟨live, isLive, outcome, isResponse, explained⟩ := sources.answers answer isAnswer
  obtain ⟨loaded, isLoaded⟩ := sources.runtimes live (List.mem_of_getElem? isLive)
  obtain ⟨sameConfig, _, registered, _⟩ := Runtime.new_eq_ok isLoaded
  rw [← sameConfig] at registered
  refine ⟨live, isLive, ?_⟩
  rw [isResponse]
  exact explained_access registered (fun contact made => (holds.made isLive made).1) explained

end Access

/-- A request that shows no key. -/
def keylessRequest : ApiRequest :=
  { officeRequest with
    headers := fun name => if name = "anthropic-version" then some "2023-06-01" else none }

/-- The one answer of the sample, whose client may use every route. -/
theorem access_exact_office :
    ∃ answer ∈ (officeService [.arrive keylessRequest, .advance 0 officeAround]).answers,
      ∃ live, (officeService [.arrive keylessRequest, .advance 0 officeAround]).runtimes[
          answer.runtime]? = some live ∧ answer.response.status = 401 ∧
        UnknownKey officeEnvironment (fun _ => []) live.runtime.config answer.request := by
  have answered : (officeService [.arrive keylessRequest, .advance 0 officeAround]).answers.map
      (·.response.status) = [401] := by decide +kernel
  obtain ⟨answer, isAnswers, status⟩ := List.map_eq_singleton_iff.mp answered
  have isAnswer : answer ∈
      (officeService [.arrive keylessRequest, .advance 0 officeAround]).answers :=
    isAnswers ▸ List.mem_singleton_self answer
  obtain ⟨live, isLive, exact⟩ := @access_exact officeCrates officeEnvironment officeOrder (fun _ => [])
    officeErrors officeConfig officeRuntime rfl
    [.arrive keylessRequest, .advance 0 officeAround] _ isAnswer
  exact ⟨answer, isAnswer, live, isLive, status, exact.unauthenticated.mp status⟩

end ClaudeProxy
