/-
Module: ClaudeProxy.Proofs.Authorization
Layer: Proofs
Purpose: For whom providers are contacted. In every run of the service, with any reloads, each attempt
  at a provider is made for a request whose key is that of a configured client, which may use the one
  route that its model matches, and it goes to a target of that route, all of it in the one validated
  configuration that the request loaded.
Trusted boundary: none
Main exports: Identified, AttemptsFor, OfRoute, CallPhase.Authorized, AuthorizedBy,
  contacts_authorized
-/
import ClaudeProxy.Proofs.ClientKeys
import ClaudeProxy.Proofs.Fallback
import ClaudeProxy.Proofs.ServiceSteps

namespace ClaudeProxy

open Library

section Authorization

variable {crates : Crates} {environment : Environment} {order : IterationOrder}
  {hashKey : String → Digest} {errors : JsonErrors}

/-! ### What a request has shown -/

variable (hashKey) in
/-- The request has shown its version and the key of a client. -/
def Identified (runtime : Runtime) (request : ApiRequest) (client : Nat) : Prop :=
  runtime.identify hashKey request.headers = .ok (client, runtime.auth[client]?.getD default)

/-- A request that is identified shows a key of its client. -/
theorem identified_of_ok {runtime : Runtime} {request : ApiRequest} {client : Nat}
    {identity : ClientIdentity}
    (identified : runtime.identify hashKey request.headers = .ok (client, identity)) :
    Identified hashKey runtime request client := by
  have isIdentity : identity = runtime.auth[client]?.getD default := by
    simp only [Runtime.identify, Except.bind_eq_ok] at identified
    obtain ⟨_, _, _, _, same⟩ := identified
    cases same
    rfl
  rw [isIdentity] at identified
  exact identified

/-- A request is taken for a client that is in the registry. -/
theorem registered_of_identified {runtime : Runtime} {request : ApiRequest} {client : Nat}
    (identified : Identified hashKey runtime request client) :
    ∃ identity, runtime.auth[client]? = some identity := by
  simp only [Identified, Runtime.identify, Except.bind_eq_ok] at identified
  obtain ⟨_, _, _, authenticated, same⟩ := identified
  cases same
  cases extracted : extractKey request.headers with
  | none => exact absurd authenticated (authenticate_missing extracted client)
  | some key =>
      obtain ⟨⟨identity, held, _⟩, _⟩ := (authenticate_iff extracted).mp authenticated
      exact ⟨identity, held⟩

variable (crates hashKey errors) in
/-- The request is one for messages, and its client may use the route it is routed to. -/
structure AttemptsFor (runtime : Runtime) (request : ApiRequest) (client : Nat)
    (routed : RoutedRequest) : Prop where
  endpoint : request.endpoint = .messages
  identified : Identified hashKey runtime request client
  read : runtime.readMessages crates errors (runtime.auth[client]?.getD default) request.body =
    .ok (routed.route, routed.request)

variable (crates) in
/-- A target of the route, with the request as its provider accepts it. -/
structure OfRoute (runtime : Runtime) (routed : RoutedRequest) (candidate : Candidate) : Prop where
  target : candidate.target ∈ routed.route.targets
  provider : runtime.router.providers.lookup candidate.target.provider = some candidate.provider
  adapted : adaptRequest crates candidate.provider.capabilities routed.request =
    .ok candidate.request

variable (crates hashKey errors) in
/-- What is known of a call in a phase. -/
def CallPhase.Authorized (runtime : Runtime) (request : ApiRequest) : CallPhase → Prop
  | .arrived => True
  | .timed client _ | .counted client | .permitted client => Identified hashKey runtime request client
  | .admitted client =>
      request.endpoint = .messages ∧ Identified hashKey runtime request client
  | .executing client routed left _ | .opening client routed _ left _ =>
      AttemptsFor crates hashKey errors runtime request client routed ∧
        ∀ candidate ∈ left, OfRoute crates runtime routed candidate
  | .reading client routed _ candidate _ =>
      AttemptsFor crates hashKey errors runtime request client routed ∧
        OfRoute crates runtime routed candidate

/-! ### One step -/

/-- Every candidate is a target of the route, with the request adapted to it. -/
theorem candidates_ofRoute {runtime : Runtime} {draws : Nat → Nat} {clock : Nat → Instant}
    {circuits after : Circuits} {routed : RoutedRequest} {candidates : List Candidate}
    (gathered : runtime.router.candidates crates draws clock circuits routed.route routed.request =
      (after, some (.ok candidates))) :
    ∀ candidate ∈ candidates, OfRoute crates runtime routed candidate := by
  intro candidate member
  obtain ⟨resolved, resolvedEq, isResolved, adapted⟩ := candidates_fromTarget gathered member
  obtain ⟨isTarget, isProvider⟩ := (mem_resolved resolvedEq).mp isResolved
  exact ⟨isTarget, isProvider, adapted⟩

/-- The loop begins with the candidates, as far as attempts are allowed. -/
theorem startAttempts_goesOn {maxAttempts client : Nat} {routed : RoutedRequest}
    {candidates : List Candidate} {next : CallPhase}
    (started : startAttempts crates environment maxAttempts client routed candidates =
      .goesOn next) :
    (∃ inputTokens, next = .opening client routed inputTokens (candidates.take maxAttempts) []) ∨
      next = .executing client routed (candidates.take maxAttempts) [] := by
  unfold startAttempts at started
  dsimp only at started
  split at started
  · split at started
    · cases started
    · cases started
      exact .inl ⟨_, rfl⟩
  · cases started
    exact .inr rfl

/-- A request that goes on after the look at its targets has candidates. -/
theorem gather_goesOn {around : Surroundings} {live after : LiveRuntime} {routed : RoutedRequest}
    {start : List Candidate → StepResult} {next : CallPhase}
    (gathered : live.gather crates around routed start = (.goesOn next, after)) :
    ∃ circuits candidates,
      live.runtime.router.candidates crates around.draws around.clock live.circuits routed.route
          routed.request = (circuits, some (.ok candidates)) ∧
        start candidates = .goesOn next := by
  unfold LiveRuntime.gather at gathered
  split at gathered
  · cases gathered
  · cases gathered
  · rename_i circuits candidates found
    obtain ⟨isNext, _⟩ := Prod.mk.inj gathered
    exact ⟨circuits, candidates, found, isNext⟩

/-- A loop that goes on after an error goes on as it was to. -/
theorem afterError_goesOn {returned : Option Unit} {error : ProxyError} {goesOn : Bool}
    {next phase : CallPhase} (result : afterError returned error goesOn next = .goesOn phase) :
    phase = next := by
  unfold afterError at result
  split at result
  · cases result
  · split at result
    · cases result
      rfl
    · cases result

theorem countFirst_ends (candidates : List Candidate) (next : CallPhase) :
    countFirst crates environment candidates ≠ .goesOn next := by
  unfold countFirst
  split <;> exact nofun

/-- One step keeps a request authorized. -/
theorem authorized_step {live after : LiveRuntime} {request : ApiRequest} {phase next : CallPhase}
    {clock : Instant} {around : Surroundings}
    (authorized : phase.Authorized crates hashKey errors live.runtime request)
    (stepped : phase.advance crates environment order hashKey errors request clock around live =
      (.goesOn next, after)) :
    next.Authorized crates hashKey errors live.runtime request := by
  cases phase with
  | arrived =>
      simp only [CallPhase.advance] at stepped
      split at stepped
      · cases stepped
      · rename_i client identity identified
        cases stepped
        have isIdentity : identity = live.runtime.auth[client]?.getD default := by
          simp only [Runtime.identify, Except.bind_eq_ok] at identified
          obtain ⟨_, _, _, _, same⟩ := identified
          cases same
          rfl
        rw [isIdentity] at identified
        exact identified
  | timed client now =>
      simp only [CallPhase.advance] at stepped
      split at stepped
      · cases stepped
      · cases stepped
        exact authorized
  | counted client =>
      simp only [CallPhase.advance] at stepped
      split at stepped
      · cases stepped
      · cases stepped
        exact authorized
  | permitted client =>
      simp only [CallPhase.advance] at stepped
      split at stepped
      · rename_i isMessages
        split at stepped
        · cases stepped
        · cases stepped
          exact ⟨isMessages, authorized⟩
      · split at stepped
        · cases stepped
        · obtain ⟨_, candidates, _, isNext⟩ := gather_goesOn stepped
          exact absurd isNext (countFirst_ends candidates next)
  | admitted client =>
      simp only [CallPhase.advance] at stepped
      split at stepped
      · cases stepped
      · rename_i route normalized read
        obtain ⟨circuits, candidates, gathered, isNext⟩ := gather_goesOn stepped
        have attempts : AttemptsFor crates hashKey errors live.runtime request client
            ⟨route, normalized⟩ := ⟨authorized.1, authorized.2, read⟩
        have each : ∀ candidate ∈ candidates.take live.runtime.router.maxAttempts,
            OfRoute crates live.runtime ⟨route, normalized⟩ candidate :=
          fun candidate member =>
            candidates_ofRoute gathered candidate (List.mem_of_mem_take member)
        rcases startAttempts_goesOn isNext with ⟨inputTokens, rfl⟩ | rfl
        · exact ⟨attempts, each⟩
        · exact ⟨attempts, each⟩
  | executing client routed left failures =>
      cases left with
      | nil => cases stepped
      | cons candidate rest =>
          simp only [CallPhase.advance] at stepped
          split at stepped
          · cases stepped
          · obtain ⟨isNext, _⟩ := Prod.mk.inj stepped
            rw [afterError_goesOn isNext]
            exact ⟨authorized.1, (List.forall_mem_cons.mp authorized.2).2⟩
  | opening client routed inputTokens left failures =>
      cases left with
      | nil => cases stepped
      | cons candidate rest =>
          simp only [CallPhase.advance] at stepped
          split at stepped
          · cases stepped
            exact ⟨authorized.1, authorized.2 candidate List.mem_cons_self⟩
          · obtain ⟨isNext, _⟩ := Prod.mk.inj stepped
            rw [afterError_goesOn isNext]
            exact ⟨authorized.1, (List.forall_mem_cons.mp authorized.2).2⟩
  | reading client routed inputTokens candidate events =>
      simp only [CallPhase.advance] at stepped
      cases stepped

/-- So it is with every request and every attempt of a run. -/
theorem authorizationRules :
    ServiceRules crates environment order hashKey errors
      (fun runtime => ∃ config, Runtime.new crates environment hashKey config = some (.ok runtime))
      (fun view phase => phase.Authorized crates hashKey errors view.runtime view.request)
      (fun runtime contact =>
        AttemptsFor crates hashKey errors runtime contact.request contact.client contact.routed ∧
          OfRoute crates runtime contact.routed contact.candidate)
      fun _ _ => True where
  built config _ isBuilt := ⟨config, isBuilt⟩
  arrived _ _ := trivial
  callGrows _ _ _ authorized := authorized
  outcomeGrows _ _ _ _ := trivial
  contacted view phase upstream contact _ authorized isContact := by
    unfold ApiCall.contact at isContact
    split at isContact
    · rename_i isPhase
      cases isContact
      cases isPhase
      exact ⟨authorized.1, authorized.2 _ List.mem_cons_self⟩
    · rename_i isPhase
      cases isContact
      cases isPhase
      exact ⟨authorized.1, authorized.2 _ List.mem_cons_self⟩
    · cases isContact
  stepped view live phase clock around result after _ authorized same stepped := by
    refine ⟨?_, fun _ _ => trivial⟩
    intro next isNext
    subst isNext
    rw [← same] at authorized
    have reached := authorized_step authorized stepped
    rwa [same] at reached

/-! ### In terms of the configuration -/

variable (environment hashKey) in
/-- The request shows the key of a configured client, which may use the route. -/
def OfClient (config : AppConfig) (request : ApiRequest) (client : Nat) (route : String) : Prop :=
  ∃ clientConfig key configured, config.clients[client]? = some clientConfig ∧
    extractKey request.headers = some key ∧
    clientConfig.key.resolve environment = .ok configured ∧ hashKey key = hashKey configured ∧
    (clientConfig.allowedRoutes = [] ∨ route ∈ clientConfig.allowedRoutes)

variable (crates environment hashKey) in
/-- The attempt is what a configuration provides for. -/
structure AuthorizedBy (config : AppConfig) (runtime : Runtime) (contact : Contact) : Prop where
  endpoint : contact.request.endpoint = .messages
  version : validateVersion config contact.request.headers = .ok ()
  client : OfClient environment hashKey config contact.request contact.client contact.routed.route.id
  /-- The body is a request, and this is its normal form. -/
  body : ∃ parsed, contact.request.body.bind AnthropicRequest.fromText = some parsed ∧
    normalize crates parsed config.server.looseInputValidation = .ok contact.routed.request
  /-- Of all routes only this one matches the model. -/
  route : runtime.router.routes.filter
      (fun route => route.isMatch contact.routed.request.originalModel) = [contact.routed.route]
  target : ∃ routeConfig ∈ config.routes,
    Route.compile environment routeConfig = .ok contact.routed.route ∧
      contact.candidate.target ∈ routeConfig.targets
  provider : ∃ providerConfig ∈ config.providers,
    providerConfig.id = contact.candidate.target.provider ∧
      Provider.new environment providerConfig config.limits = .ok contact.candidate.provider
  adapted : adaptRequest crates contact.candidate.provider.capabilities contact.routed.request =
    .ok contact.candidate.request

theorem Router.compiled_config {config : AppConfig} {router : Router}
    (built : Router.new environment config = .ok router) {route : Route}
    (isRoute : route ∈ router.routes) :
    ∃ routeConfig ∈ config.routes, Route.compile environment routeConfig = .ok route := by
  unfold Router.new at built
  simp only [Except.bind_eq_ok] at built
  obtain ⟨providers, providersEq, routes, routesEq, same⟩ := built
  cases same
  exact Except.exists_of_mem_right (Except.mapM_eq_ok.mp routesEq) isRoute

theorem Route.compile_targets {config : RouteConfig} {route : Route}
    (compiled : Route.compile environment config = .ok route) : route.targets = config.targets := by
  unfold Route.compile at compiled
  simp only [Except.bind_eq_ok] at compiled
  obtain ⟨_, _, _, _, same⟩ := compiled
  cases same
  rfl

/-- The client that a request is taken for is the configured one with its key. -/
theorem ofClient_of_identified {config : AppConfig} {runtime : Runtime}
    (registered : AuthRegistry.new environment hashKey config.clients = .ok runtime.auth)
    {request : ApiRequest} {client : Nat} {route : String}
    (authenticated : runtime.auth.authenticate hashKey request.headers = .ok client)
    (allowed : (runtime.auth[client]?.getD default).allowsRoute route = true) :
    OfClient environment hashKey config request client route := by
  cases extracted : extractKey request.headers with
  | none => exact absurd authenticated (authenticate_missing extracted client)
  | some key =>
      obtain ⟨⟨identity, held, sameHash⟩, _⟩ := (authenticate_iff extracted).mp authenticated
      have sameLength := (Except.mapM_eq_ok.mp registered).length_eq
      have bound := (List.getElem?_eq_some_iff.mp held).1
      have configured : config.clients[client]? = some config.clients[client] :=
        List.getElem?_eq_getElem (sameLength ▸ bound)
      obtain ⟨registeredAs, configuredKey, isRegistered, sameClient, resolved, hashed⟩ :=
        AuthRegistry.new_identity registered configured
      rw [held] at isRegistered allowed
      cases isRegistered
      refine ⟨_, key, configuredKey, configured, extracted, resolved, sameHash.symm.trans hashed, ?_⟩
      rw [← sameClient.allowedRoutes]
      simpa [ClientIdentity.allowsRoute] using allowed

/-- An attempt for an authorized request is one that the configuration allows. -/
theorem authorizedBy_of_attempt {config : AppConfig} {runtime : Runtime} {contact : Contact}
    (built : Runtime.new crates environment hashKey config = some (.ok runtime))
    (attempts : AttemptsFor crates hashKey errors runtime contact.request contact.client
      contact.routed)
    (ofRoute : OfRoute crates runtime contact.routed contact.candidate) :
    AuthorizedBy crates environment hashKey config runtime contact := by
  obtain ⟨sameConfig, _, registered, routerBuilt⟩ := Runtime.new_eq_ok built
  obtain ⟨endpoint, identified, read⟩ := attempts
  simp only [Identified, Runtime.identify, Except.bind_eq_ok] at identified
  obtain ⟨_, version, _, authenticated, same⟩ := identified
  cases same
  simp only [Runtime.readMessages, Runtime.routed, Except.bind_eq_ok, orReject_eq_ok,
    rejectIf_eq_ok] at read
  obtain ⟨parsed, isParsed, normalized, isNormal, route, resolved, _, allowed, same⟩ := read
  obtain ⟨sameRoute, sameRequest⟩ := Prod.mk.inj (Except.ok.inj same)
  subst sameRoute sameRequest
  rw [sameConfig] at version isNormal
  have onlyRoute : runtime.router.routes.filter
      (fun route => route.isMatch contact.routed.request.originalModel) = [contact.routed.route] := by
    unfold Router.resolve at resolved
    split at resolved
    · cases resolved
    · rename_i route matching
      cases resolved
      exact matching
    · cases resolved
  have isRoute : contact.routed.route ∈ runtime.router.routes := by
    have member : contact.routed.route ∈ [contact.routed.route] := List.mem_singleton_self _
    rw [← onlyRoute] at member
    exact (List.mem_filter.mp member).1
  obtain ⟨routeConfig, isConfig, compiled⟩ := Router.compiled_config routerBuilt isRoute
  constructor
  · exact endpoint
  · exact version
  · exact ofClient_of_identified registered authenticated (by simpa using allowed)
  · exact ⟨parsed, isParsed, isNormal⟩
  · exact onlyRoute
  · exact ⟨routeConfig, isConfig, compiled, Route.compile_targets compiled ▸ ofRoute.target⟩
  · exact lookup_built routerBuilt ofRoute.provider
  · exact ofRoute.adapted

/-- However the requests, their steps and the reloads interleave: every attempt at a provider is made
for a request that showed the key of a client of the configuration it loaded, and it is one that this
validated configuration provides for. -/
theorem contacts_authorized {config : AppConfig} {runtime : Runtime}
    (built : Runtime.new crates environment hashKey config = some (.ok runtime))
    (moves : List ServiceMove) {contact : Contact}
    (isContact : contact ∈
      (Service.run crates environment order hashKey errors runtime moves).contacts) :
    ∃ live loaded,
      (Service.run crates environment order hashKey errors runtime moves).runtimes[contact.runtime]? =
          some live ∧
        Runtime.new crates environment hashKey loaded = some (.ok live.runtime) ∧
        loaded.validate crates environment = .ok () ∧
        AuthorizedBy crates environment hashKey loaded live.runtime contact := by
  have holds := (@authorizationRules crates environment order hashKey errors).run built moves
  obtain ⟨live, isLive, attempts, ofRoute⟩ := holds.contacts contact isContact
  obtain ⟨loaded, isLoaded⟩ := holds.runtimes live (List.mem_of_getElem? isLive)
  exact ⟨live, loaded, isLive, isLoaded, (Runtime.new_eq_ok isLoaded).2.1,
    authorizedBy_of_attempt isLoaded attempts ofRoute⟩

end Authorization

/-- The sample has made one attempt, of its client on its route. -/
theorem contacts_authorized_office :
    ∃ contact ∈ (officeService officeMoves).contacts, ∃ live loaded,
      (officeService officeMoves).runtimes[contact.runtime]? = some live ∧
        Runtime.new officeCrates officeEnvironment (fun _ => []) loaded =
            some (.ok live.runtime) ∧
        loaded.validate officeCrates officeEnvironment = .ok () ∧
        AuthorizedBy officeCrates officeEnvironment (fun _ => []) loaded live.runtime contact := by
  have made : 0 < (officeService officeMoves).contacts.length := by decide +kernel
  have isContact := List.getElem_mem made
  exact ⟨_, isContact, @contacts_authorized officeCrates officeEnvironment officeOrder
    (fun _ => []) officeErrors officeConfig officeRuntime rfl officeMoves _ isContact⟩

end ClaudeProxy
