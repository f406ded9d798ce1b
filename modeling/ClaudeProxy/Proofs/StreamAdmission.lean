/-
Module: ClaudeProxy.Proofs.StreamAdmission
Layer: Proofs
Purpose: Which streams the router lets through. Before it calls anyone, `stream` estimates the tokens of
  its first candidate, which `execute` does not; the estimate can fail in one way, when the tokenizer
  that the provider's profile names does not load, and the validation does not look at that name.
Trusted boundary: none
Main exports: Routed.firstTarget, TokenizerLoads, Estimable, SameFirstTarget, sameFirstTarget_iff,
  streams_admitted
-/
import ClaudeProxy.Proofs.Adaptation
import ClaudeProxy.Proofs.Fallback

namespace ClaudeProxy

open Library

/-! ### The first target -/

/-- The first target that is sent a request; an attempt whose request cannot be made sends none. -/
def Routed.firstTarget {α : Type} (crates : Crates) (environment : Environment) (stream : Bool)
    (routed : Routed α) : Option Candidate :=
  routed.contacted.find? fun candidate => (candidate.posts crates environment stream).isOk

/-- The tokenizer of a profile is one of the two that the code knows, and loads. -/
def TokenizerLoads (environment : Environment) (tokenizer : String) : Prop :=
  ∃ encoded, loadTokenizer environment tokenizer = .ok encoded

section Posting

variable {crates : Crates} {environment : Environment}

theorem isOk_iff {ε α : Type} {made : Except ε α} : made.isOk = true ↔ ∃ value, made = .ok value := by
  cases made with
  | error error => simp [Except.isOk, Except.toBool]
  | ok value => simp [Except.isOk, Except.toBool]

/-- A request can be made if its messages can be translated and the secret is there. -/
theorem posts_isOk_iff (candidate : Candidate) (stream : Bool) :
    (candidate.posts crates environment stream).isOk = true ↔
      (∃ adapted, adaptRequest crates candidate.provider.capabilities candidate.request =
        .ok adapted ∧ ∃ messages, convertMessages crates adapted = .ok messages) ∧
      ∃ secret, candidate.provider.credential.secret.resolve environment = .ok secret := by
  rw [isOk_iff]
  constructor
  · rintro ⟨sent, posted⟩
    obtain ⟨body, prepared, made⟩ := Except.bind_eq_ok.mp posted
    obtain ⟨adapted, adaptedEq, translated⟩ := Except.bind_eq_ok.mp prepared
    obtain ⟨messages, messagesEq, -⟩ := Except.bind_eq_ok.mp translated
    obtain ⟨secret, secretEq, -⟩ := Except.bind_eq_ok.mp made
    exact ⟨⟨adapted, adaptedEq, messages, messagesEq⟩, secret, secretEq⟩
  · rintro ⟨⟨adapted, adaptedEq, messages, messagesEq⟩, secret, secretEq⟩
    have prepared : ∃ body, candidate.provider.prepare crates candidate.request
        candidate.target.model stream = .ok body :=
      ⟨_, Except.bind_eq_ok.mpr ⟨adapted, adaptedEq, Except.bind_eq_ok.mpr ⟨messages, messagesEq, rfl⟩⟩⟩
    obtain ⟨body, bodyEq⟩ := prepared
    have made : ∃ sent, candidate.provider.httpRequest environment body = .ok sent :=
      ⟨_, Except.bind_eq_ok.mpr ⟨secret, secretEq, rfl⟩⟩
    obtain ⟨sent, sentEq⟩ := made
    exact ⟨sent, Except.bind_eq_ok.mpr ⟨body, bodyEq, sentEq⟩⟩

/-- Whether the answer is to be streamed makes no difference. -/
theorem posts_isOk_stream (candidate : Candidate) (stream : Bool) :
    (candidate.posts crates environment stream).isOk =
      (candidate.posts crates environment false).isOk := by
  rw [Bool.eq_iff_iff, posts_isOk_iff, posts_isOk_iff]

/-- After a candidate whose request cannot be made nobody else is called, so the first target is the
first candidate or nobody. -/
theorem tryCandidates_firstTarget {α : Type} {call : Candidate → Upstream → Timed α}
    {settle : Candidate → Circuits → Option Unit × Circuits} {elapsed : ProxyError} {stream : Bool}
    (careful : ∀ candidate upstream error, call candidate upstream = some (.error error) →
      error.retryable = true → MayFallBack (candidate.posts crates environment stream) upstream)
    {maxAttempts : Nat} (attemptsPos : 0 < maxAttempts) (candidate : Candidate)
    (rest : List Candidate) (upstreams : Nat → Upstream) (circuits : Circuits) :
    (tryCandidates call settle elapsed (attemptsOf maxAttempts upstreams (candidate :: rest)) []
        circuits).firstTarget crates environment stream =
      if (candidate.posts crates environment stream).isOk = true then some candidate else none := by
  obtain ⟨left, rfl⟩ := Nat.exists_eq_succ_of_ne_zero (Nat.pos_iff_ne_zero.mp attemptsPos)
  have first : ∃ others, attemptsOf (left + 1) upstreams (candidate :: rest) =
      (candidate, upstreams 0) :: others := ⟨_, rfl⟩
  obtain ⟨others, attemptsEq⟩ := first
  obtain ⟨later, contacted, goesOn⟩ := @tryCandidates_contacted _ call settle elapsed
    candidate (upstreams 0) others [] circuits
  unfold Routed.firstTarget
  rw [attemptsEq, contacted, List.find?_cons]
  cases sends : (candidate.posts crates environment stream).isOk with
  | true => rfl
  | false =>
      have alone : later = [] := by
        by_contra more
        obtain ⟨error, failed, retryable⟩ := goesOn more
        obtain ⟨sent, posted, -⟩ := careful candidate (upstreams 0) error failed retryable
        rw [posted] at sends
        cases sends
      rw [alone]
      rfl

end Posting

/-! ### The estimate -/

section Admission

variable {crates : Crates} {environment : Environment} {order : IterationOrder} {router : Router}
  {draws : Nat → Nat} {clock : Nat → Instant} {upstreams : Nat → Upstream} {circuits : Circuits}
  {route : Route} {request : NormalizedRequest}

/-- A candidate's own estimate fails only for want of a tokenizer: its provider has accepted the request
before, and accepts again what it has made of it. -/
theorem estimateTokens_ok_iff {resolved : List (Provider × TargetConfig)} {candidate : Candidate}
    (rest : List Candidate) (fromTarget : FromTarget crates request resolved candidate) :
    (∃ tokens, estimateTokens crates environment (candidate :: rest) = .ok tokens) ↔
      TokenizerLoads environment candidate.provider.capabilities.tokenizer := by
  have again := adaptRequest_again fromTarget.2
  constructor
  · rintro ⟨tokens, estimated⟩
    obtain ⟨adapted, -, counted⟩ := Except.bind_eq_ok.mp estimated
    obtain ⟨encoded, loaded, -⟩ := Except.bind_eq_ok.mp counted
    exact ⟨encoded, loaded⟩
  · rintro ⟨encoded, loaded⟩
    refine ⟨_, Except.bind_eq_ok.mpr ⟨_, again, Except.bind_eq_ok.mpr ⟨encoded, loaded, rfl⟩⟩⟩

/-- The target that is put first names a tokenizer that loads, unless no request for it can be made
anyway. -/
def Estimable (crates : Crates) (environment : Environment) (router : Router) (draws : Nat → Nat)
    (clock : Nat → Instant) (circuits : Circuits) (route : Route) (request : NormalizedRequest) :
    Prop :=
  ∀ circuits' candidate rest,
    router.candidates crates draws clock circuits route request =
      (circuits', some (.ok (candidate :: rest))) →
    (candidate.posts crates environment false).isOk = true →
    TokenizerLoads environment candidate.provider.capabilities.tokenizer

/-- With the same draws at the same time, `stream` contacts the first target that `execute`
contacts. -/
def SameFirstTarget (crates : Crates) (environment : Environment) (order : IterationOrder)
    (router : Router) (draws : Nat → Nat) (clock : Nat → Instant) (upstreams : Nat → Upstream)
    (circuits : Circuits) (route : Route) (request : NormalizedRequest) : Prop :=
  (router.stream crates environment order draws clock upstreams circuits route request).firstTarget
      crates environment true =
    (router.execute crates environment draws clock upstreams circuits route request).firstTarget
      crates environment false

theorem estimable_of {circuits' : Circuits} {candidate : Candidate} {rest : List Candidate}
    (gathered : router.candidates crates draws clock circuits route request =
      (circuits', some (.ok (candidate :: rest)))) :
    Estimable crates environment router draws clock circuits route request ↔
      ((candidate.posts crates environment false).isOk = true →
        TokenizerLoads environment candidate.provider.capabilities.tokenizer) := by
  constructor
  · intro estimable
    exact estimable circuits' candidate rest gathered
  · intro loads circuits'' first others otherGathered
    rw [gathered] at otherGathered
    cases otherGathered
    exact loads

/-- Without candidates there is nothing to estimate. -/
theorem estimable_of_none
    (nobody : ∀ circuits' candidates,
      router.candidates crates draws clock circuits route request ≠
        (circuits', some (.ok candidates))) :
    Estimable crates environment router draws clock circuits route request :=
  fun circuits' candidate rest gathered => absurd gathered (nobody circuits' (candidate :: rest))

/-- One call of the router. -/
theorem sameFirstTarget_iff (attemptsPos : 0 < router.maxAttempts) :
    SameFirstTarget crates environment order router draws clock upstreams circuits route request ↔
      Estimable crates environment router draws clock circuits route request := by
  unfold SameFirstTarget
  rcases gathered : router.candidates crates draws clock circuits route request with
    ⟨circuits', _ | error | candidates⟩
  · rw [execute_broken gathered, stream_broken gathered]
    refine iff_of_true rfl (estimable_of_none fun _ _ => ?_)
    simp [gathered]
  · rw [execute_refused gathered, stream_refused gathered]
    refine iff_of_true rfl (estimable_of_none fun _ _ => ?_)
    simp [gathered]
  · obtain ⟨candidate, rest, rfl⟩ := List.exists_cons_of_ne_nil (candidates_ne_nil gathered)
    obtain ⟨resolved, -, fromTarget⟩ := candidates_fromTarget gathered List.mem_cons_self
    have loads_iff : (∃ tokens, estimateTokens crates environment (candidate :: rest) =
        .ok tokens) ↔ TokenizerLoads environment candidate.provider.capabilities.tokenizer :=
      estimateTokens_ok_iff rest fromTarget
    have executed := @tryCandidates_firstTarget crates environment _ _ Candidate.settle executeElapsed
      _ execute_careful _ attemptsPos candidate rest upstreams circuits'
    rw [estimable_of gathered, execute_called gathered, executeCandidates, executed]
    cases estimate : estimateTokens crates environment (candidate :: rest) with
    | error error =>
        have unloaded : ¬ TokenizerLoads environment
            candidate.provider.capabilities.tokenizer := by
          rw [← loads_iff, estimate]
          rintro ⟨tokens, impossible⟩
          cases impossible
        rw [stream_unestimated gathered estimate]
        cases sends : (candidate.posts crates environment false).isOk with
        | true => simp [unloaded, Routed.firstTarget, refused]
        | false => simp [Routed.firstTarget, refused]
    | ok tokens =>
        have loads := loads_iff.mp ⟨tokens, estimate⟩
        have streamed := @tryCandidates_firstTarget crates environment _ _
          (fun _ circuits => (some (), circuits)) streamElapsed _
          (@stream_careful crates environment order) _ attemptsPos candidate rest upstreams circuits'
        rw [stream_called gathered estimate]
        refine iff_of_true ?_ fun _ => loads
        rw [← posts_isOk_stream candidate true]
        exact streamed

end Admission

/-! ### The configuration -/

/-- A provider of the router is built from the configuration of its id. -/
theorem lookup_built {environment : Environment} {config : AppConfig} {router : Router}
    (built : Router.new environment config = .ok router) {id : String} {provider : Provider}
    (found : router.providers.lookup id = some provider) :
    ∃ source ∈ config.providers, source.id = id ∧
      Provider.new environment source config.limits = .ok provider := by
  unfold Router.new at built
  simp only [Except.bind_eq_ok] at built
  obtain ⟨providers, providersEq, routes, routesEq, same⟩ := built
  cases same
  obtain ⟨before, after, splits, -⟩ := List.lookup_eq_some_iff.mp found
  have member : (id, provider) ∈ providers := by
    have reversed : providers.reverse = before ++ (id, provider) :: after := splits
    rw [← List.mem_reverse, reversed]
    exact List.mem_append_right _ List.mem_cons_self
  obtain ⟨source, isSource, madeEq⟩ :=
    Except.exists_of_mem_right (Except.mapM_eq_ok.mp providersEq) member
  obtain ⟨made, newEq, same⟩ := Except.bind_eq_ok.mp madeEq
  cases same
  exact ⟨source, isSource, rfl, newEq⟩

theorem Provider.new_fields {environment : Environment} {config : ProviderConfig}
    {limits : LimitsConfig} {provider : Provider}
    (made : Provider.new environment config limits = .ok provider) :
    provider.id = config.id ∧ provider.credential = config.credential := by
  unfold Provider.new at made
  simp only [Except.bind_eq_ok] at made
  obtain ⟨_, _, _, _, same⟩ := made
  cases same
  exact ⟨rfl, rfl⟩

theorem ValidConfig.secret_resolves {crates : Crates} {environment : Environment}
    (valid : ValidConfig crates environment) {provider : ProviderConfig}
    (isProvider : provider ∈ valid.config.providers) :
    ∃ secret, provider.credential.secret.resolve environment = .ok secret := by
  obtain ⟨seen, next, checked⟩ := valid.checked.providers provider isProvider
  unfold checkProvider at checked
  simp only [Except.bind_eq_ok] at checked
  obtain ⟨_, _, _, _, secret, secretEq, _⟩ := checked
  exact ⟨secret, secretEq⟩

/-- A request without content fits every profile. -/
def blankRequest : NormalizedRequest where
  originalModel := ""
  maxTokens := 0
  messages := []
  temperature := none
  topP := none
  stopSequences := []
  tools := []
  toolChoice := none
  stream := false

/-- All circuits but that of one provider are open. -/
def onlyClosed (id : String) : Circuits := fun other =>
  { value := if other = id then {} else { openUntil := some 1 } }

section Blank

variable {crates : Crates}

theorem blankRequest_fits (capabilities : CapabilityProfile) : Fits capabilities blankRequest := by
  constructor <;> simp [blankRequest]

/-- A look at these circuits changes nothing. -/
theorem onlyClosed_available (id : String) (provider : Provider) :
    provider.available 0 (onlyClosed id) = (some (decide (provider.id = id)), onlyClosed id) := by
  rw [Provider.available_of_healthy rfl]
  have looked : ((onlyClosed id provider.id).value.available 0) =
      (decide (provider.id = id), (onlyClosed id provider.id).value) := by
    unfold onlyClosed
    by_cases same : provider.id = id <;> simp [same, CircuitState.available]
  rw [looked]
  exact congrArg _ (Function.update_eq_self provider.id (onlyClosed id))

/-- The candidate that a target becomes for the blank request. -/
def blankCandidate (crates : Crates) (entry : Provider × TargetConfig) : Candidate where
  provider := entry.1
  target := entry.2
  request := fittedRequest crates entry.1.capabilities blankRequest

/-- The target of the one provider becomes a candidate for the blank request, and no other does. -/
theorem add_blank {id : String} {gathering : Gathering} (running : gathering.panicked = false)
    (same : gathering.circuits = onlyClosed id) (entry : Provider × TargetConfig) :
    gathering.add crates blankRequest 0 entry =
      if entry.1.id = id then
        { gathering with compatible := gathering.compatible ++ [blankCandidate crates entry] }
      else gathering := by
  have accepted : adaptRequest crates entry.1.capabilities blankRequest =
      .ok (fittedRequest crates entry.1.capabilities blankRequest) :=
    adaptRequest_eq_ok.mpr ⟨blankRequest_fits _, rfl⟩
  unfold Gathering.add
  rw [if_neg (by simp [running]), accepted, same, onlyClosed_available]
  dsimp only
  by_cases here : entry.1.id = id
  · simp [here, ← same, blankCandidate]
  · simp [here, ← same]

theorem foldl_add_blank (id : String) (entries : List ((Provider × TargetConfig) × Nat))
    (gathering : Gathering) (running : gathering.panicked = false)
    (same : gathering.circuits = onlyClosed id) :
    let gathered := entries.foldl (fun (gathering : Gathering) entry =>
      gathering.add crates blankRequest 0 entry.1) gathering
    gathered.panicked = false ∧ gathered.compatible =
      gathering.compatible ++ ((entries.map Prod.fst).filter fun entry => entry.1.id = id).map
        (blankCandidate crates) := by
  induction entries generalizing gathering with
  | nil => simp [running]
  | cons entry rest inductionHypothesis =>
      dsimp only
      rw [List.foldl_cons, add_blank running same]
      by_cases here : entry.1.1.id = id
      · obtain ⟨stillRunning, later⟩ := inductionHypothesis
          { gathering with compatible := gathering.compatible ++ [blankCandidate crates entry.1] }
          running same
        rw [if_pos here]
        refine ⟨stillRunning, later.trans ?_⟩
        simp [here]
      · obtain ⟨stillRunning, later⟩ := inductionHypothesis gathering running same
        rw [if_neg here]
        refine ⟨stillRunning, later.trans ?_⟩
        simp [here]

/-- What is gathered for the blank request are the targets of that one provider. -/
theorem gatherFrom_blank (id : String) (resolved : List (Provider × TargetConfig)) :
    (gatherFrom crates (fun _ => 0) (onlyClosed id) blankRequest resolved).panicked = false ∧
      (gatherFrom crates (fun _ => 0) (onlyClosed id) blankRequest resolved).compatible =
        (resolved.filter fun entry => entry.1.id = id).map (blankCandidate crates) := by
  obtain ⟨running, compatible⟩ := @foldl_add_blank crates id resolved.zipIdx
    { circuits := onlyClosed id } rfl rfl
  refine ⟨running, compatible.trans ?_⟩
  rw [List.zipIdx_map_fst]
  rfl

end Blank

/-- Each target of a route comes with the provider that it names. -/
theorem mem_resolved {router : Router} {route : Route} {resolved : List (Provider × TargetConfig)}
    (resolvedEq : router.resolveTargets route = some resolved) {provider : Provider}
    {target : TargetConfig} :
    (provider, target) ∈ resolved ↔
      target ∈ route.targets ∧ router.providers.lookup target.provider = some provider := by
  have each := Except.mapM_eq_some.mp resolvedEq
  constructor
  · intro member
    obtain ⟨source, isTarget, found⟩ := Except.exists_of_mem_right each member
    obtain ⟨held, foundEq, same⟩ := Option.map_eq_some_iff.mp found
    cases same
    exact ⟨isTarget, foundEq⟩
  · rintro ⟨isTarget, foundEq⟩
    obtain ⟨entry, member, found⟩ := Except.exists_of_mem_left each isTarget
    rw [foundEq] at found
    cases found
    exact member

/-- Every target of a route names a provider whose tokenizer loads. -/
def TargetsLoad (environment : Environment) (router : Router) : Prop :=
  ∀ route ∈ router.routes, ∀ target ∈ route.targets, ∀ provider,
    router.providers.lookup target.provider = some provider →
    TokenizerLoads environment provider.capabilities.tokenizer

section Validated

variable {crates : Crates} {environment : Environment}

/-- The request for the blank request can be made. -/
theorem blankCandidate_posts (valid : ValidConfig crates environment) {router : Router}
    (built : Router.new environment valid.config = .ok router) {id : String} {provider : Provider}
    (found : router.providers.lookup id = some provider) (target : TargetConfig) (stream : Bool) :
    ((blankCandidate crates (provider, target)).posts crates environment stream).isOk = true := by
  obtain ⟨source, isSource, -, made⟩ := lookup_built built found
  obtain ⟨-, sameCredential⟩ := Provider.new_fields made
  obtain ⟨secret, resolves⟩ := valid.secret_resolves isSource
  have accepted : adaptRequest crates provider.capabilities blankRequest =
      .ok (fittedRequest crates provider.capabilities blankRequest) :=
    adaptRequest_eq_ok.mpr ⟨blankRequest_fits _, rfl⟩
  rw [posts_isOk_iff]
  constructor
  · exact ⟨_, adaptRequest_again accepted, [], rfl⟩
  · rw [← sameCredential] at resolves
    exact ⟨secret, resolves⟩

/-- With the other circuits open, the blank request goes to the one provider. -/
theorem loads_of_estimable_blank (valid : ValidConfig crates environment) {router : Router}
    (built : Router.new environment valid.config = .ok router) {route : Route}
    (isRoute : route ∈ router.routes) {target : TargetConfig} (isTarget : target ∈ route.targets)
    {provider : Provider} (found : router.providers.lookup target.provider = some provider)
    (estimable : Estimable crates environment router (fun _ => 0) (fun _ => 0)
      (onlyClosed target.provider) route blankRequest) :
    TokenizerLoads environment provider.capabilities.tokenizer := by
  obtain ⟨resolved, resolvedEq⟩ := resolveTargets_of_valid valid built isRoute
  have idOf : ∀ {id : String} {held : Provider}, router.providers.lookup id = some held →
      held.id = id := by
    intro id held foundHeld
    obtain ⟨source, -, sourceId, made⟩ := lookup_built built foundHeld
    exact (Provider.new_fields made).1.trans sourceId
  obtain ⟨running, compatible⟩ := @gatherFrom_blank crates target.provider resolved
  have present : (gatherFrom crates (fun _ => 0) (onlyClosed target.provider) blankRequest
      resolved).compatible ≠ [] := by
    rw [compatible]
    apply List.ne_nil_of_mem
    apply List.mem_map_of_mem
    apply List.mem_filter.mpr
    exact ⟨(mem_resolved resolvedEq).mpr ⟨isTarget, found⟩, by simp [idOf found]⟩
  have gathered := (@gatherCandidates_eq_ok crates (fun _ => 0) (fun _ => 0)
    (onlyClosed target.provider) _ blankRequest resolved _).mpr ⟨rfl, running, present, rfl⟩
  obtain ⟨candidate, rest, ordered⟩ :=
    List.exists_cons_of_ne_nil (gatherCandidates_ne_nil gathered)
  have first : candidate ∈ (resolved.filter fun entry => entry.1.id = target.provider).map
      (blankCandidate crates) := by
    rw [← compatible, ← (weightedPriorityOrder_perm (fun _ => 0) _).mem_iff, ordered]
    exact List.mem_cons_self
  obtain ⟨⟨held, heldTarget⟩, isHeld, rfl⟩ := List.mem_map.mp first
  obtain ⟨isResolved, sameId⟩ := List.mem_filter.mp isHeld
  obtain ⟨-, foundHeld⟩ := (mem_resolved resolvedEq).mp isResolved
  have sameProvider : held = provider := by
    have sameKey : heldTarget.provider = target.provider :=
      (idOf foundHeld).symm.trans (of_decide_eq_true sameId)
    rw [sameKey, found] at foundHeld
    exact (Option.some.inj foundHeld).symm
  subst sameProvider
  rw [ordered] at gathered
  rw [← candidates_of_resolved resolvedEq] at gathered
  apply estimable _ _ _ gathered
  exact blankCandidate_posts valid built foundHeld heldTarget false

/-- Streaming is admitted exactly when non-streaming is, in a call, if the target that comes first
names a tokenizer that loads; and in every call, if every target does. -/
theorem streams_admitted (order : IterationOrder) (valid : ValidConfig crates environment)
    {router : Router} (built : Router.new environment valid.config = .ok router) :
    (∀ route ∈ router.routes, ∀ draws clock upstreams circuits request,
      SameFirstTarget crates environment order router draws clock upstreams circuits route request ↔
        Estimable crates environment router draws clock circuits route request) ∧
    ((∀ route ∈ router.routes, ∀ draws clock upstreams circuits request,
      SameFirstTarget crates environment order router draws clock upstreams circuits route
        request) ↔ TargetsLoad environment router) := by
  have each : ∀ route ∈ router.routes, ∀ draws clock upstreams circuits request,
      SameFirstTarget crates environment order router draws clock upstreams circuits route request ↔
        Estimable crates environment router draws clock circuits route request := by
    intro _ _ draws clock upstreams circuits request
    exact sameFirstTarget_iff (maxAttempts_of_valid valid built)
  refine ⟨each, ?_, ?_⟩
  · intro all route isRoute target isTarget provider found
    have admitted := all route isRoute (fun _ => 0) (fun _ => 0)
      (fun _ => { reply := fun _ => none, finishedAt := 0 }) (onlyClosed target.provider) blankRequest
    exact loads_of_estimable_blank valid built isRoute isTarget found
      ((each route isRoute _ _ _ _ _).mp admitted)
  · intro loads route isRoute draws clock upstreams circuits request
    rw [each route isRoute]
    intro circuits' candidate rest gathered _
    obtain ⟨resolved, resolvedEq, fromTarget⟩ := candidates_fromTarget gathered List.mem_cons_self
    obtain ⟨isTarget, found⟩ := (mem_resolved resolvedEq).mp fromTarget.1
    exact loads route isRoute candidate.target isTarget candidate.provider found

end Validated

/-! ### A tokenizer that nobody looked at -/

/-- The profile of the office's provider names a tokenizer that the code does not know. -/
def mistypedConfig : AppConfig :=
  { officeConfig with
    providers := [
      { id := "p", kind := .openaiChat, endpoint := "https://p", credential := .bearer (.env "KEY")
        capabilityProfile := { tokenizer := "p50k_base" } }] }

def mistypedRouter : Router :=
  { officeRouter with
    providers := [("p", { officeProvider with capabilities := { tokenizer := "p50k_base" } })] }

theorem office_targetsLoad : TargetsLoad officeEnvironment officeRouter := by
  intro route isRoute target isTarget provider found
  cases List.mem_singleton.mp isRoute
  cases List.mem_singleton.mp isTarget
  cases found
  exact ⟨String.length, rfl⟩

/-- The tokenizer of the sample's provider loads, and so its streams reach the first target. -/
theorem streams_admitted_office :
    SameFirstTarget officeCrates officeEnvironment ⟨id, fun _ => .rfl⟩ officeRouter (fun _ => 0)
      (fun _ => 0) officeUpstreams (.fresh {})
      { id := "r", isMatch := fun _ => true, targets := [{ provider := "p", model := "m" }] }
      officeCandidate.request := by
  have admitted := @streams_admitted officeCrates officeEnvironment ⟨id, fun _ => .rfl⟩
    ⟨officeConfig, rfl⟩ officeRouter rfl
  exact admitted.2.mpr office_targetsLoad _ List.mem_cons_self _ _ _ _ _

def officeRoute : Route where
  id := "r"
  isMatch := fun _ => true
  targets := [{ provider := "p", model := "m" }]

def officeGreeting : NormalizedRequest :=
  { officeCandidate.request with messages := [⟨.user, [.text "hello"]⟩] }

/-- The configuration is valid and the router is built. Without streaming the greeting is sent to the
provider; with streaming nobody is called, and the client gets an error. -/
theorem streams_unadmitted :
    mistypedConfig.validate officeCrates officeEnvironment = .ok () ∧
      Router.new officeEnvironment mistypedConfig = .ok mistypedRouter ∧
      officeRoute ∈ mistypedRouter.routes ∧
      let executed := mistypedRouter.execute officeCrates officeEnvironment (fun _ => 0)
        (fun _ => 0) officeUpstreams (.fresh {}) officeRoute officeGreeting
      let streamed := mistypedRouter.stream officeCrates officeEnvironment ⟨id, fun _ => .rfl⟩
        (fun _ => 0) (fun _ => 0) officeUpstreams (.fresh {}) officeRoute officeGreeting
      (executed.firstTarget officeCrates officeEnvironment false).isSome = true ∧
        streamed.contacted = [] ∧ streamed.result.map Except.isOk = some false := by
  refine ⟨rfl, rfl, List.mem_cons_self, ?_, ?_, ?_⟩
  · decide +kernel
  · rw [← List.isEmpty_iff]
    decide +kernel
  · decide +kernel

end ClaudeProxy
