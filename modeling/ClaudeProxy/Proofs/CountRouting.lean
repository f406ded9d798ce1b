/-
Module: ClaudeProxy.Proofs.CountRouting
Layer: Proofs
Purpose: Counting follows routing. A body that `messages` brings to its candidates is counted by
  `count_tokens`, which reads it as a value first and replaces two fields: nothing that decides the
  route, the targets or the count depends on the two. The first reading is the stricter one, though:
  what `messages` skips unread in a message, `count_tokens` must be able to read. And a count suits more
  targets, so that it may look at a circuit which the message does not, and panic if its lock is
  poisoned.
Trusted boundary: none
Main exports: SameCounts, NormalizedRequest.recount, candidates_recount, counting_follows_routing
-/
import ClaudeProxy.Proofs.Adaptation
import ClaudeProxy.Proofs.Deserialization
import ClaudeProxy.Proofs.Reload
import ClaudeProxy.Proofs.StreamAdmission
import ClaudeProxy.Server.Endpoints

namespace ClaudeProxy

open Library

/-! ### The two fields -/

/-- The request that is counted. -/
def NormalizedRequest.recount (request : NormalizedRequest) : NormalizedRequest :=
  { request with maxTokens := 1, stream := false }

section Recount

variable {crates : Crates} {environment : Environment} {request : AnthropicRequest}
  {normalized : NormalizedRequest} {loose : Bool}

theorem checkFields_recount {strict : Bool} (accepted : checkFields request strict = .ok ()) :
    0 < request.maxTokens ∧
      checkFields { request with maxTokens := 1, stream := false } strict = .ok () := by
  unfold checkFields at accepted ⊢
  simp only [Except.bind_eq_ok, rejectIf_eq_ok] at accepted ⊢
  obtain ⟨_, model, _, messages, _, tooMany, _, tools, _, stop, _, maxTokens, _, unknown, rest⟩ :=
    accepted
  refine ⟨Nat.pos_of_ne_zero maxTokens, ?_⟩
  exact ⟨(), model, (), messages, (), tooMany, (), tools, (), stop, (), Nat.one_ne_zero, (), unknown,
    rest⟩

/-- What is accepted asks for at least one token, and is accepted with one. -/
theorem normalize_recount (accepted : normalize crates request loose = .ok normalized) :
    0 < normalized.maxTokens ∧
      normalize crates { request with maxTokens := 1, stream := false } loose =
        .ok normalized.recount := by
  unfold normalize at accepted
  simp only [Except.bind_eq_ok] at accepted
  obtain ⟨_, fields, system, systemEq, turns, turnsEq, history, historyEq, names, namesEq, choice,
    choiceEq, _, choiceFits, same⟩ := accepted
  cases same
  obtain ⟨positive, fieldsRecount⟩ := checkFields_recount fields
  refine ⟨positive, ?_⟩
  unfold normalize
  simp only [Except.bind_eq_ok]
  exact ⟨(), fieldsRecount, system, systemEq, turns, turnsEq, history, historyEq, names, namesEq,
    choice, choiceEq, (), choiceFits, rfl⟩

theorem Fits.recount {capabilities : CapabilityProfile} (fits : Fits capabilities normalized)
    (positive : 0 < normalized.maxTokens) : Fits capabilities normalized.recount := by
  constructor
  · intro above
    apply fits.maxTokens
    have noTokens : capabilities.maxOutputTokens < 1 := above
    omega
  · exact fits.temperature
  · exact fits.topP
  · exact fits.stop
  · exact fits.tools
  · exact fits.toolChoice
  · exact fits.blocks

theorem recount_acceptedWith (positive : 0 < normalized.maxTokens) :
    AcceptedWith crates normalized normalized.recount := by
  intro capabilities adapted accepted
  obtain ⟨fits, -⟩ := adaptRequest_eq_ok.mp accepted
  exact ⟨_, adaptRequest_eq_ok.mpr ⟨fits.recount positive, rfl⟩⟩

/-- A provider counts what it has adapted as it stands. -/
theorem countTokens_adapted {provider : Provider} {adapted : NormalizedRequest}
    (accepted : adaptRequest crates provider.capabilities normalized = .ok adapted) :
    provider.countTokens crates environment adapted =
      ClaudeProxy.countTokens crates environment adapted provider.capabilities.tokenizer := by
  unfold Provider.countTokens
  rw [adaptRequest_again accepted]
  rfl

/-- The count of a request does not depend on the two fields. -/
theorem countTokens_recount {provider : Provider} {adapted recounted : NormalizedRequest}
    (accepted : adaptRequest crates provider.capabilities normalized = .ok adapted)
    (acceptedRecount : adaptRequest crates provider.capabilities normalized.recount =
      .ok recounted) :
    provider.countTokens crates environment recounted =
      provider.countTokens crates environment adapted := by
  rw [countTokens_adapted accepted, countTokens_adapted acceptedRecount]
  obtain ⟨-, rfl⟩ := adaptRequest_eq_ok.mp accepted
  obtain ⟨-, rfl⟩ := adaptRequest_eq_ok.mp acceptedRecount
  rfl

end Recount

/-! ### The two bodies -/

section Routed

variable {crates : Crates} {environment : Environment} {errors : JsonErrors} {runtime : Runtime}
  {identity : ClientIdentity} {route : Route}

theorem routed_recount {request : AnthropicRequest} {normalized : NormalizedRequest}
    (accepted : runtime.routed crates identity request = .ok (route, normalized)) :
    0 < normalized.maxTokens ∧
      runtime.routed crates identity { request with maxTokens := 1, stream := false } =
        .ok (route, normalized.recount) := by
  unfold Runtime.routed at accepted ⊢
  simp only [Except.bind_eq_ok] at accepted ⊢
  obtain ⟨_, normalizedEq, _, resolvedEq, _, allowed, same⟩ := accepted
  cases same
  obtain ⟨positive, recounted⟩ := normalize_recount normalizedEq
  exact ⟨positive, normalized.recount, recounted, route, resolvedEq, (), allowed, rfl⟩

/-- A body that takes a route as a message, and is readable as a value, takes it when it is counted. -/
theorem readCount_of_readMessages {text : JsonText} {request : NormalizedRequest} {value : Value}
    (readable : readValue textDepth text = some value)
    (accepted : runtime.readMessages crates errors identity (some text) = .ok (route, request)) :
    0 < request.maxTokens ∧
      runtime.readCount crates errors identity (some text) = .ok (route, request.recount) := by
  obtain ⟨source, sourceEq, routedEq⟩ := Except.bind_eq_ok.mp accepted
  have fromText : AnthropicRequest.fromText text = some source := orReject_eq_ok.mp sourceEq
  obtain ⟨entries, rfl, rewritten⟩ := fromValue_rewritten fromText readable
  obtain ⟨positive, recounted⟩ := routed_recount routedEq
  refine ⟨positive, ?_⟩
  unfold Runtime.readCount
  simp only [Except.bind_eq_ok, orReject_eq_ok]
  exact ⟨_, readable, entries, rfl, _, rewritten, recounted⟩

end Routed

/-! ### The candidates -/

/-- For a target that is a candidate in both lists the two counts are equal. -/
def SameCounts (crates : Crates) (environment : Environment) (first second : List Candidate) :
    Prop :=
  ∀ candidate ∈ first, ∀ other ∈ second, other.provider = candidate.provider →
    other.target = candidate.target →
      other.provider.countTokens crates environment other.request =
        candidate.provider.countTokens crates environment candidate.request

section Router

variable {crates : Crates} {environment : Environment} {config : AppConfig} {router : Router}
  {route : Route} {request : NormalizedRequest} {clock : Nat → Instant} {circuits : Circuits}

/-- A provider is known by its id. -/
theorem resolved_sameProvider (built : Router.new environment config = .ok router)
    {resolved : List (Provider × TargetConfig)}
    (resolvedEq : router.resolveTargets route = some resolved) :
    ∀ entry ∈ resolved, ∀ other ∈ resolved, entry.1.id = other.1.id → entry.1 = other.1 := by
  have idOf : ∀ entry ∈ resolved, entry.1.id = entry.2.provider ∧
      router.providers.lookup entry.2.provider = some entry.1 := by
    intro entry isEntry
    obtain ⟨-, found⟩ := (mem_resolved resolvedEq).mp isEntry
    obtain ⟨source, -, sourceId, made⟩ := lookup_built built found
    exact ⟨(Provider.new_fields made).1.trans sourceId, found⟩
  intro entry isEntry other isOther sameId
  obtain ⟨entryId, entryFound⟩ := idOf entry isEntry
  obtain ⟨otherId, otherFound⟩ := idOf other isOther
  rw [← entryId, sameId, otherId, otherFound] at entryFound
  exact (Option.some.inj entryFound).symm

/-- Every target that is a candidate for a request is one when the request is counted, and has the
same count then. -/
theorem candidates_recount (built : Router.new environment config = .ok router)
    (healthy : circuits.Healthy) (positive : 0 < request.maxTokens) {draws : Nat → Nat} {circuits' : Circuits}
    {candidates : List Candidate}
    (gathered : router.candidates crates draws clock circuits route request =
      (circuits', some (.ok candidates))) (draws' : Nat → Nat) :
    ∃ circuits'' counted,
      router.candidates crates draws' clock circuits route request.recount =
        (circuits'', some (.ok counted)) ∧
      Covers candidates counted ∧ SameCounts crates environment candidates counted := by
  obtain ⟨resolved, resolvedEq, gatheredEq⟩ := gathered_of_candidates gathered
  obtain ⟨-, -, present, rfl⟩ := gatherCandidates_eq_ok.mp gatheredEq
  have covers : Covers (gatherFrom crates clock circuits request resolved).compatible
      (gatherFrom crates clock circuits request.recount resolved).compatible :=
    gatherFrom_covers healthy (recount_acceptedWith positive) (resolved_sameProvider built resolvedEq)
  have presentRecount :
      (gatherFrom crates clock circuits request.recount resolved).compatible ≠ [] := by
    obtain ⟨candidate, rest, some⟩ := List.exists_cons_of_ne_nil present
    obtain ⟨other, isOther, -⟩ := covers candidate (some ▸ List.mem_cons_self)
    exact List.ne_nil_of_mem isOther
  have gatheredRecount := (@gatherCandidates_eq_ok crates draws' clock circuits _ request.recount
    resolved _).mpr ⟨rfl, (gatherFrom_healthy healthy).1, presentRecount, rfl⟩
  refine ⟨_, _, (candidates_of_resolved resolvedEq).trans gatheredRecount, ?_, ?_⟩
  · intro candidate isCandidate
    obtain ⟨other, isOther, same⟩ :=
      covers candidate ((weightedPriorityOrder_perm draws _).mem_iff.mp isCandidate)
    exact ⟨other, (weightedPriorityOrder_perm draws' _).mem_iff.mpr isOther, same⟩
  · intro candidate isCandidate other isOther sameProvider _
    have accepted := (gatherCandidates_fromTarget gatheredEq isCandidate).2
    have acceptedRecount := (gatherCandidates_fromTarget gatheredRecount isOther).2
    rw [sameProvider] at acceptedRecount ⊢
    exact countTokens_recount accepted acceptedRecount

/-- Where every tokenizer loads, the first candidate is counted. -/
theorem countTokens_of_candidates (loads : TargetsLoad environment router)
    (isRoute : route ∈ router.routes) {draws : Nat → Nat} {circuits' : Circuits}
    {candidates : List Candidate}
    (gathered : router.candidates crates draws clock circuits route request =
      (circuits', some (.ok candidates))) :
    ∃ tokens, router.countTokens crates environment draws clock circuits route request =
      (circuits', some (.ok tokens)) := by
  obtain ⟨candidate, rest, rfl⟩ := List.exists_cons_of_ne_nil (candidates_ne_nil gathered)
  obtain ⟨resolved, resolvedEq, fromTarget⟩ := candidates_fromTarget gathered List.mem_cons_self
  obtain ⟨isTarget, found⟩ := (mem_resolved resolvedEq).mp fromTarget.1
  obtain ⟨tokens, counted⟩ :=
    (estimateTokens_ok_iff rest fromTarget).mpr (loads route isRoute _ isTarget _ found)
  refine ⟨tokens, ?_⟩
  unfold Router.countTokens
  rw [gathered]
  exact congrArg (fun count => (circuits', some count)) counted

end Router

/-! ### The endpoints -/

section Endpoints

variable {crates : Crates} {environment : Environment} {hashKey : String → Digest}
  {errors : JsonErrors} {runtime : Runtime} {draws : Nat → Nat} {clock : Nat → Instant}
  {now : Instant} {limits : Limits} {circuits : Circuits} {headers : HeaderMap}
  {body : Option JsonText}

/-- Who is admitted as a message gets a permit of its own. -/
theorem acquire_of_admission {identity : ClientIdentity} {client : Nat}
    (admitted : (limits.admission identity client now).1 = .ok ()) :
    (identity.acquire now (limits.clients client)).1 = .ok () := by
  unfold Limits.admission at admitted
  split at admitted
  · cases admitted
  · rename_i _ after acquired
    rw [acquired]

/-- What a message that comes to its candidates has passed. -/
theorem messages_accepted {served : Served (List Candidate)} {candidates : List Candidate}
    (servedEq : runtime.messages crates hashKey errors draws clock now limits circuits headers body =
      some served) (accepted : served.result = .ok candidates) :
    ∃ client identity route request circuits',
      runtime.identify hashKey headers = .ok (client, identity) ∧
      (limits.admission identity client now).1 = .ok () ∧
      runtime.readMessages crates errors identity body = .ok (route, request) ∧
      runtime.router.candidates crates draws clock circuits route request =
        (circuits', some (.ok candidates)) := by
  unfold Runtime.messages at servedEq
  split at servedEq
  · cases servedEq
    cases accepted
  · rename_i client identity identified
    split at servedEq
    · cases servedEq
      cases accepted
    · rename_i after admitted
      dsimp only at servedEq
      split at servedEq
      · cases servedEq
        cases accepted
      · rename_i route request readEq
        split at servedEq
        · cases servedEq
        · rename_i circuits' outcome gathered
          cases servedEq
          obtain rfl : outcome = .ok candidates := accepted
          refine ⟨client, identity, route, request, circuits', identified, ?_, readEq, gathered⟩
          rw [admitted]

theorem countTokens_served {client : Nat} {identity : ClientIdentity} {route : Route}
    {request : NormalizedRequest} {circuits' : Circuits} {tokens : Nat}
    (identified : runtime.identify hashKey headers = .ok (client, identity))
    (acquired : (identity.acquire now (limits.clients client)).1 = .ok ())
    (readEq : runtime.readCount crates errors identity body = .ok (route, request))
    (counted : runtime.router.countTokens crates environment draws clock circuits route request =
      (circuits', some (.ok tokens))) :
    ∃ served, runtime.countTokens crates environment hashKey errors draws clock now limits circuits
      headers body = some served ∧ served.result = .ok (.obj [("input_tokens", .num tokens)]) := by
  unfold Runtime.countTokens
  rw [identified]
  dsimp only
  cases acquiredEq : identity.acquire now (limits.clients client) with
  | mk outcome after =>
      rw [acquiredEq] at acquired
      cases acquired
      dsimp only
      rw [readEq]
      dsimp only
      rw [counted]
      exact ⟨_, rfl, rfl⟩

theorem resolve_isRoute {router : Router} {request : NormalizedRequest} {route : Route}
    (resolved : router.resolve request = .ok route) : route ∈ router.routes := by
  unfold Router.resolve at resolved
  split at resolved
  · cases resolved
  · rename_i only
    cases resolved
    exact List.mem_of_mem_filter (only ▸ List.mem_cons_self)
  · cases resolved

/-- A body that is accepted as a message up to its candidates, and is readable as a value, is
counted: in the same state, whose locks are healthy, every target that is a candidate for the message
is one for the count, and for each of those the two counts are equal. -/
theorem counting_follows_routing {config : AppConfig}
    (built : Runtime.new crates environment hashKey config = some (.ok runtime))
    (loads : TargetsLoad environment runtime.router) (healthy : circuits.Healthy)
    {text : JsonText} {value : Value}
    (readable : readValue textDepth text = some value) {served : Served (List Candidate)}
    (servedEq : runtime.messages crates hashKey errors draws clock now limits circuits headers
      (some text) = some served)
    {candidates : List Candidate} (accepted : served.result = .ok candidates)
    (draws' : Nat → Nat) :
    (∃ counted tokens, runtime.countTokens crates environment hashKey errors draws' clock now limits
      circuits headers (some text) = some counted ∧
      counted.result = .ok (.obj [("input_tokens", .num tokens)])) ∧
    ∃ client identity route request circuits' counted,
      runtime.identify hashKey headers = .ok (client, identity) ∧
      runtime.readMessages crates errors identity (some text) = .ok (route, request) ∧
      runtime.readCount crates errors identity (some text) = .ok (route, request.recount) ∧
      runtime.router.candidates crates draws' clock circuits route request.recount =
        (circuits', some (.ok counted)) ∧
      Covers candidates counted ∧ SameCounts crates environment candidates counted := by
  obtain ⟨-, -, -, routerBuilt⟩ := Runtime.new_eq_ok built
  obtain ⟨client, identity, route, request, circuits', identified, admitted, readEq, gathered⟩ :=
    messages_accepted servedEq accepted
  obtain ⟨positive, recounted⟩ := readCount_of_readMessages readable readEq
  have isRoute : route ∈ runtime.router.routes := by
    obtain ⟨source, -, routedEq⟩ := Except.bind_eq_ok.mp readEq
    unfold Runtime.routed at routedEq
    simp only [Except.bind_eq_ok] at routedEq
    obtain ⟨_, _, _, resolvedEq, _, _, same⟩ := routedEq
    cases same
    exact resolve_isRoute resolvedEq
  obtain ⟨circuits'', counted, countedEq, covers, sameCounts⟩ :=
    @candidates_recount crates environment config runtime.router route request clock circuits
      routerBuilt healthy positive draws circuits' candidates gathered draws'
  obtain ⟨tokens, tokensEq⟩ := countTokens_of_candidates loads isRoute countedEq
  obtain ⟨answer, answerEq, answered⟩ :=
    countTokens_served identified (acquire_of_admission admitted) recounted tokensEq
  exact ⟨⟨answer, tokens, answerEq, answered⟩, client, identity, route, request, circuits'', counted,
    identified, readEq, recounted, countedEq, covers, sameCounts⟩

end Endpoints

/-! ### A field that nobody asked for -/

def officeHeaders : HeaderMap := fun name =>
  if name = "anthropic-version" then some "2023-06-01"
  else if name = "x-api-key" then some "a secret of thirty-two characters"
  else none

def officeErrors : JsonErrors where
  body _ := "invalid JSON"
  value _ := "invalid request"

/-- A greeting, with more fields in its message. -/
def officeText (more : List (Option String × JsonText)) : JsonText :=
  .object [
    (some "model", .string (some "m")),
    (some "max_tokens", .number (some (.posInt 16))),
    (some "messages", .array [.object ([
      (some "role", .string (some "user")),
      (some "content", .string (some "hello"))] ++ more)])]

def officeMessages (text : JsonText) : Option (Served (List Candidate)) :=
  officeRuntime.messages officeCrates (fun _ => []) officeErrors (fun _ => 0) (fun _ => 0) 0
    officeRuntime.limits (.fresh {}) officeHeaders (some text)

def officeCount (text : JsonText) : Option (Served Value) :=
  officeRuntime.countTokens officeCrates officeEnvironment (fun _ => []) officeErrors (fun _ => 0)
    (fun _ => 0) 0 officeRuntime.limits (.fresh {}) officeHeaders (some text)

/-- The greeting is counted. -/
theorem counting_follows_routing_office :
    ∃ counted tokens, officeCount (officeText []) = some counted ∧
      counted.result = .ok (.obj [("input_tokens", .num tokens)]) := by
  have servedEq : ∃ served, officeMessages (officeText []) = some served ∧
      served.result.isOk = true := ⟨_, rfl, by decide +kernel⟩
  obtain ⟨served, servedEq, isOk⟩ := servedEq
  obtain ⟨candidates, accepted⟩ := isOk_iff.mp isOk
  exact (@counting_follows_routing officeCrates officeEnvironment (fun _ => []) officeErrors
    officeRuntime (fun _ => 0) (fun _ => 0) 0 officeRuntime.limits (.fresh {}) officeHeaders
    officeConfig rfl office_targetsLoad (Locks.healthy_fresh _) (officeText []) _ rfl served servedEq
    candidates accepted fun _ => 0).1

/-- A second provider, for short answers only, whose lock a panic has poisoned. -/
def narrowProvider : Provider :=
  { officeProvider with id := "q", capabilities := { maxOutputTokens := 8 } }

def narrowTargets : List TargetConfig :=
  [{ provider := "p", model := "m" }, { provider := "q", model := "m" }]

def narrowConfig : AppConfig :=
  { officeConfig with
    providers := officeConfig.providers ++ [
      { id := "q", kind := .openaiChat, endpoint := "https://p", credential := .bearer (.env "KEY")
        capabilityProfile := { maxOutputTokens := 8 } }]
    routes := [{ id := "r", models := ["*"], targets := narrowTargets }] }

def narrowRuntime : Runtime :=
  { officeRuntime with
    config := narrowConfig
    router :=
      { routes := [{ id := "r", isMatch := fun _ => true, targets := narrowTargets }]
        providers := [("q", narrowProvider), ("p", officeProvider)]
        maxAttempts := 2 } }

def narrowCircuits : Circuits :=
  Function.update (Locks.fresh {}) "q" { value := {}, poisoned := true }

theorem narrow_targetsLoad : TargetsLoad officeEnvironment narrowRuntime.router := by
  intro route isRoute target isTarget provider found
  cases List.mem_singleton.mp isRoute
  rcases List.mem_pair.mp isTarget with rfl | rfl
  · cases found
    exact ⟨String.length, rfl⟩
  · cases found
    exact ⟨String.length, rfl⟩

/-- A message with a number out of range in a field that is no field of a message: `messages` skips
it, `count_tokens` cannot read the body. And a message too long for one provider never looks at its
circuit, whose lock is poisoned: the count, which asks for one token, does, and panics. -/
theorem counting_refuses_skipped :
    (Runtime.new officeCrates officeEnvironment (fun _ => []) officeConfig =
        some (.ok officeRuntime) ∧
      TargetsLoad officeEnvironment officeRuntime.router ∧
      ∃ served counted, officeMessages (officeText [(some "x", .number none)]) = some served ∧
        officeCount (officeText [(some "x", .number none)]) = some counted ∧
        served.result.isOk = true ∧ counted.result.isOk = false) ∧
    Runtime.new officeCrates officeEnvironment (fun _ => []) narrowConfig =
        some (.ok narrowRuntime) ∧
      TargetsLoad officeEnvironment narrowRuntime.router ∧
      (narrowRuntime.messages officeCrates (fun _ => []) officeErrors (fun _ => 0) (fun _ => 0) 0
        officeRuntime.limits narrowCircuits officeHeaders (some (officeText []))).any
        (fun served => served.result.isOk) = true ∧
      (narrowRuntime.countTokens officeCrates officeEnvironment (fun _ => []) officeErrors
        (fun _ => 0) (fun _ => 0) 0 officeRuntime.limits narrowCircuits officeHeaders
        (some (officeText []))).isNone = true := by
  refine ⟨⟨rfl, office_targetsLoad, _, _, rfl, rfl, ?_, ?_⟩, rfl, narrow_targetsLoad, ?_, ?_⟩
  · decide +kernel
  · decide +kernel
  · decide +kernel
  · decide +kernel

end ClaudeProxy
