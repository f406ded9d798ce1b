/-
Module: ClaudeProxy.Proofs.Credentials
Layer: Proofs
Purpose: Where the secrets of the providers go. In every run of the service a request that is
  handed to the HTTP client for an attempt is one for the endpoint of that attempt's provider, in the
  clear only if the provider allows it, and the one credential on it is the provider's own: no header of
  the configuration adds or replaces one. Where the HTTP client goes on a redirect is its own matter.
Trusted boundary: none
Main exports: isCredential, credentialHeader, Confined, CollectedFrom, confined_of_httpRequest,
  credentials_confined
-/
import ClaudeProxy.Proofs.Authorization
import ClaudeProxy.Proofs.UpstreamUrls

namespace ClaudeProxy

open Library

/-! ### Headers with a credential -/

/-- The header may carry a credential. -/
def isCredential (header : String × String) : Bool :=
  header.1 == "authorization" || header.1 == "api-key"

/-- How a secret is shown to a provider. -/
def credentialHeader (kind : ProviderKind) (credential : CredentialConfig) (secret : String) :
    String × String :=
  match kind, credential with
  | .azureChat, .apiKey _ => ("api-key", secret)
  | _, _ => ("authorization", "Bearer " ++ secret)

/-- The header comes from one of the configured ones. -/
def FromConfigured (environment : Environment) (configured : List (String × SecretOrLiteral))
    (header : String × String) : Prop :=
  ∃ origin ∈ configured, header.1 = origin.1.toLower ∧ origin.2.resolve environment = .ok header.2

/-- The header is what the HTTP client says by default: that it accepts anything. -/
def AcceptsAnything (configured : List (String × SecretOrLiteral)) (header : String × String) : Prop :=
  header = ("accept", "*/*") ∧ ∀ origin ∈ configured, origin.1.toLower ≠ "accept"

/-- A request is meant for a provider, with the headers that the code and the configuration give it. -/
structure Confined (environment : Environment) (config : ProviderConfig) (sent : HttpRequest) :
    Prop where
  url : sent.url = chatCompletionsUrl (trimSlashes config.endpoint)
  secure : "https:".toList <+: sent.url.toList ∨
    config.allowInsecureHttp = true ∧ "http:".toList <+: sent.url.toList
  credential : ∃ secret, config.credential.secret.resolve environment = .ok secret ∧
    sent.headers.filter isCredential = [credentialHeader config.kind config.credential secret]
  distinct : (sent.headers.map Prod.fst).Nodup
  contentType : ("content-type", "application/json") ∈ sent.headers
  custom : ∀ header ∈ sent.headers, isCredential header = false → header.1 ≠ "content-type" →
    FromConfigured environment config.headers header ∨ AcceptsAnything config.headers header

section Confinement

variable {crates : Crates} {environment : Environment} {order : IterationOrder}
  {hashKey : String → Digest} {errors : JsonErrors}

/-! ### The headers of a provider -/

/-- A name that the validation accepts is not that of a header with a credential. -/
theorem not_isCredential_of_valid {name value : String}
    (valid : validateHeaderName environment name = .ok ()) :
    isCredential (name.toLower, value) = false := by
  simp only [validateHeaderName, Except.bind_eq_ok, rejectIf_eq_ok] at valid
  obtain ⟨_, allowed, _⟩ := valid
  have differs : ∀ forbidden ∈ forbiddenHeaders, forbidden.toList.map Char.toLower =
      forbidden.toList → name.toLower ≠ forbidden := by
    intro forbidden member isLower same
    refine allowed (List.any_eq_true.mpr ⟨forbidden, member, ?_⟩)
    have lowered : name.toLower.toList = name.toList.map Char.toLower := String.toList_map
    unfold eqIgnoreAsciiCase
    rw [isLower, ← same, lowered]
    exact beq_self_eq_true _
  have notAuthorization := differs "authorization" (by decide) (by decide)
  have notKey := differs "api-key" (by decide) (by decide)
  simp [isCredential, notAuthorization, notKey]

/-- The headers of a provider: each comes from a configured one, each configured name is among them,
and no name is there twice. -/
structure CollectedFrom (environment : Environment) (configured : List (String × SecretOrLiteral))
    (headers : Headers) : Prop where
  origin : ∀ header ∈ headers, FromConfigured environment configured header
  named : ∀ origin ∈ configured, ∃ header ∈ headers, header.1 = origin.1.toLower
  distinct : (headers.map Prod.fst).Nodup

theorem addHeader_collected {seen : List (String × SecretOrLiteral)} {headers after : Headers}
    {added : String × SecretOrLiteral} (holds : CollectedFrom environment seen headers)
    (stepped : addHeader environment headers added = .ok after) :
    CollectedFrom environment (seen ++ [added]) after := by
  simp only [addHeader, Except.bind_eq_ok] at stepped
  obtain ⟨_, _, value, resolved, _, _, same⟩ := stepped
  cases same
  constructor
  · intro header member
    rcases List.mem_append.mp member with old | new
    · obtain ⟨origin, isSeen, sameName, sameValue⟩ := holds.origin header (List.mem_filter.mp old).1
      exact ⟨origin, List.mem_append_left _ isSeen, sameName, sameValue⟩
    · rw [List.mem_singleton.mp new]
      exact ⟨added, List.mem_append_right _ (List.mem_singleton_self _), rfl, resolved⟩
  · intro origin isOrigin
    by_cases here : origin.1.toLower = added.1.toLower
    · exact ⟨_, List.mem_append_right _ (List.mem_singleton_self _), here.symm⟩
    · rcases List.mem_append.mp isOrigin with old | new
      · obtain ⟨header, member, sameName⟩ := holds.named origin old
        refine ⟨header, List.mem_append_left _ (List.mem_filter.mpr ⟨member, ?_⟩), sameName⟩
        exact decide_eq_true (sameName ▸ here)
      · rw [List.mem_singleton.mp new] at here
        exact absurd rfl here
  · unfold Headers.insert
    rw [List.map_append, List.map_singleton, List.nodup_append]
    refine ⟨holds.distinct.sublist ((List.filter_sublist).map _), List.nodup_singleton _, ?_⟩
    intro name isOld other isNew
    obtain ⟨header, member, rfl⟩ := List.mem_map.mp isOld
    rw [List.mem_singleton.mp isNew]
    exact of_decide_eq_true (List.mem_filter.mp member).2

theorem Provider.new_headers {config : ProviderConfig} {limits : LimitsConfig} {provider : Provider}
    (built : Provider.new environment config limits = .ok provider) :
    CollectedFrom environment config.headers provider.headers := by
  simp only [Provider.new, Except.bind_eq_ok] at built
  obtain ⟨headers, added, _, _, same⟩ := built
  cases same
  have none : CollectedFrom environment [] [] := by
    constructor
    · exact fun _ => List.not_mem_nil.elim
    · exact fun _ => List.not_mem_nil.elim
    · exact List.nodup_nil
  have collected := @Except.foldlM_accumulates ProxyError _ Headers _ (addHeader environment)
    (fun header => [header]) (fun headers seen => CollectedFrom environment seen headers)
    addHeader_collected _ _ _ _ none added
  simpa using collected

/-! ### The headers of a request -/

theorem Headers.mem_orElse {headers others : Headers} {header : String × String} :
    header ∈ headers.orElse others ↔
      header ∈ headers ∨ header ∈ others ∧ ∀ own ∈ headers, own.1 ≠ header.1 := by
  unfold Headers.orElse
  rw [List.mem_append, List.mem_filter, List.all_eq_true]
  simp only [decide_eq_true_eq]

theorem Headers.distinct_orElse {headers others : Headers} (own : (headers.map Prod.fst).Nodup)
    (distinct : (others.map Prod.fst).Nodup) : ((headers.orElse others).map Prod.fst).Nodup := by
  unfold Headers.orElse
  rw [List.map_append, List.nodup_append]
  refine ⟨own, distinct.sublist ((List.filter_sublist).map _), ?_⟩
  intro name isOwn other isOther
  obtain ⟨header, member, rfl⟩ := List.mem_map.mp isOwn
  obtain ⟨added, isAdded, rfl⟩ := List.mem_map.mp isOther
  have kept := List.all_eq_true.mp (List.mem_filter.mp isAdded).2 header member
  exact of_decide_eq_true kept

theorem Headers.filter_orElse {headers others : Headers} {keeps : String × String → Bool}
    (none : ∀ header ∈ others, keeps header = false) :
    (headers.orElse others).filter keeps = headers.filter keeps := by
  unfold Headers.orElse
  rw [List.filter_append]
  apply List.append_right_eq_self.mpr
  rw [List.filter_eq_nil_iff]
  intro header member
  rw [none header (List.mem_filter.mp member).1]
  exact Bool.false_ne_true

/-- The headers of the HTTP client: the configured ones, and the default for `accept`. -/
theorem Provider.mem_clientHeaders {config : ProviderConfig} {provider : Provider}
    (collected : CollectedFrom environment config.headers provider.headers)
    {header : String × String} (member : header ∈ provider.clientHeaders) :
    header ∈ provider.headers ∨ AcceptsAnything config.headers header := by
  rcases Headers.mem_orElse.mp member with configured | ⟨isDefault, noOther⟩
  · exact .inl configured
  · rw [List.mem_singleton.mp isDefault] at noOther ⊢
    refine .inr ⟨rfl, fun origin isOrigin sameName => ?_⟩
    obtain ⟨own, isOwn, ownName⟩ := collected.named origin isOrigin
    exact noOther own isOwn (ownName.trans sameName)

theorem authHeader_eq (provider : Provider) (secret : String) :
    authHeader provider secret = credentialHeader provider.kind provider.credential secret := by
  unfold authHeader credentialHeader
  cases provider.kind <;> cases provider.credential <;> rfl

theorem credentialHeader_isCredential (kind : ProviderKind) (credential : CredentialConfig)
    (secret : String) : isCredential (credentialHeader kind credential secret) = true := by
  unfold credentialHeader
  split <;> rfl

/-! ### The URL of a provider -/

/-- What a URL begins with stays, up to a slash or the query. -/
theorem chatCompletionsUrl_begins (scheme : String) {endpoint : String} {rest : List Char}
    (text : endpoint.toList = scheme.toList ++ ':' :: rest) (noQuery : '?' ∉ scheme.toList) :
    scheme.toList ++ [':'] <+: (chatCompletionsUrl (trimSlashes endpoint)).toList := by
  have ends : (scheme.toList ++ [':']).getLast? = some ':' := List.getLast?_concat ..
  have kept : (trimSlashes endpoint).toList = (scheme.toList ++ [':']) ++ trimmed rest := by
    rw [trimSlashes_toList, text, List.append_cons, trimmed_append ends (by decide)]
  have passed : ∀ symbol ∈ scheme.toList ++ [':'], decide (symbol ≠ '?') = true := by
    intro symbol member
    apply decide_eq_true
    rintro rfl
    rcases List.mem_append.mp member with inScheme | isColon
    · exact noQuery inScheme
    · exact absurd (List.mem_singleton.mp isColon) (by decide)
  unfold chatCompletionsUrl
  rw [kept, List.span_eq_takeWhile_dropWhile, List.takeWhile_append_of_pos passed]
  split
  · rename_i base query split
    rw [← (Prod.mk.inj split).1, String.toList_append, String.toList_append, String.toList_ofList,
      List.append_assoc, List.append_assoc]
    exact List.prefix_append _ _
  · rw [String.toList_append, kept, List.append_assoc]
    exact List.prefix_append _ _

/-- The URL is one of HTTPS, unless the provider allows HTTP. -/
theorem chatCompletionsUrl_secure {config : ProviderConfig}
    (checked : checkEndpoint crates config = .ok ()) :
    "https:".toList <+: (chatCompletionsUrl (trimSlashes config.endpoint)).toList ∨
      config.allowInsecureHttp = true ∧
        "http:".toList <+: (chatCompletionsUrl (trimSlashes config.endpoint)).toList := by
  unfold checkEndpoint at checked
  simp only [Except.bind_eq_ok, rejectIf_eq_ok, not_not] at checked
  obtain ⟨_, _, _, _, begins⟩ := checked
  rcases begins with secure | ⟨allowed, insecure⟩
  · obtain ⟨rest, text⟩ := exists_of_stripPrefix secure
    exact .inl (chatCompletionsUrl_begins "https" text (by decide))
  · obtain ⟨rest, text⟩ := exists_of_stripPrefix insecure
    exact .inr ⟨allowed, chatCompletionsUrl_begins "http" text (by decide)⟩

/-! ### The requests of a provider -/

/-- Whatever body is sent, the request is one for the provider, as it is configured. -/
theorem confined_of_httpRequest {config : ProviderConfig} {limits : LimitsConfig}
    {provider : Provider} {seen ids : List String}
    (checked : checkProvider crates environment seen config = .ok ids)
    (built : Provider.new environment config limits = .ok provider) {body : Value}
    {sent : HttpRequest} (posted : provider.httpRequest environment body = .ok sent) :
    Confined environment config sent := by
  simp only [checkProvider, Except.bind_eq_ok] at checked
  obtain ⟨_, _, _, endpoint, _, _, _, names, _⟩ := checked
  have own : provider.kind = config.kind ∧ provider.credential = config.credential := by
    simp only [Provider.new, Except.bind_eq_ok] at built
    obtain ⟨_, _, _, _, same⟩ := built
    cases same
    exact ⟨rfl, rfl⟩
  have collected := Provider.new_headers built
  have clean : ∀ header ∈ provider.clientHeaders, isCredential header = false := by
    rintro ⟨name, value⟩ member
    rcases Provider.mem_clientHeaders collected member with configured | ⟨same, _⟩
    · obtain ⟨origin, isOrigin, sameName, _⟩ := collected.origin _ configured
      dsimp only at sameName
      rw [sameName]
      exact not_isCredential_of_valid (Except.forM_eq_ok.mp names origin isOrigin)
    · rw [same]
      rfl
  simp only [Provider.httpRequest, Except.bind_eq_ok] at posted
  obtain ⟨secret, resolved, same⟩ := posted
  cases same
  rw [Provider.new_endpoint built, authHeader_eq, own.1, own.2]
  rw [own.2] at resolved
  have isOne := credentialHeader_isCredential config.kind config.credential secret
  have notContentType : (credentialHeader config.kind config.credential secret).1 ≠ "content-type" := by
    unfold credentialHeader
    split
    · exact (by decide : "api-key" ≠ "content-type")
    · exact (by decide : "authorization" ≠ "content-type")
  constructor
  · rfl
  · dsimp only
    exact chatCompletionsUrl_secure endpoint
  · refine ⟨secret, resolved, ?_⟩
    dsimp only
    rw [Headers.filter_orElse clean, List.filter_cons_of_neg (by decide),
      List.filter_cons_of_pos isOne, List.filter_nil]
  · apply Headers.distinct_orElse
    · simpa using notContentType.symm
    · apply Headers.distinct_orElse collected.distinct
      exact List.nodup_singleton _
  · exact Headers.mem_orElse.mpr (.inl List.mem_cons_self)
  · intro header member notCredential notTyped
    rcases Headers.mem_orElse.mp member with old | ⟨fromClient, _⟩
    · rcases List.mem_pair.mp old with rfl | rfl
      · exact absurd rfl notTyped
      · rw [isOne] at notCredential
        cases notCredential
    · exact (Provider.mem_clientHeaders collected fromClient).imp_left (collected.origin header)

/-- However requests interleave and runtimes are put in place: what is handed to the HTTP client
for an attempt is a request for the provider of the attempt's target, as its configuration has it. -/
theorem credentials_confined {config : AppConfig} {runtime : Runtime}
    (built : Runtime.new crates environment hashKey config = some (.ok runtime))
    (moves : List ServiceMove) {contact : Contact}
    (isContact : contact ∈
      (Service.run crates environment order hashKey errors runtime moves).contacts) :
    ∃ live, (Service.run crates environment order hashKey errors runtime moves).runtimes[
        contact.runtime]? = some live ∧
      ∃ providerConfig ∈ live.runtime.config.providers,
        providerConfig.id = contact.candidate.target.provider ∧
        ∀ sent, contact.candidate.posts crates environment contact.routed.request.stream = .ok sent →
          Confined environment providerConfig sent := by
  have holds := (@authorizationRules crates environment order hashKey errors).run built moves
  obtain ⟨live, isLive, attempts, ofRoute⟩ := holds.contacts contact isContact
  obtain ⟨loaded, isLoaded⟩ := holds.runtimes live (List.mem_of_getElem? isLive)
  obtain ⟨sameConfig, valid, _, _⟩ := Runtime.new_eq_ok isLoaded
  obtain ⟨providerConfig, isProvider, sameId, providerBuilt⟩ :=
    (authorizedBy_of_attempt isLoaded attempts ofRoute).provider
  obtain ⟨seen, ids, checked⟩ :=
    (ValidConfig.checked ⟨loaded, valid⟩).providers providerConfig isProvider
  refine ⟨live, isLive, providerConfig, sameConfig ▸ isProvider, sameId, fun sent posted => ?_⟩
  obtain ⟨body, _, isPosted⟩ := Except.bind_eq_ok.mp posted
  exact confined_of_httpRequest checked providerBuilt isPosted

end Confinement

/-- The attempt of the sample, with the request that was sent for it. -/
theorem credentials_confined_office :
    ∃ contact ∈ (officeService officeMoves).contacts, ∃ providerConfig sent,
      contact.candidate.posts officeCrates officeEnvironment contact.routed.request.stream = .ok sent ∧
        Confined officeEnvironment providerConfig sent := by
  have made : ∀ contact ∈ (officeService officeMoves).contacts,
      (contact.candidate.posts officeCrates officeEnvironment
        contact.routed.request.stream).isOk = true := by decide +kernel
  have some : 0 < (officeService officeMoves).contacts.length := by decide +kernel
  have isContact := List.getElem_mem some
  obtain ⟨live, _, providerConfig, _, _, confined⟩ := @credentials_confined officeCrates
    officeEnvironment officeOrder (fun _ => []) officeErrors officeConfig officeRuntime rfl
    officeMoves _ isContact
  obtain ⟨sent, posted⟩ := isOk_iff.mp (made _ isContact)
  exact ⟨_, isContact, providerConfig, sent, posted, confined sent posted⟩

end ClaudeProxy
