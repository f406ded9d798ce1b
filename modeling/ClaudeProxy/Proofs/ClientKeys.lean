/-
Module: ClaudeProxy.Proofs.ClientKeys
Layer: Proofs
Purpose: Whether a client's key is its own. The registry hands a request to the first client whose
  hashed key matches, and the validation separates the ids of the clients but not their keys; and a key
  is read from a header only if it is visible ASCII.
Trusted boundary: none
Main exports: Presents, CollisionFree, AuthenticatedAs, AuthRegistry.new_identity, extractKey_presented,
  client_key_own_iff
-/
import ClaudeProxy.Proofs.Reload
import ClaudeProxy.Server.Headers

namespace ClaudeProxy

open Library

/-! ### Requests with a key -/

/-- A request presents a key: in `x-api-key`, or, without that header, as a bearer token. -/
inductive Presents (headers : RequestHeaders) (key : String) : Prop
  | apiKey (value : HeaderValue) (held : headers.get "x-api-key" = some value)
      (isKey : value.bytes = utf8Bytes key)
  | bearer (value : HeaderValue) (absent : headers.get "x-api-key" = none)
      (held : headers.get "authorization" = some value)
      (isKey : value.bytes = utf8Bytes ("Bearer " ++ key))

/-- A key that some header can carry. -/
def Carried (key : String) : Prop := (utf8Bytes key).all isHeaderByte = true

/-- A key that is read from a header that carries it. -/
def VisibleAscii (key : String) : Prop := (utf8Bytes key).all isVisibleAscii = true

/-- The hashes of the configured keys tell these apart. -/
def CollisionFree (environment : Environment) (hashKey : String → Digest)
    (clients : List ClientConfig) : Prop :=
  ∀ first ∈ clients, ∀ second ∈ clients, ∀ key other,
    first.key.resolve environment = .ok key → second.key.resolve environment = .ok other →
      hashKey key = hashKey other → key = other

/-- An identity is that of a configured client: it has its id, its routes and its limits. -/
structure IdentityOfClient (identity : ClientIdentity) (config : ClientConfig) : Prop where
  id : identity.id = config.id
  allowedRoutes : identity.allowedRoutes = config.allowedRoutes
  requestsPerMinute : identity.requestsPerMinute = config.requestsPerMinute
  concurrency : identity.concurrency = config.concurrentRequests

/-- A request is taken for one of the client at a place, and is subject to what this client is. -/
def AuthenticatedAs (hashKey : String → Digest) (registry : AuthRegistry) (headers : RequestHeaders)
    (client : Nat) (config : ClientConfig) : Prop :=
  AuthRegistry.authenticate hashKey registry headers.toMap = .ok client ∧
    ∃ identity, registry[client]? = some identity ∧ IdentityOfClient identity config

/-! ### Reading a key -/

theorem HeaderValue.toStr_visible {value : HeaderValue} {text : String}
    (isText : value.bytes = utf8Bytes text) (visible : VisibleAscii text) :
    value.toStr = some text := by
  unfold VisibleAscii at visible
  unfold HeaderValue.toStr
  rw [isText, if_pos visible, fromUtf8_utf8Bytes]

theorem HeaderValue.toStr_hidden {value : HeaderValue} {text : String}
    (isText : value.bytes = utf8Bytes text) (hidden : ¬ VisibleAscii text) : value.toStr = none := by
  unfold VisibleAscii at hidden
  unfold HeaderValue.toStr
  rw [isText, if_neg hidden]

theorem visibleAscii_bearer {key : String} (visible : VisibleAscii key) :
    VisibleAscii ("Bearer " ++ key) := by
  unfold VisibleAscii at *
  rw [utf8Bytes_append, List.all_append, visible, Bool.and_true]
  decide

/-- A key of visible ASCII is read wherever it is presented. -/
theorem extractKey_presented {headers : RequestHeaders} {key : String} (visible : VisibleAscii key)
    (presents : Presents headers key) : extractKey headers.toMap = some key := by
  cases presents with
  | apiKey value held isKey =>
      have read : headers.toMap "x-api-key" = some key := by
        unfold RequestHeaders.toMap
        rw [held]
        exact value.toStr_visible isKey visible
      unfold extractKey
      rw [read]
  | bearer value absent held isKey =>
      have noKey : headers.toMap "x-api-key" = none := by
        unfold RequestHeaders.toMap
        rw [absent]
        rfl
      have read : headers.toMap "authorization" = some ("Bearer " ++ key) := by
        unfold RequestHeaders.toMap
        rw [held]
        exact value.toStr_visible isKey (visibleAscii_bearer visible)
      unfold extractKey
      rw [noKey, read]
      exact stripPrefix_append "Bearer " key

/-- The request that presents a key and nothing else. -/
def presenting (key : String) (carried : Carried key) : RequestHeaders :=
  [("x-api-key", ⟨utf8Bytes key, carried⟩)]

theorem presents_presenting (key : String) (carried : Carried key) :
    Presents (presenting key carried) key :=
  .apiKey ⟨utf8Bytes key, carried⟩ rfl rfl

/-- A key of other characters is read nowhere. -/
theorem extractKey_hidden {key : String} (carried : Carried key) (hidden : ¬ VisibleAscii key) :
    extractKey (presenting key carried).toMap = none := by
  have unread : (presenting key carried).toMap "x-api-key" = none :=
    HeaderValue.toStr_hidden rfl hidden
  unfold extractKey
  rw [unread]
  rfl

/-! ### The registry -/

section Registry

variable {environment : Environment} {hashKey : String → Digest} {configs : List ClientConfig}
  {registry : AuthRegistry}

/-- A client's identity is that of its configuration, under the hash of its key. -/
theorem AuthRegistry.new_identity
    (built : AuthRegistry.new environment hashKey configs = .ok registry) {client : Nat}
    {config : ClientConfig} (configured : configs[client]? = some config) :
    ∃ identity key, registry[client]? = some identity ∧ IdentityOfClient identity config ∧
      config.key.resolve environment = .ok key ∧ identity.keyHash = hashKey key := by
  have each := Except.mapM_eq_ok.mp built
  obtain ⟨bound, rfl⟩ := List.getElem?_eq_some_iff.mp configured
  have bound' : client < registry.length := each.length_eq ▸ bound
  have made := each.get bound bound'
  simp only [ClientIdentity.new, Except.bind_eq_ok] at made
  obtain ⟨key, resolved, _, _, same⟩ := made
  have identityEq := Except.ok.inj same
  simp only [List.get_eq_getElem] at identityEq resolved
  refine ⟨registry[client], key, List.getElem?_eq_getElem bound', ?_, resolved, ?_⟩
  · rw [← identityEq]
    exact ⟨rfl, rfl, rfl, rfl⟩
  · rw [← identityEq]

/-- With a key, a request is taken for the first client that has the hash of it. -/
theorem authenticate_iff {headers : HeaderMap} {key : String}
    (extracted : extractKey headers = some key) {client : Nat} :
    AuthRegistry.authenticate hashKey registry headers = .ok client ↔
      (∃ identity, registry[client]? = some identity ∧ identity.keyHash = hashKey key) ∧
        ∀ earlier < client, ∀ identity, registry[earlier]? = some identity →
          identity.keyHash ≠ hashKey key := by
  have found : AuthRegistry.authenticate hashKey registry headers = .ok client ↔
      (registry.findIdx? fun identity => identity.keyHash == hashKey key) = some client := by
    unfold AuthRegistry.authenticate
    rw [extracted]
    exact orReject_eq_ok
  rw [found, List.findIdx?_eq_some_iff_getElem]
  constructor
  · rintro ⟨bound, matched, first⟩
    refine ⟨⟨registry[client], List.getElem?_eq_getElem bound, eq_of_beq matched⟩, ?_⟩
    intro earlier before identity held same
    obtain ⟨inside, rfl⟩ := List.getElem?_eq_some_iff.mp held
    exact first earlier before (beq_iff_eq.mpr same)
  · rintro ⟨⟨identity, held, matched⟩, first⟩
    obtain ⟨bound, rfl⟩ := List.getElem?_eq_some_iff.mp held
    refine ⟨bound, beq_iff_eq.mpr matched, ?_⟩
    intro earlier before same
    exact first earlier before _ (List.getElem?_eq_getElem (before.trans bound)) (eq_of_beq same)

/-- Without a readable key, no client is found. -/
theorem authenticate_missing {headers : HeaderMap} (missing : extractKey headers = none)
    (client : Nat) : AuthRegistry.authenticate hashKey registry headers ≠ .ok client := by
  unfold AuthRegistry.authenticate
  rw [missing]
  intro impossible
  cases impossible

/-- A client of a registry is the first with the hash of its key exactly if no client before it has
the key. -/
theorem first_of_key_iff (built : AuthRegistry.new environment hashKey configs = .ok registry)
    (collisionFree : CollisionFree environment hashKey configs) {client : Nat}
    {config : ClientConfig} (configured : configs[client]? = some config) {key : String}
    (resolved : config.key.resolve environment = .ok key) :
    (∀ earlier < client, ∀ identity, registry[earlier]? = some identity →
        identity.keyHash ≠ hashKey key) ↔
      ∀ earlier < client, ∀ other, configs[earlier]? = some other →
        other.key.resolve environment ≠ .ok key := by
  constructor
  · intro first earlier before other held same
    obtain ⟨identity, otherKey, listed, -, otherResolved, hashed⟩ :=
      AuthRegistry.new_identity built held
    rw [same] at otherResolved
    cases otherResolved
    exact first earlier before identity listed hashed
  · intro first earlier before identity listed same
    have sameLength := (Except.mapM_eq_ok.mp built).length_eq
    obtain ⟨inside, -⟩ := List.getElem?_eq_some_iff.mp listed
    have held : configs[earlier]? = some configs[earlier] :=
      List.getElem?_eq_getElem (sameLength ▸ inside)
    obtain ⟨identity', otherKey, listed', -, otherResolved, hashed⟩ :=
      AuthRegistry.new_identity built held
    rw [listed] at listed'
    cases listed'
    have sameKey : otherKey = key :=
      collisionFree _ (List.mem_of_getElem? held) _ (List.mem_of_getElem? configured) otherKey key
        otherResolved resolved (hashed.symm.trans same)
    rw [sameKey] at otherResolved
    exact first earlier before _ held otherResolved

end Registry

/-- Every request that presents a client's key is taken for one of that client exactly if no header
can carry the key, or it is visible ASCII and no client before this one has the same key. -/
theorem client_key_own_iff (crates : Crates) (environment : Environment)
    (hashKey : String → Digest) (config : AppConfig) (runtime : Runtime)
    (built : Runtime.new crates environment hashKey config = some (.ok runtime))
    (collisionFree : CollisionFree environment hashKey config.clients) (client : Nat)
    (configured : ClientConfig) (held : config.clients[client]? = some configured) (key : String)
    (resolved : configured.key.resolve environment = .ok key) :
    (∀ headers : RequestHeaders, Presents headers key →
        AuthenticatedAs hashKey runtime.auth headers client configured) ↔
      (Carried key → VisibleAscii key ∧ ∀ earlier < client, ∀ other,
        config.clients[earlier]? = some other → other.key.resolve environment ≠ .ok key) := by
  obtain ⟨-, -, registered, -⟩ := Runtime.new_eq_ok built
  obtain ⟨identity, ownKey, listed, isOf, ownResolved, hashed⟩ :=
    AuthRegistry.new_identity registered held
  rw [resolved] at ownResolved
  cases ownResolved
  have unique := first_of_key_iff registered collisionFree held resolved
  constructor
  · intro own carried
    have asked := (own _ (presents_presenting key carried)).1
    by_cases visible : VisibleAscii key
    · have extracted := extractKey_presented visible (presents_presenting key carried)
      exact ⟨visible, unique.mp ((authenticate_iff extracted).mp asked).2⟩
    · exact absurd asked (authenticate_missing (extractKey_hidden carried visible) client)
  · intro condition headers presents
    have carried : Carried key := by
      cases presents with
      | apiKey value _ isKey =>
          unfold Carried
          rw [← isKey]
          exact value.valid
      | bearer value _ _ isKey =>
          have valid := value.valid
          rw [isKey, utf8Bytes_append, List.all_append, Bool.and_eq_true] at valid
          exact valid.2
    obtain ⟨visible, first⟩ := condition carried
    refine ⟨?_, identity, listed, isOf⟩
    rw [authenticate_iff (extractKey_presented visible presents)]
    exact ⟨⟨identity, listed, hashed⟩, unique.mpr first⟩

/-! ### Two clients with one key -/

/-- A client that may use no route but `r`. -/
def fencedClient : ClientConfig where
  id := "d"
  key := .env "KEY"
  allowedRoutes := ["r"]

/-- Before it, one with the same key that may use every route. -/
def sharedConfig : AppConfig :=
  { officeConfig with clients := [{ id := "c", key := .env "KEY" }, fencedClient] }

def sharedKey : String := "a secret of thirty-two characters"

/-- SHA-256 at the key. -/
def sharedHash (key : String) : Digest :=
  if key = sharedKey then
    [0x89, 0x04, 0x28, 0xf6, 0x1e, 0xd1, 0x4e, 0xf3, 0x1b, 0xc3, 0x19, 0xe5, 0x51, 0x52, 0x06, 0xa3,
      0x4f, 0x0c, 0x6b, 0x84, 0x68, 0x09, 0x10, 0x8a, 0xb8, 0xc0, 0x35, 0x38, 0x01, 0x19, 0x0e, 0x23]
  else []

def sharedRuntime : Runtime where
  config := sharedConfig
  auth :=
    [{ id := "c", keyHash := sharedHash sharedKey, allowedRoutes := [], requestsPerMinute := 600
       concurrency := 100 },
      { id := "d", keyHash := sharedHash sharedKey, allowedRoutes := ["r"], requestsPerMinute := 600
        concurrency := 100 }]
  router := officeRouter

theorem sharedRuntime_built :
    Runtime.new officeCrates officeEnvironment sharedHash sharedConfig =
      some (.ok sharedRuntime) := rfl

theorem sharedHash_collisionFree :
    CollisionFree officeEnvironment sharedHash sharedConfig.clients := by
  intro first firstMember second secondMember key other resolved otherResolved _
  have each : ∀ client ∈ sharedConfig.clients,
      client.key.resolve officeEnvironment = .ok sharedKey := by
    intro client member
    rcases List.mem_cons.mp member with rfl | later
    · rfl
    · obtain rfl := List.mem_singleton.mp later
      rfl
  rw [each first firstMember] at resolved
  rw [each second secondMember] at otherResolved
  cases resolved
  cases otherResolved
  rfl

/-- The second client's key is another one's as well, and so it is not its own. -/
theorem client_key_own_iff_shared :
    (∀ headers : RequestHeaders, Presents headers sharedKey →
        AuthenticatedAs sharedHash sharedRuntime.auth headers 1 fencedClient) ↔
      (Carried sharedKey → VisibleAscii sharedKey ∧ ∀ earlier < 1, ∀ other,
        sharedConfig.clients[earlier]? = some other →
          other.key.resolve officeEnvironment ≠ .ok sharedKey) :=
  client_key_own_iff officeCrates officeEnvironment sharedHash sharedConfig sharedRuntime
    sharedRuntime_built sharedHash_collisionFree 1 fencedClient rfl sharedKey rfl

/-- A request with the key of the second client is taken for one of the first. -/
theorem shared_key_of_other :
    Runtime.new officeCrates officeEnvironment sharedHash sharedConfig = some (.ok sharedRuntime) ∧
      CollisionFree officeEnvironment sharedHash sharedConfig.clients ∧
      sharedConfig.clients[1]? = some fencedClient ∧
      fencedClient.key.resolve officeEnvironment = .ok sharedKey ∧
      ∃ headers : RequestHeaders, Presents headers sharedKey ∧
        AuthRegistry.authenticate sharedHash sharedRuntime.auth headers.toMap = .ok 0 ∧
        ¬ AuthenticatedAs sharedHash sharedRuntime.auth headers 1 fencedClient := by
  have visible : VisibleAscii sharedKey := by
    unfold VisibleAscii
    decide +kernel
  have carried : Carried sharedKey := by
    unfold Carried
    decide +kernel
  have presents := presents_presenting sharedKey carried
  have first : AuthRegistry.authenticate sharedHash sharedRuntime.auth
      (presenting sharedKey carried).toMap = .ok 0 := by
    rw [authenticate_iff (extractKey_presented visible presents)]
    exact ⟨⟨_, rfl, rfl⟩, by simp⟩
  refine ⟨sharedRuntime_built, sharedHash_collisionFree, rfl, rfl, _, presents, first, ?_⟩
  rintro ⟨second, -⟩
  rw [first] at second
  cases second

end ClaudeProxy
