/-
Module: ClaudeProxy.Proofs.ConfigFormat
Layer: Proofs
Purpose: The configuration as data, there and back. A configuration that was read is written as data
  from which the same configuration is read, however the first data were put.
Trusted boundary: none
Main exports: Stable, AddressText.Lawful, AppConfig.stable, config_read_again
-/
import ClaudeProxy.ConfigFormat
import ClaudeProxy.Proofs.Deserialization

namespace ClaudeProxy

open Library

/-! ### Stable readers -/

/-- What was read once is read again from what the writer makes of it. -/
def Stable {α : Type} (read : Value → Option α) (write : α → Value) : Prop :=
  ∀ value result, read value = some result → read (write result) = some result

section Stable

variable {α : Type} {read : Value → Option α} {write : α → Value}

/-- A field that was read, in the fields that are written. -/
theorem Stable.field (stable : Stable read write) {name : String} {fields written : Entries}
    {held : α} (found : field name read fields = some held)
    (lookup : written.lookup name = some (write held)) : field name read written = some held := by
  obtain ⟨value, _, readEq⟩ := Option.bind_eq_some_iff.mp found
  unfold ClaudeProxy.field
  rw [lookup]
  exact stable value held readEq

/-- A field with a default is read as it is written. -/
theorem Stable.fieldOr (stable : Stable read write) {name : String} {fields written : Entries}
    {default held : α} (ofDefault : read (write default) = some default)
    (found : fieldOr name default read fields = some held)
    (lookup : written.lookup name = some (write held)) :
    fieldOr name default read written = some held := by
  have again : read (write held) = some held := by
    unfold ClaudeProxy.fieldOr at found
    split at found
    · cases found
      exact ofDefault
    · exact stable _ held found
  unfold ClaudeProxy.fieldOr
  rw [lookup]
  exact again

/-- So is a list, if each of its items is. -/
theorem Stable.list (stable : Stable read write) :
    Stable (readList read) fun items => .array (items.map write) := by
  intro value results readEq
  cases value with
  | array items =>
      have each := Except.mapM_eq_some.mp readEq
      change (results.map write).mapM read = some results
      rw [Except.mapM_eq_some, List.forall₂_map_left_iff, List.forall₂_same]
      intro result member
      obtain ⟨item, _, itemEq⟩ := Except.exists_of_mem_right each member
      exact stable item result itemEq
  | null => cases readEq
  | bool => cases readEq
  | number => cases readEq
  | string => cases readEq
  | object => cases readEq

/-- So is a value that may be missing, if no value is written as `null`. -/
theorem Stable.nullable (stable : Stable read write) (notNull : ∀ held, write held ≠ .null) :
    Stable (readNullable read) (writeNullable write) := by
  intro value result readEq
  cases result with
  | none => rfl
  | some held =>
      have readHeld : read value = some held := by
        cases value with
        | null => cases readEq
        | _ =>
            obtain ⟨_, heldEq, same⟩ := Option.map_eq_some_iff.mp readEq
            cases same
            exact heldEq
      have again := stable value held readHeld
      have present := notNull held
      unfold writeNullable readNullable
      dsimp only
      generalize write held = written at again present
      cases written with
      | null => exact absurd rfl present
      | _ => exact congrArg (Option.map some) again

end Stable

/-- It is enough that what is written of any value is read as that value. -/
theorem stable_of_total {α : Type} {read : Value → Option α} {write : α → Value}
    (total : ∀ result, read (write result) = some result) : Stable read write := by
  intro value result _
  exact total result

theorem stable_string : Stable Value.asStr Value.string := by
  intro value result _
  rfl

theorem stable_bool : Stable Value.asBool Value.bool := by
  intro value result _
  rfl

/-- A number is read as it is written, within its width. -/
theorem stable_unsigned (width : Nat) : Stable (readUnsigned width) Value.num := by
  intro value result readEq
  unfold readUnsigned at readEq
  split at readEq
  · split at readEq
    · rename_i inRange
      cases readEq
      exact if_pos inRange
    · cases readEq
  · cases readEq

/-! ### Fields -/

/-- The fields of an object that is written with known keys, each under its own. -/
theorem fieldsOf_obj {known : List String} {entries : Entries}
    (areKnown : ∀ entry ∈ entries, entry.1 ∈ known) :
    ∃ fields, fieldsOf known (.obj entries) = some fields ∧
      ∀ name, fields.lookup name = entries.reverse.lookup name := by
  refine ⟨entries.collected, ?_, fun name => ?_⟩
  · unfold fieldsOf Value.obj
    apply if_pos
    rw [List.all_eq_true]
    intro entry member
    simpa using areKnown entry (Entries.mem_collected member)
  · have found := Value.lookup_foldl_insert name entries []
    rwa [List.append_nil] at found

/-! ### Secrets -/

/-- Both kinds of reference to a secret are read as they are written. -/
theorem SecretRef.read_again (reference : SecretRef) :
    SecretRef.fromValue reference.toValue = some reference := by
  cases reference with
  | env name => simp [SecretRef.fromValue, SecretRef.toValue, Value.strAt]
  | file path => simp [SecretRef.fromValue, SecretRef.toValue, Value.strAt]

/-- So is a literal beside them, which no reference is taken for. -/
theorem SecretOrLiteral.read_again (held : SecretOrLiteral) :
    SecretOrLiteral.fromValue held.toValue = some held := by
  cases held with
  | literal text => rfl
  | secret reference =>
      have referenceEq := reference.read_again
      cases reference with
      | env name => exact congrArg (Option.map SecretOrLiteral.secret) referenceEq
      | file path => exact congrArg (Option.map SecretOrLiteral.secret) referenceEq

/-- A credential is told by its tag, and its secret by the name that goes with the tag. -/
theorem CredentialConfig.fromValue_obj {tag name : String} {variant : SecretRef → CredentialConfig}
    (tagged : credentialVariant tag = some (name, variant)) (notTag : name ≠ "type")
    (secret : SecretRef) :
    CredentialConfig.fromValue (.obj [("type", .string tag), (name, secret.toValue)]) =
      some (variant secret) := by
  have lookups := fun key => Value.lookup_foldl_insert key
    [("type", Value.string tag), (name, secret.toValue)] []
  have tagFound := lookups "type"
  have secretFound := lookups name
  simp [notTag.symm] at tagFound
  simp at secretFound
  simp [CredentialConfig.fromValue, Value.obj, tagFound, secretFound, tagged, secret.read_again]

/-- So every credential is read as it is written. -/
theorem CredentialConfig.read_again (credential : CredentialConfig) :
    CredentialConfig.fromValue credential.toValue = some credential := by
  cases credential with
  | bearer secret => exact fromValue_obj rfl (by decide) secret
  | apiKey secret => exact fromValue_obj rfl (by decide) secret
  | azureEntra token => exact fromValue_obj rfl (by decide) token

theorem ProviderKind.read_again (kind : ProviderKind) :
    ProviderKind.fromValue kind.toValue = some kind := by
  cases kind with
  | openaiChat => rfl
  | azureChat => rfl

/-- A header as it is read from an entry. -/
def ReadsHeader (entry : String × Value) (header : String × SecretOrLiteral) : Prop :=
  (SecretOrLiteral.fromValue entry.2).map (fun held => (entry.1, held)) = some header

/-- Headers are read under the keys that they have. -/
theorem keys_of_readsHeader {entries : Entries} {headers : List (String × SecretOrLiteral)}
    (each : List.Forall₂ ReadsHeader entries headers) :
    headers.map Prod.fst = entries.map Prod.fst := by
  induction each with
  | nil => rfl
  | @cons entry header _ _ here _ inductionHypothesis =>
      obtain ⟨_, _, headerEq⟩ := Option.map_eq_some_iff.mp here
      have sameKey : header.1 = entry.1 := congrArg Prod.fst headerEq.symm
      rw [List.map_cons, List.map_cons, inductionHypothesis, sameKey]

/-- Headers that were read stand in the order of their keys, so that they are written as they
stand. -/
theorem stable_headers : Stable readHeaders writeHeaders := by
  intro value headers readEq
  cases value with
  | object entries =>
      have each : List.Forall₂ ReadsHeader (Entries.collected entries) headers :=
        Except.mapM_eq_some.mp readEq
      have ascending :
          Entries.Ascending (headers.map fun header => (header.1, header.2.toValue)) := by
        have keys := Entries.collected_ascending entries
        unfold Entries.Ascending at keys ⊢
        rw [← @List.pairwise_map _ _ Prod.fst (· < ·)] at keys ⊢
        rw [List.map_map]
        exact keys_of_readsHeader each ▸ keys
      have written := Entries.collected_of_ascending ascending
      change (Entries.collected (Entries.collected _)).mapM _ = some headers
      rw [written, written, Except.mapM_eq_some, List.forall₂_map_left_iff, List.forall₂_same]
      intro header _
      rw [header.2.read_again]
      rfl
  | null => cases readEq
  | bool => cases readEq
  | number => cases readEq
  | string => cases readEq
  | array => cases readEq

/-! ### Sections -/

theorem LimitsConfig.stable : Stable LimitsConfig.fromValue LimitsConfig.toValue := by
  intro value limits readEq
  simp only [LimitsConfig.fromValue, Option.bind_eq_bind, Option.bind_eq_some_iff] at readEq
  obtain ⟨_, _, _, globalConcurrency, _, connectTimeout, _, requestTimeout, _, idleTimeout, _,
    maxAttempts, _, threshold, _, cooldown, same⟩ := readEq
  cases same
  obtain ⟨written, writtenEq, lookups⟩ := @fieldsOf_obj limitsFields (LimitsConfig.entries _)
    (by simp [LimitsConfig.entries, limitsFields])
  simp only [LimitsConfig.fromValue, Option.bind_eq_bind, Option.bind_eq_some_iff]
  have size := stable_unsigned 64
  have count := stable_unsigned 32
  exact ⟨written, writtenEq,
    _, Stable.fieldOr size rfl globalConcurrency (lookups _),
    _, Stable.fieldOr size rfl connectTimeout (lookups _),
    _, Stable.fieldOr size rfl requestTimeout (lookups _),
    _, Stable.fieldOr size rfl idleTimeout (lookups _),
    _, Stable.fieldOr size rfl maxAttempts (lookups _),
    _, Stable.fieldOr count rfl threshold (lookups _),
    _, Stable.fieldOr size rfl cooldown (lookups _), rfl⟩

/-- A profile of capabilities is read again as it is written, and so is each further part. -/
theorem CapabilityProfile.stable :
    Stable CapabilityProfile.fromValue CapabilityProfile.toValue := by
  intro value profile readEq
  unfold CapabilityProfile.fromValue at readEq
  obtain ⟨_, _, readEq⟩ := Option.bind_eq_some_iff.mp readEq
  obtain ⟨_, tokenizer, readEq⟩ := Option.bind_eq_some_iff.mp readEq
  iterate 6 obtain ⟨_, _, readEq⟩ := Option.bind_eq_some_iff.mp readEq
  obtain ⟨_, maxOutputTokens, readEq⟩ := Option.bind_eq_some_iff.mp readEq
  iterate 7 obtain ⟨_, _, readEq⟩ := Option.bind_eq_some_iff.mp readEq
  cases readEq
  obtain ⟨written, writtenEq, lookups⟩ := @fieldsOf_obj profileFields (CapabilityProfile.entries _)
    (by simp [CapabilityProfile.entries, profileFields])
  -- A flag is read from whatever `bool` is written under its name.
  have flag : ∀ {name : String} {default held : Bool}, written.lookup name = some (.bool held) →
      fieldOr name default Value.asBool written = some held := by
    intro name default held lookup
    unfold ClaudeProxy.fieldOr
    rw [lookup]
    rfl
  unfold CapabilityProfile.fromValue
  refine Option.bind_eq_some_iff.mpr ⟨written, writtenEq, ?_⟩
  refine Option.bind_eq_some_iff.mpr
    ⟨_, Stable.fieldOr stable_string rfl tokenizer (lookups _), ?_⟩
  iterate 6 refine Option.bind_eq_some_iff.mpr ⟨_, flag (lookups _), ?_⟩
  refine Option.bind_eq_some_iff.mpr
    ⟨_, Stable.fieldOr (stable_unsigned 32) rfl maxOutputTokens (lookups _), ?_⟩
  iterate 7 refine Option.bind_eq_some_iff.mpr ⟨_, flag (lookups _), ?_⟩
  rfl

theorem ClientConfig.stable : Stable ClientConfig.fromValue ClientConfig.toValue := by
  intro value client readEq
  simp only [ClientConfig.fromValue, Option.bind_eq_bind, Option.bind_eq_some_iff] at readEq
  obtain ⟨_, _, _, id, _, key, _, allowedRoutes, _, requests, _, concurrent, same⟩ := readEq
  cases same
  obtain ⟨written, writtenEq, lookups⟩ := @fieldsOf_obj clientFields (ClientConfig.entries _)
    (by simp [ClientConfig.entries, clientFields])
  simp only [ClientConfig.fromValue, Option.bind_eq_bind, Option.bind_eq_some_iff]
  have count := stable_unsigned 32
  exact ⟨written, writtenEq,
    _, Stable.field stable_string id (lookups _),
    _, Stable.field (stable_of_total SecretRef.read_again) key (lookups _),
    _, Stable.fieldOr (Stable.list stable_string) rfl allowedRoutes (lookups _),
    _, Stable.fieldOr count rfl requests (lookups _),
    _, Stable.fieldOr count rfl concurrent (lookups _), rfl⟩

/-- A provider is, with its headers under distinct keys. -/
theorem ProviderConfig.stable : Stable ProviderConfig.fromValue ProviderConfig.toValue := by
  intro value provider readEq
  simp only [ProviderConfig.fromValue, Option.bind_eq_bind, Option.bind_eq_some_iff] at readEq
  obtain ⟨_, _, _, id, _, kind, _, endpoint, _, credential, _, headers, _, profile, _, insecure,
    same⟩ := readEq
  cases same
  obtain ⟨written, writtenEq, lookups⟩ := @fieldsOf_obj providerFields (ProviderConfig.entries _)
    (by simp [ProviderConfig.entries, providerFields])
  simp only [ProviderConfig.fromValue, Option.bind_eq_bind, Option.bind_eq_some_iff]
  have defaultProfile : CapabilityProfile.fromValue (CapabilityProfile.toValue {}) = some {} :=
    CapabilityProfile.stable (.obj []) {} rfl
  exact ⟨written, writtenEq,
    _, Stable.field stable_string id (lookups _),
    _, Stable.field (stable_of_total ProviderKind.read_again) kind (lookups _),
    _, Stable.field stable_string endpoint (lookups _),
    _, Stable.field (stable_of_total CredentialConfig.read_again) credential (lookups _),
    _, Stable.fieldOr stable_headers rfl headers (lookups _),
    _, Stable.fieldOr CapabilityProfile.stable defaultProfile profile (lookups _),
    _, Stable.fieldOr stable_bool rfl insecure (lookups _), rfl⟩

theorem TargetConfig.stable : Stable TargetConfig.fromValue TargetConfig.toValue := by
  intro value target readEq
  simp only [TargetConfig.fromValue, Option.bind_eq_bind, Option.bind_eq_some_iff] at readEq
  obtain ⟨_, _, _, provider, _, model, _, priority, _, weight, same⟩ := readEq
  cases same
  obtain ⟨written, writtenEq, lookups⟩ := @fieldsOf_obj targetFields (TargetConfig.entries _)
    (by simp [TargetConfig.entries, targetFields])
  simp only [TargetConfig.fromValue, Option.bind_eq_bind, Option.bind_eq_some_iff]
  exact ⟨written, writtenEq,
    _, Stable.field stable_string provider (lookups _),
    _, Stable.field stable_string model (lookups _),
    _, Stable.fieldOr (stable_unsigned 32) rfl priority (lookups _),
    _, Stable.fieldOr (stable_unsigned 32) rfl weight (lookups _), rfl⟩

theorem RouteConfig.stable : Stable RouteConfig.fromValue RouteConfig.toValue := by
  intro value route readEq
  simp only [RouteConfig.fromValue, Option.bind_eq_bind, Option.bind_eq_some_iff] at readEq
  obtain ⟨_, _, _, id, _, models, _, targets, same⟩ := readEq
  cases same
  obtain ⟨written, writtenEq, lookups⟩ := @fieldsOf_obj routeFields (RouteConfig.entries _)
    (by simp [RouteConfig.entries, routeFields])
  simp only [RouteConfig.fromValue, Option.bind_eq_bind, Option.bind_eq_some_iff]
  exact ⟨written, writtenEq,
    _, Stable.field stable_string id (lookups _),
    _, Stable.field (Stable.list stable_string) models (lookups _),
    _, Stable.field (Stable.list TargetConfig.stable) targets (lookups _), rfl⟩

/-! ### The configuration -/

/-- What the texts of socket addresses are relied on for: an address that was read is written as a
text of the same address, and the default addresses have texts. -/
structure AddressText.Lawful (addresses : AddressText) : Prop where
  again : ∀ text address, addresses.parse text = some address →
    addresses.parse (addresses.display address) = some address
  defaultBind : addresses.parse "0.0.0.0:8082" = some ⟨"0.0.0.0", 8082⟩
  defaultMetricsBind : addresses.parse "127.0.0.1:9090" = some ⟨"127.0.0.1", 9090⟩

section Addresses

variable {addresses : AddressText}

/-- An address is, as far as the parser of addresses is lawful. -/
theorem SocketAddr.stable (lawful : addresses.Lawful) :
    Stable (SocketAddr.fromValue addresses) (SocketAddr.toValue addresses) := by
  intro value address readEq
  obtain ⟨text, _, parseEq⟩ := Option.bind_eq_some_iff.mp readEq
  exact lawful.again text address parseEq

/-- So the settings of the server are. -/
theorem ServerConfig.stable (lawful : addresses.Lawful) :
    Stable (ServerConfig.fromValue addresses) (ServerConfig.toValue addresses) := by
  intro value server readEq
  simp only [ServerConfig.fromValue, Option.bind_eq_bind, Option.bind_eq_some_iff] at readEq
  obtain ⟨_, _, _, bind, _, metricsBind, _, maxBodyBytes, _, grace, _, version, _, loose, same⟩ :=
    readEq
  cases same
  obtain ⟨written, writtenEq, lookups⟩ := @fieldsOf_obj serverFields
    (ServerConfig.entries addresses _) (by simp [ServerConfig.entries, serverFields])
  simp only [ServerConfig.fromValue, Option.bind_eq_bind, Option.bind_eq_some_iff]
  have address := SocketAddr.stable lawful
  have size := stable_unsigned 64
  have flag := stable_bool
  have defaultBind := lawful.again _ _ lawful.defaultBind
  have defaultMetricsBind := lawful.again _ _ lawful.defaultMetricsBind
  exact ⟨written, writtenEq,
    _, Stable.fieldOr address defaultBind bind (lookups _),
    _, Stable.fieldOr (Stable.nullable address fun _ => Value.noConfusion)
      (congrArg (Option.map some) defaultMetricsBind) metricsBind (lookups _),
    _, Stable.fieldOr size rfl maxBodyBytes (lookups _),
    _, Stable.fieldOr size rfl grace (lookups _),
    _, Stable.fieldOr flag rfl version (lookups _),
    _, Stable.fieldOr flag rfl loose (lookups _), rfl⟩

/-- And with all its parts, a configuration. -/
theorem AppConfig.stable (lawful : addresses.Lawful) :
    Stable (AppConfig.fromValue addresses) (AppConfig.toValue addresses) := by
  intro value config readEq
  simp only [AppConfig.fromValue, Option.bind_eq_bind, Option.bind_eq_some_iff] at readEq
  obtain ⟨_, _, _, server, _, limits, _, clients, _, providers, _, routes, same⟩ := readEq
  cases same
  obtain ⟨written, writtenEq, lookups⟩ := @fieldsOf_obj configFields (AppConfig.entries addresses _)
    (by simp [AppConfig.entries, configFields])
  simp only [AppConfig.fromValue, Option.bind_eq_bind, Option.bind_eq_some_iff]
  have defaultServer : ServerConfig.fromValue addresses (ServerConfig.toValue addresses {}) = some {} :=
    ServerConfig.stable lawful (.obj []) {} rfl
  have defaultLimits : LimitsConfig.fromValue (LimitsConfig.toValue {}) = some {} :=
    LimitsConfig.stable (.obj []) {} rfl
  exact ⟨written, writtenEq,
    _, Stable.fieldOr (ServerConfig.stable lawful) defaultServer server (lookups _),
    _, Stable.fieldOr LimitsConfig.stable defaultLimits limits (lookups _),
    _, Stable.field (Stable.list ClientConfig.stable) clients (lookups _),
    _, Stable.field (Stable.list ProviderConfig.stable) providers (lookups _),
    _, Stable.field (Stable.list RouteConfig.stable) routes (lookups _), rfl⟩

/-- Whatever data a configuration was read from, what it is written as is read as the same one, and
as no other. -/
theorem config_read_again (lawful : addresses.Lawful) {value : Value} {config : AppConfig}
    (read : AppConfig.fromValue addresses value = some config) :
    AppConfig.fromValue addresses (config.toValue addresses) = some config ∧
      ∀ other config', AppConfig.fromValue addresses other = some config' →
        config'.toValue addresses = config.toValue addresses → config' = config := by
  have again := AppConfig.stable lawful value config read
  refine ⟨again, fun other config' otherRead sameData => ?_⟩
  have otherAgain := AppConfig.stable lawful other config' otherRead
  rw [sameData, again] at otherAgain
  exact (Option.some.inj otherAgain).symm

end Addresses

def defaultAddresses : AddressText where
  parse
    | "0.0.0.0:8082" => some ⟨"0.0.0.0", 8082⟩
    | "127.0.0.1:9090" => some ⟨"127.0.0.1", 9090⟩
    | _ => none
  display address := s!"{address.ip}:{address.port.toNat}"

/-- The sample's addresses are texts of themselves. -/
theorem defaultAddresses_lawful : defaultAddresses.Lawful where
  again text address parsed := by
    unfold defaultAddresses at parsed ⊢
    dsimp only at parsed
    split at parsed
    · cases parsed
      rfl
    · cases parsed
      rfl
    · cases parsed
  defaultBind := rfl
  defaultMetricsBind := rfl

/-- Headers out of order, a provider as an array and a secret with a key too many. -/
def looseValue : Value :=
  .object [
    ("clients", .array [.object [("id", .string "c"),
      ("key", .object [("env", .string "KEY"), ("note", .null)])]]),
    ("providers", .array [.array [.string "p", .object [("azure_chat", .null)],
      .string "https://p", .array [.string "api_key", .object [("file", .string "/run/key")]],
      .object [("x-team", .string "a"), ("x-region", .object [("env", .string "REGION")])]]]),
    ("routes", .array [.object [("id", .string "r"), ("models", .array [.string "*"]),
      ("targets", .array [.array [.string "p", .string "m"]])]])]

def looseConfig : AppConfig where
  clients := [{ id := "c", key := .env "KEY" }]
  providers := [
    { id := "p", kind := .azureChat, endpoint := "https://p", credential := .apiKey (.file "/run/key")
      headers := [("x-region", .secret (.env "REGION")), ("x-team", .literal "a")] }]
  routes := [{ id := "r", models := ["*"], targets := [{ provider := "p", model := "m" }] }]

/-- A configuration that is set to loose validation survives, and no other value is written like it.
-/
theorem config_read_again_loose :
    AppConfig.fromValue defaultAddresses (looseConfig.toValue defaultAddresses) = some looseConfig ∧
      ∀ other config', AppConfig.fromValue defaultAddresses other = some config' →
        config'.toValue defaultAddresses = looseConfig.toValue defaultAddresses →
        config' = looseConfig :=
  @config_read_again _ defaultAddresses_lawful looseValue looseConfig rfl

end ClaudeProxy
