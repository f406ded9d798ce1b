/-
Module: ClaudeProxy.Proofs.StoredConfigs
Layer: Proofs
Purpose: The configurations in the dashboard's history. Over all starts, stops and requests, every text
  that is stored as a version, and every one that is shown, loads as the configuration it was made
  from, which passed its validation or is the sample; and no version is ever lost.
Trusted boundary: none
Main exports: Restorable, ConfigTexts, Response.configTexts, config_history
-/
import ClaudeProxy.Proofs.ConfigFormat
import ClaudeProxy.Proofs.DatabaseHistory
import ClaudeProxy.Proofs.LoginHistory

namespace ClaudeProxy.Dashboard

open Library

/-! ### Texts of configurations -/

/-- The text is that of a configuration which is the sample or passed its validation, and a file with
that text loads as this configuration, as far as it is valid. -/
def Restorable (crates : DashboardCrates) (fromYaml : String → Except String AppConfig)
    (text : String) : Prop :=
  ∃ config, fromYaml text = .ok config ∧
    (config = sampleConfig ∨ config.validate crates.crates crates.environment = .ok ()) ∧
    ∀ path, crates.environment.readFile path = .ok text →
      AppConfig.load crates.crates crates.environment fromYaml path =
        (config.validate crates.crates crates.environment).map fun _ => config

/-- What the crates are relied on for: a value is read as the derived `Deserialize` reads it, and a
configuration in YAML is read as its data are. -/
structure ConfigTexts (crates : DashboardCrates) (addresses : AddressText)
    (fromYaml : String → Except String AppConfig) : Prop where
  fromValue : ∀ value config, crates.configFromValue value = .ok config →
    AppConfig.fromValue addresses value = some config
  toYaml : ∀ config text read, crates.configToYaml config = .ok text →
    AppConfig.fromValue addresses (config.toValue addresses) = some read →
    fromYaml text = .ok read

section Texts

variable {crates : DashboardCrates} {addresses : AddressText}
  {fromYaml : String → Except String AppConfig}

/-- A text that is read as a configuration is loaded exactly if that is valid. -/
theorem load_of_read {text path : String} {config : AppConfig} (read : fromYaml text = .ok config)
    (isText : crates.environment.readFile path = .ok text) :
    AppConfig.load crates.crates crates.environment fromYaml path =
      (config.validate crates.crates crates.environment).map fun _ => config := by
  unfold AppConfig.load
  rw [isText]
  change (Except.mapError _ (fromYaml text) >>= _) = _
  rw [read]
  change (config.validate crates.crates crates.environment >>= fun _ => pure config) = _
  cases config.validate crates.crates crates.environment with
  | ok done => rfl
  | error error => rfl

/-- What was read from a value is restored from its YAML. -/
theorem restorable_of_read (lawful : addresses.Lawful)
    (texts : ConfigTexts crates addresses fromYaml) {value : Value} {config : AppConfig}
    {text : String} (read : AppConfig.fromValue addresses value = some config)
    (written : crates.configToYaml config = .ok text)
    (sound : config = sampleConfig ∨ config.validate crates.crates crates.environment = .ok ()) :
    Restorable crates fromYaml text := by
  have again := AppConfig.stable lawful value config read
  have fromText := texts.toYaml config text config written again
  exact ⟨config, fromText, sound, fun _ isText => load_of_read fromText isText⟩

/-- The sample as a request could give it. -/
def sampleValue : Value :=
  .obj [
    ("clients", .array [.obj [("id", .string "engineering"),
      ("key", .obj [("env", .string "PROXY_CLIENT_KEY")]),
      ("allowed_routes", writeStrings ["sonnet", "haiku"])]]),
    ("providers", .array [.obj [("id", .string "openai"), ("kind", .string "openai_chat"),
      ("endpoint", .string "https://api.openai.com/v1"),
      ("credential", .obj [("type", .string "bearer"),
        ("secret", .obj [("env", .string "OPENAI_API_KEY")])])]]),
    ("routes", .array [
      .obj [("id", .string "sonnet"),
        ("models", writeStrings ["claude-*-sonnet-*", "claude-sonnet-*"]),
        ("targets", .array [.obj [("provider", .string "openai"), ("model", .string "gpt-4.1")]])],
      .obj [("id", .string "haiku"),
        ("models", writeStrings ["claude-*-haiku-*", "claude-haiku-*"]),
        ("targets",
          .array [.obj [("provider", .string "openai"), ("model", .string "gpt-4.1-mini")]])]])]

/-- The sample's value is the sample configuration. -/
theorem sampleValue_read (addresses : AddressText) :
    AppConfig.fromValue addresses sampleValue = some sampleConfig := by
  rfl

/-- The text that a first start stores can be restored. -/
theorem sample_restorable (lawful : addresses.Lawful)
    (texts : ConfigTexts crates addresses fromYaml) {text : String}
    (written : crates.configToYaml sampleConfig = .ok text) : Restorable crates fromYaml text :=
  restorable_of_read lawful texts (sampleValue_read addresses) written (.inl rfl)

/-- So can the text that an update stores, since it was validated before it was written. -/
theorem update_restorable (lawful : addresses.Lawful)
    (texts : ConfigTexts crates addresses fromYaml) {payload : Value} {config : AppConfig}
    {text : String}
    (loaded : AppConfig.loadFromValue crates.crates crates.environment crates.configFromValue
      payload = .ok config)
    (written : crates.configToYaml config = .ok text) : Restorable crates fromYaml text := by
  simp only [AppConfig.loadFromValue, Except.bind_eq_ok] at loaded
  obtain ⟨read, readEq, done, valid, same⟩ := loaded
  cases same
  have fromPayload : crates.configFromValue payload = .ok config := by
    cases parsed : crates.configFromValue payload with
    | error error =>
        rw [parsed] at readEq
        cases readEq
    | ok other =>
        rw [parsed] at readEq
        cases readEq
        rfl
  exact restorable_of_read lawful texts (texts.fromValue payload config fromPayload) written
    (.inr valid)

end Texts

/-! ### What is stored and what is shown -/

/-- The configuration texts in a response. -/
def Response.configTexts (response : Response) : List String :=
  match response.body with
  | .api { data := some (.configVersion version), .. } => [version.configData]
  | .api { data := some (.configVersions versions), .. } => versions.map (·.configData)
  | _ => []

section History

variable {crates : DashboardCrates} {addresses : AddressText}
  {fromYaml : String → Except String AppConfig}

variable (crates fromYaml) in
def Statement.StoresRestorable : Statement → Prop
  | .insertConfigVersion _ configData _ => Restorable crates fromYaml configData
  | _ => True

variable (crates fromYaml) in
def AllRestorable (database : Database) : Prop :=
  ∀ row ∈ database.configVersions.rows, Restorable crates fromYaml row.configData

variable (crates fromYaml) in
/-- What a database answers with when all its versions are restorable. -/
def FromRestorable : (statement : Statement) → statement.Answer → Prop
  | .selectLatestConfig, answer | .selectConfigVersion _, answer =>
      ∀ row, answer = .ok (some row) → Restorable crates fromYaml row.configData
  | .selectConfigVersions, answer =>
      ∀ rows : List ConfigVersionRow, answer = .ok rows →
        ∀ row ∈ rows, Restorable crates fromYaml row.configData
  | .selectConfigData _, answer =>
      ∀ text, answer = .ok (some text) → Restorable crates fromYaml text
  | _, _ => True

variable (crates fromYaml) in
def ShowsRestorable (answer : Option Response) : Prop :=
  ∀ response, answer = some response → ∀ text ∈ response.configTexts,
    Restorable crates fromYaml text

/-- The order of a listing leaves nothing out. -/
theorem mem_newestFirst {rows : List ConfigVersionRow} {row : ConfigVersionRow} :
    row ∈ newestFirst rows ↔ row ∈ rows :=
  (List.perm_insertionSort _ rows).mem_iff

/-- A statement that stores only what can be restored keeps all versions restorable. -/
theorem AllRestorable.serve {database : Database} (restorable : AllRestorable crates fromYaml database)
    {statement : Statement} (stores : statement.StoresRestorable crates fromYaml) (served : Served) :
    AllRestorable crates fromYaml (database.serve served statement).2 := by
  by_cases inserts : statement.target = some .configVersions
  · cases statement with
    | insertConfigVersion version configData createdBy =>
        rcases database.serve_cases served (.insertConfigVersion version configData createdBy) with
          ⟨error, same, _⟩ | ⟨inserted, after, isAfter, _, executed⟩
        · rw [same]
          exact restorable
        · cases executed
          rw [isAfter]
          intro row member
          rcases List.mem_append.mp member with old | new
          · exact restorable row old
          · rw [List.mem_singleton.mp new]
            exact stores
    | _ => cases inserts
  · unfold AllRestorable
    rw [(serve_untouched served statement database).configVersions inserts]
    exact restorable

/-- And the texts in its answer are among them. -/
theorem AllRestorable.answer {database : Database}
    (restorable : AllRestorable crates fromYaml database) (statement : Statement) (served : Served) :
    FromRestorable crates fromYaml statement (database.serve served statement).1 := by
  rcases database.serve_cases served statement with
    ⟨error, same, _⟩ | ⟨rows, after, isAfter, _, executed⟩
  · rw [same]
    cases statement with
    | selectLatestConfig | selectConfigVersion version => exact nofun
    | selectConfigVersions => exact nofun
    | selectConfigData version => exact nofun
    | _ => trivial
  · rw [isAfter]
    cases statement with
    | selectLatestConfig =>
        cases executed
        intro row isRow
        exact restorable row (mem_newestFirst.mp (List.mem_of_head? (Except.ok.inj isRow)))
    | selectConfigVersion version =>
        cases executed
        intro row isRow
        exact restorable row (List.mem_of_find?_eq_some (Except.ok.inj isRow))
    | selectConfigVersions =>
        cases executed
        intro rows isRows row member
        cases isRows
        exact restorable row (mem_newestFirst.mp member)
    | selectConfigData version =>
        cases executed
        intro text isText
        obtain ⟨row, found, sameText⟩ := Option.map_eq_some_iff.mp (Except.ok.inj isText)
        rw [← sameText]
        exact restorable row (List.mem_of_find?_eq_some found)
    | _ => trivial

/-- An error shows no configuration. -/
theorem failed_showsRestorable (text : String) :
    ShowsRestorable crates fromYaml (some (failedAnswer text)) := by
  intro response sent text member
  cases sent
  cases member

theorem text_showsRestorable (text : String) :
    ShowsRestorable crates fromYaml (some (shownAnswer (.text text))) := by
  intro response sent text member
  cases sent
  cases member

/-! ### Handlers -/

/-- The next version is as restorable as the text that it is given. -/
theorem insertNextVersion_restorable {configData : String}
    (restorable : Restorable crates fromYaml configData) (message : Int32 → String) :
    (insertNextVersion crates configData message).Within (Statement.StoresRestorable crates fromYaml)
      (ShowsRestorable crates fromYaml) := by
  refine ⟨trivial, fun current => ⟨restorable, fun inserted => ?_⟩⟩
  cases inserted with
  | ok rows => exact text_showsRestorable _
  | error error => exact failed_showsRestorable _

/-- An update stores what it validated, or nothing. -/
theorem updateConfig_restorable (lawful : addresses.Lawful)
    (texts : ConfigTexts crates addresses fromYaml) (payload : Value) :
    (updateConfig crates payload).Within (Statement.StoresRestorable crates fromYaml)
      (ShowsRestorable crates fromYaml) := by
  unfold updateConfig
  cases loaded : AppConfig.loadFromValue crates.crates crates.environment crates.configFromValue
      payload with
  | error error => exact failed_showsRestorable _
  | ok config =>
      dsimp only
      cases written : crates.configToYaml config with
      | error error => exact failed_showsRestorable _
      | ok configData =>
          exact insertNextVersion_restorable (update_restorable lawful texts loaded written) _

/-- A revert stores the text of a version that was there. -/
theorem revertVersion_restorable (version : Int32) :
    (revertVersion crates version).Given (FromRestorable crates fromYaml)
      (Statement.StoresRestorable crates fromYaml) (ShowsRestorable crates fromYaml) := by
  refine ⟨trivial, ?_⟩
  intro answer possible
  cases answer with
  | error error => exact failed_showsRestorable _
  | ok found =>
      cases found with
      | none => exact failed_showsRestorable _
      | some configData => exact (insertNextVersion_restorable (possible configData rfl) _).given

/-- The handlers that show one version. -/
theorem fetchVersion_restorable {statement : Statement} {rows : statement.Rows → Option ConfigVersionRow}
    (permitted : statement.StoresRestorable crates fromYaml)
    (sound : ∀ answer, FromRestorable crates fromYaml statement answer →
      ∀ found row, answer = .ok found → rows found = some row →
        Restorable crates fromYaml row.configData)
    (missing : String) :
    (fetchOptional crates statement rows (fun row => some (rowToConfigVersion row)) .configVersion
        missing).Given (FromRestorable crates fromYaml) (Statement.StoresRestorable crates fromYaml)
      (ShowsRestorable crates fromYaml) := by
  refine ⟨permitted, ?_⟩
  intro answer possible
  cases answer with
  | error error => exact failed_showsRestorable _
  | ok found =>
      dsimp only
      cases isRow : rows found with
      | none => exact failed_showsRestorable _
      | some row =>
          intro response sent text member
          cases sent
          rw [List.mem_singleton.mp member]
          exact sound _ possible found row rfl isRow

/-- A listing shows the texts of the versions. -/
theorem listVersions_restorable :
    (listVersions crates).Given (FromRestorable crates fromYaml)
      (Statement.StoresRestorable crates fromYaml) (ShowsRestorable crates fromYaml) := by
  refine ⟨trivial, ?_⟩
  intro answer possible
  cases answer with
  | error error => exact failed_showsRestorable _
  | ok rows =>
      intro response sent text member
      cases sent
      obtain ⟨version, isVersion, sameText⟩ := List.mem_map.mp member
      obtain ⟨row, isRow, sameVersion⟩ := List.mem_map.mp isVersion
      rw [← sameText, ← sameVersion]
      exact possible rows rfl row isRow

theorem none_showsRestorable : ShowsRestorable crates fromYaml none := nofun

/-- Whatever the request, it stores and shows restorable versions only. -/
theorem actionHandler_restorable (lawful : addresses.Lawful)
    (texts : ConfigTexts crates addresses fromYaml) (state : DashboardState) (request : HttpRequest)
    (action : Action) :
    (actionHandler crates state request action).Given (FromRestorable crates fromYaml)
      (Statement.StoresRestorable crates fromYaml) (ShowsRestorable crates fromYaml) := by
  have noTexts : ∀ response : Response, response.configTexts = [] →
      ShowsRestorable crates fromYaml (some response) := by
    intro response empty other sent text member
    cases sent
    rw [empty] at member
    cases member
  cases action with
  | updateConfig payload => exact (updateConfig_restorable lawful texts payload).given
  | revertVersion version => exact revertVersion_restorable version
  | listVersions => exact listVersions_restorable
  | getConfig | getVersion version =>
      simp only [actionHandler, getConfig, getVersion]
      refine fetchVersion_restorable ?_ ?_ _
      · trivial
      · rintro answer possible found row rfl isRow
        cases isRow
        exact possible row rfl
  | dashboardIndex =>
      simp only [actionHandler, dashboardIndex]
      split
      · exact noTexts _ rfl
      · exact noTexts _ rfl
  | loginPage | serveFile rest | logout => exact noTexts _ rfl
  | login payload =>
      simp only [actionHandler, loginHandler]
      split
      · exact noTexts _ rfl
      · split
        · exact noTexts _ rfl
        · refine ⟨trivial, fun answer _ => ?_⟩
          cases answer with
          | error error => exact noTexts _ rfl
          | ok found =>
              cases found with
              | none => exact noTexts _ rfl
              | some user =>
                  dsimp only
                  split
                  · exact noTexts _ rfl
                  · exact noTexts _ rfl
  | getClient id | getProvider id | getRoute id =>
      simp only [actionHandler, getClient, getProvider, getRoute]
      refine (fetchOptional_within ?_ failed_showsRestorable none_showsRestorable _ _
        (fun _ => noTexts _ ?_) _).given
      · trivial
      · rfl
  | listClients | listProviders | listRoutes =>
      simp only [actionHandler, listClients, listProviders, listRoutes]
      refine (list_within ?_ failed_showsRestorable none_showsRestorable _
        fun _ => noTexts _ ?_).given
      · trivial
      · rfl
  | createClient client | createRoute route =>
      exact (create_within trivial failed_showsRestorable (fun _ => noTexts _ rfl) _).given
  | createProvider provider =>
      exact (withProfile_within failed_showsRestorable fun profile _ =>
        create_within trivial failed_showsRestorable (fun _ => noTexts _ rfl) _).given
  | updateProvider id provider =>
      exact (withProfile_within failed_showsRestorable fun profile _ =>
        affect_within trivial failed_showsRestorable (fun _ => noTexts _ rfl) _ _ _).given
  | updateClient id client | deleteClient id | deleteProvider id | updateRoute id route
  | deleteRoute id =>
      exact (affect_within trivial failed_showsRestorable (fun _ => noTexts _ rfl) _ _ _).given

/-- A `HEAD` shows no more than its `GET`. -/
theorem configTexts_strip (method : Method) (response : Response) :
    ∀ text ∈ (method.strip response).configTexts, text ∈ response.configTexts := by
  intro text member
  unfold Method.strip at member
  split at member
  · cases member
  · exact member

/-- Every request stores and shows only what can be restored. -/
theorem requestProgram_restorable (lawful : addresses.Lawful)
    (texts : ConfigTexts crates addresses fromYaml) (state : DashboardState)
    (request : HttpRequest) :
    (requestProgram crates state request).Given (FromRestorable crates fromYaml)
      (Statement.StoresRestorable crates fromYaml)
      fun result => ShowsRestorable crates fromYaml result.2 := by
  have handled : (handleRequest crates state request).Given (FromRestorable crates fromYaml)
      (Statement.StoresRestorable crates fromYaml) (ShowsRestorable crates fromYaml) := by
    unfold handleRequest
    cases dispatch crates request with
    | error rejection =>
        intro response sent text member
        cases sent
        cases configTexts_strip request.method rejection.response text member
    | ok action =>
        apply (actionHandler_restorable lawful texts state request action).map
        intro answer shows response sent text member
        cases answer with
        | none => cases sent
        | some written =>
            cases sent
            exact shows written rfl text (configTexts_strip request.method written text member)
  apply handled.map
  intro answer shows
  exact shows

/-- So does a start. -/
theorem prepareDatabase_restorable (lawful : addresses.Lawful)
    (texts : ConfigTexts crates addresses fromYaml) (salt adminSecret : String) :
    (prepareDatabase crates salt adminSecret).Within (Statement.StoresRestorable crates fromYaml)
      fun _ => True := by
  refine andThen_within ?_ (andThen_within ?_ (andThen_within ?_ (andThen_within ?_ ?_)))
  · refine ifNone_within trivial ?_
    cases crates.hashPassword salt adminSecret with
    | error error => trivial
    | ok passwordHash => exact attempt_within trivial fun _ => trivial
  · refine ifNone_within trivial ?_
    cases written : crates.configToYaml sampleConfig with
    | error error => trivial
    | ok configData =>
        exact attempt_within (sample_restorable lawful texts written) fun _ => trivial
  · exact ifNone_within trivial (attempt_within trivial fun _ => trivial)
  · refine ifNone_within trivial ?_
    cases crates.profileToJson {} with
    | error error => trivial
    | ok capabilityProfile => exact attempt_within trivial fun _ => trivial
  · refine ifNone_within trivial (attempt_within trivial fun _ => ?_)
    exact attempt_within trivial fun routeId => attempt_within trivial fun _ => trivial

/-- These are the rules that carry a history of the dashboard. -/
theorem configRules (lawful : addresses.Lawful) (texts : ConfigTexts crates addresses fromYaml) :
    Rules crates (AllRestorable crates fromYaml) (Statement.StoresRestorable crates fromYaml)
      (FromRestorable crates fromYaml) fun result => ShowsRestorable crates fromYaml result.2 where
  migrated _ := nofun
  served statement served _ stores restorable :=
    ⟨restorable.serve stores served, restorable.answer statement served⟩
  started salt adminSecret := (prepareDatabase_restorable lawful texts salt adminSecret).given
  handled state request := requestProgram_restorable lawful texts state request

/-! ### The whole history -/

/-- Every version that is stored or shown is restorable, and what is stored stays. -/
def KeepsConfigs (crates : DashboardCrates) (fromYaml : String → Except String AppConfig)
    (moves more : List WorldMove) : Prop :=
  (∀ database, (World.run crates moves).file = some database →
    (∀ row ∈ database.configVersions.rows, Restorable crates fromYaml row.configData) ∧
    ∃ later, (World.run crates (moves ++ more)).file = some later ∧
      database.configVersions.rows <+: later.configVersions.rows) ∧
  ∀ state pool, World.run crates moves = .serving state pool →
    ∀ request response, (request, some response) ∈ pool.finished →
      ∀ text ∈ response.configTexts, Restorable crates fromYaml text

/-- In every history of the dashboard, over any number of starts and requests, each stored version can be
restored and stays, and so can each text of a configuration that is ever shown. -/
theorem config_history (lawful : addresses.Lawful) (texts : ConfigTexts crates addresses fromYaml)
    (moves more : List WorldMove) : KeepsConfigs crates fromYaml moves more := by
  have obeys := (configRules lawful texts).run moves
  constructor
  · intro database isFile
    exact ⟨obeys.file database isFile, configVersions_grow crates moves more isFile⟩
  · intro state pool serving request response member
    rw [serving] at obeys
    exact obeys.2.finished _ member response rfl

end History

/-! ### The sample, stored again -/

deriving instance DecidableEq for ProviderConfig, AppConfig

/-- The sample as `serde_yaml` writes it. -/
def sampleYaml : String :=
  String.join (
    ["server:", "  bind: 0.0.0.0:8082", "  metrics_bind: 127.0.0.1:9090",
      "  max_body_bytes: 16777216", "  shutdown_grace_seconds: 30",
      "  require_anthropic_version: true", "  loose_input_validation: false",
      "limits:", "  global_concurrency: 512", "  connect_timeout_ms: 5000",
      "  request_timeout_seconds: 120", "  stream_idle_timeout_seconds: 60", "  max_attempts: 2",
      "  circuit_failure_threshold: 5", "  circuit_cooldown_seconds: 30",
      "clients:", "- id: engineering", "  key:", "    env: PROXY_CLIENT_KEY",
      "  allowed_routes:", "  - sonnet", "  - haiku", "  requests_per_minute: 600",
      "  concurrent_requests: 100",
      "providers:", "- id: openai", "  kind: openai_chat",
      "  endpoint: https://api.openai.com/v1", "  credential:", "    type: bearer",
      "    secret:", "      env: OPENAI_API_KEY", "  headers: \x7b\x7d", "  capability_profile:",
      "    tokenizer: o200k_base", "    vision: true", "    tools: true",
      "    parallel_tools: true", "    supports_temperature: true", "    supports_top_p: true",
      "    supports_stop: true", "    max_output_tokens: 16384",
      "    use_max_completion_tokens: false", "    allow_max_tokens_clamping: false",
      "    allow_temperature_fallback: false", "    allow_top_p_fallback: false",
      "    allow_stop_fallback: false", "    allow_parallel_tool_fallback: false",
      "    allow_structured_tool_results_to_string: false", "  allow_insecure_http: false",
      "routes:", "- id: sonnet", "  models:", "  - claude-*-sonnet-*", "  - claude-sonnet-*",
      "  targets:", "  - provider: openai", "    model: gpt-4.1", "    priority: 1",
      "    weight: 100",
      "- id: haiku", "  models:", "  - claude-*-haiku-*", "  - claude-haiku-*",
      "  targets:", "  - provider: openai", "    model: gpt-4.1-mini", "    priority: 1",
      "    weight: 100"].map fun line => line ++ "\n")

def sampleCrates : DashboardCrates :=
  { officeDashboard with
    jsonValue := fun _ => .ok sampleValue
    configFromValue := fun value =>
      match AppConfig.fromValue defaultAddresses value with
      | some config => .ok config
      | none => .error "invalid type"
    configToYaml := fun config =>
      if config = sampleConfig then .ok sampleYaml else .error "not the sample" }

def sampleFromYaml (text : String) : Except String AppConfig :=
  if text = sampleYaml then .ok sampleConfig else .error "not the sample"

/-- The sample's texts are those of its configurations. -/
theorem sampleCrates_texts : ConfigTexts sampleCrates defaultAddresses sampleFromYaml where
  fromValue value config read := by
    simp only [sampleCrates] at read
    split at read
    · cases read
      assumption
    · cases read
  toYaml config text read written again := by
    simp only [sampleCrates] at written
    split at written
    · rename_i isSample
      cases written
      rw [isSample] at again
      have stable := AppConfig.stable defaultAddresses_lawful sampleValue sampleConfig
        (sampleValue_read defaultAddresses)
      rw [again] at stable
      cases stable
      exact if_pos rfl
    · cases written

/-- The process starts on an empty file and stores the sample; a request then stores it once more. -/
def storingMoves : List WorldMove :=
  .launch "salt" "secret" :: List.replicate 16 (.advance undisturbed) ++
    [.request (.start { method := .post, path := ["api", "config"] }),
      .request (.advance 0 undisturbed), .request (.advance 0 undisturbed),
      .request (.advance 0 undisturbed)]

/-- The sample stores two versions, and then the process starts anew. -/
theorem config_history_sample :
    KeepsConfigs sampleCrates sampleFromYaml storingMoves [.stop, .launch "pepper" "secret"] :=
  config_history defaultAddresses_lawful sampleCrates_texts _ _

example : ((World.run sampleCrates storingMoves).file.map fun database =>
    database.configVersions.rows.map (·.version)) = some [1, 2] := by
  decide +kernel

end ClaudeProxy.Dashboard
