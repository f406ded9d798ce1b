/-
Module: ClaudeProxy.Proofs.StoreMap
Layer: Proofs
Purpose: The tables of clients, providers and routes as finite maps by id. The handlers do to the rows
  what the calls ask of the maps, but for two creations whose `INSERT` leaves out columns that must not
  be NULL, and for lists whose items do not survive a column with commas between them.
Trusted boundary: none
Main exports: Plain, StoreMaps, Database.maps, StoreRequest, StoreRequest.handler, Refines,
  StoreRequest.Sound, store_refines_iff
-/
import ClaudeProxy.Library.Run
import ClaudeProxy.Proofs.DashboardAccess
import ClaudeProxy.Proofs.StoreKeys

namespace ClaudeProxy.Dashboard

open Library

/-! ### Lists in one column -/

/-- What is split at a symbol has it in no piece. -/
theorem not_mem_of_mem_splitOn {text : List Char} {piece : List Char} {symbol : Char}
    (member : piece ∈ text.splitOn symbol) : symbol ∉ piece := by
  induction text generalizing piece with
  | nil =>
      rw [List.splitOn_nil, List.mem_singleton] at member
      simp [member]
  | cons head text inductionHypothesis =>
      rw [List.splitOn_cons_eq_if_modifyHead] at member
      by_cases same : (head == symbol) = true
      · rw [if_pos same] at member
        rcases List.mem_cons.mp member with first | later
        · simp [first]
        · exact inductionHypothesis later
      · rw [if_neg same] at member
        cases split : text.splitOn symbol with
        | nil => exact absurd split (List.splitOn_ne_nil symbol text)
        | cons first rest =>
            rw [split] at member inductionHypothesis
            rcases List.mem_cons.mp member with isFirst | later
            · rw [isFirst, List.mem_cons, not_or]
              constructor
              · intro here
                exact same (beq_iff_eq.mpr here.symm)
              · exact inductionHypothesis List.mem_cons_self
            · exact inductionHypothesis (List.mem_cons_of_mem _ later)

/-- What comes back from a column of items with commas between them. -/
def Plain (items : List String) : Prop :=
  ∀ item ∈ items, item ≠ "" ∧ trim item = item ∧ ',' ∉ item.toList

instance (items : List String) : Decidable (Plain items) :=
  inferInstanceAs (Decidable (∀ item ∈ items, item ≠ "" ∧ trim item = item ∧ ',' ∉ item.toList))

/-- The items of a column have no commas and are not empty. -/
theorem splitCommaSeparated_plain (value : String) : Plain (splitCommaSeparated value) := by
  intro item member
  obtain ⟨listed, notEmpty⟩ := List.mem_filter.mp member
  obtain ⟨piece, isPiece, trimmed⟩ := List.mem_map.mp listed
  subst trimmed
  refine ⟨by simpa using notEmpty, trim_trim _, ?_⟩
  intro comma
  have inside := mem_of_mem_trim comma
  rw [String.toList_ofList] at inside
  exact not_mem_of_mem_splitOn isPiece inside

/-- Such items are read as they were written. -/
theorem splitCommaSeparated_intercalate {items : List String} (plain : Plain items) :
    splitCommaSeparated (String.intercalate "," items) = items := by
  cases items with
  | nil => decide
  | cons first rest =>
      have comma : ",".toList = [','] := rfl
      unfold splitCommaSeparated
      rw [String.toList_intercalate, comma, List.splitOn_intercalate]
      · rw [List.map_map]
        have trimmed : (first :: rest).map
            ((fun piece => trim (String.ofList piece)) ∘ String.toList) = first :: rest := by
          apply (List.map_congr_left _).trans (List.map_id _)
          intro item member
          rw [Function.comp_apply, String.ofList_toList]
          exact (plain item member).2.1
        rw [trimmed]
        apply List.filter_eq_self.mpr
        intro item member
        simpa using (plain item member).1
      · intro piece member
        obtain ⟨item, itemMember, isItem⟩ := List.mem_map.mp member
        rw [← isItem]
        exact (plain item itemMember).2.2
      · simp

/-- A list comes back from a column exactly when its items are plain. -/
theorem splitCommaSeparated_intercalate_iff {items : List String} :
    splitCommaSeparated (String.intercalate "," items) = items ↔ Plain items := by
  constructor
  · intro same
    have plain := splitCommaSeparated_plain (String.intercalate "," items)
    rw [same] at plain
    exact plain
  · exact splitCommaSeparated_intercalate

/-! ### The maps -/

def ClientRow.shown (row : ClientRow) : DbClient :=
  { id := row.clientId, allowedRoutes := splitCommaSeparated row.allowedRoutes
    requestsPerMinute := row.requestsPerMinute, concurrentRequests := row.concurrentRequests }

structure StoreMaps where
  clients : FiniteMap String DbClient
  providers : FiniteMap String DbProvider
  routes : FiniteMap String DbRoute

def Database.maps (database : Database) : StoreMaps where
  clients := tableMap ClientRow.clientId ClientRow.shown database.clients.rows
  providers := tableMap ProviderRow.providerId rowToProvider database.providers.rows
  routes := tableMap RouteRow.routeId rowToRoute database.routes.rows

/-- Of a posted client, its row exposes all but the key. -/
def clientSchema : Schema String ClientConfig DbClient where
  postedKey := ClientConfig.id
  record id posted :=
    { id := id, allowedRoutes := posted.allowedRoutes
      requestsPerMinute := posted.requestsPerMinute
      concurrentRequests := posted.concurrentRequests }
  recordKey := DbClient.id

/-- Of a posted provider, its row exposes all but the credential and the headers. -/
def providerSchema (toJson : CapabilityProfile → String) :
    Schema String ProviderConfig DbProvider where
  postedKey := ProviderConfig.id
  record id posted :=
    { id := id, kind := posted.kind.display, endpoint := posted.endpoint
      capabilityProfile := toJson posted.capabilityProfile
      allowInsecureHttp := posted.allowInsecureHttp }
  recordKey := DbProvider.id

/-- Of a posted route, its row exposes all but the targets. -/
def routeSchema : Schema String RouteConfig DbRoute where
  postedKey := RouteConfig.id
  record id posted := { id := id, models := posted.models }
  recordKey := DbRoute.id

/-! ### Requests -/

inductive StoreRequest where
  | client (call : StoreCall String ClientConfig)
  | provider (call : StoreCall String ProviderConfig)
  | route (call : StoreCall String RouteConfig)

/-- A response that tells what a reply does; the texts are left aside. -/
def Tells {Record : Type} (one : Record → Data) (many : List Record → Data)
    (response : Option Response) : StoreReply Record → Prop
  | .accepted => ∃ text, response = some (shownAnswer (.text text))
  | .refused => ∃ text, response = some (failedAnswer text)
  | .found record => response = some (shownAnswer (one record))
  | .listed records => response = some (shownAnswer (many records))

namespace StoreRequest

def handler (crates : DashboardCrates) : StoreRequest → Handler
  | .client (.create posted) => createClient crates posted
  | .client (.update id posted) => updateClient crates id posted
  | .client (.delete id) => deleteClient crates id
  | .client (.get id) => getClient crates id
  | .client .list => listClients crates
  | .provider (.create posted) => createProvider crates posted
  | .provider (.update id posted) => updateProvider crates id posted
  | .provider (.delete id) => deleteProvider crates id
  | .provider (.get id) => getProvider crates id
  | .provider .list => listProviders crates
  | .route (.create posted) => createRoute crates posted
  | .route (.update id posted) => updateRoute crates id posted
  | .route (.delete id) => deleteRoute crates id
  | .route (.get id) => getRoute crates id
  | .route .list => listRoutes crates

/-- The limits of a client are `u32`. -/
def Typed : StoreRequest → Prop
  | .client (.create posted) | .client (.update _ posted) =>
      posted.requestsPerMinute < 2 ^ 32 ∧ posted.concurrentRequests < 2 ^ 32
  | _ => True

variable (toJson : CapabilityProfile → String) (maps : StoreMaps)

/-- The finite maps after a request. -/
def after : StoreRequest → StoreMaps
  | .client call => { maps with clients := clientSchema.after maps.clients call }
  | .provider call => { maps with providers := (providerSchema toJson).after maps.providers call }
  | .route call => { maps with routes := routeSchema.after maps.routes call }

/-- The response is what the finite maps say. -/
def Answers (response : Option Response) : StoreRequest → Prop
  | .client call => ∃ reply, clientSchema.Replies maps.clients call reply ∧
      Tells .client .clients response reply
  | .provider call => ∃ reply, (providerSchema toJson).Replies maps.providers call reply ∧
      Tells .provider .providers response reply
  | .route call => ∃ reply, routeSchema.Replies maps.routes call reply ∧
      Tells .route .routes response reply

/-- A creation under a new id is of a route, and a list that is stored is plain. -/
def Sound (database : Database) : StoreRequest → Prop
  | .client (.create posted) => database.clients.rows.any (·.clientId == posted.id) = true
  | .client (.update id posted) =>
      database.clients.rows.any (·.clientId == id) = true → Plain posted.allowedRoutes
  | .provider (.create posted) =>
      database.providers.rows.any (·.providerId == posted.id) = true
  | .route (.create posted) =>
      database.routes.rows.any (·.routeId == posted.id) = false → Plain posted.models
  | .route (.update id posted) =>
      database.routes.rows.any (·.routeId == id) = true → Plain posted.models
  | _ => True

end StoreRequest

/-- A request and the clock of the database when it is served. -/
abbrev StoreMove := StoreRequest × String

/-- The handler run alone, without an error of the database. -/
def StoreMove.serve (crates : DashboardCrates) (database : Database) (move : StoreMove) :
    Option Response × Database :=
  (move.1.handler crates).alone Database.serve { now := move.2 } database

/-- All along a run the rows are what the finite maps are, and the responses what these say. -/
def Refines (crates : DashboardCrates) (toJson : CapabilityProfile → String) :
    Database → StoreMaps → List StoreMove → Prop
  | database, maps, [] => database.maps = maps
  | database, maps, move :: rest =>
      database.maps = maps ∧
        move.1.Answers toJson maps (StoreMove.serve crates database move).1 ∧
        Refines crates toJson (StoreMove.serve crates database move).2 (move.1.after toJson maps) rest

/-! ### Replies -/

section Replies

variable {Key Posted Record Row : Type} [DecidableEq Key] {schema : Schema Key Posted Record}
  {map : FiniteMap Key Record} {one : Record → Data} {many : List Record → Data}

/-- The texts of success and of failure stand for the replies. -/
theorem tells_when {condition : Prop} [Decidable condition] {done missing : String} :
    Tells one many (some (if condition then shownAnswer (.text done) else failedAnswer missing))
      (.when condition) := by
  by_cases holds : condition
  · simp only [holds, if_true, StoreReply.when]
    exact ⟨done, rfl⟩
  · simp only [holds, if_false, StoreReply.when]
    exact ⟨missing, rfl⟩

/-- A failure tells that a condition does not hold. -/
theorem tells_failed_iff {condition : Prop} [Decidable condition] {text : String} :
    Tells one many (some (failedAnswer text)) (.when condition) ↔ ¬ condition := by
  by_cases holds : condition
  · simp only [holds, StoreReply.when, if_true, not_true, iff_false]
    rintro ⟨other, same⟩
    cases same
  · simp only [holds, StoreReply.when, if_false, not_false_iff, iff_true]
    exact ⟨text, rfl⟩

/-- A record or its absence is told. -/
theorem tells_ofOption {found : Option Record} {missing : String} :
    Tells one many
      (some (match found with
        | some record => shownAnswer (one record)
        | none => failedAnswer missing))
      (.ofOption found) := by
  cases found with
  | none => exact ⟨missing, rfl⟩
  | some record => rfl

/-- A response and the map after it are what a call asks for. -/
def Agrees (schema : Schema Key Posted Record) (one : Record → Data) (many : List Record → Data)
    (map : FiniteMap Key Record) (call : StoreCall Key Posted) (response : Option Response)
    (after : FiniteMap Key Record) : Prop :=
  (∃ reply, schema.Replies map call reply ∧ Tells one many response reply) ∧
    after = schema.after map call

/-- A creation that always fails is right when the key is there. -/
theorem agrees_create_refused {posted : Posted} {text : String} :
    Agrees schema one many map (.create posted) (some (failedAnswer text)) map ↔
      schema.postedKey posted ∈ map := by
  constructor
  · rintro ⟨⟨reply, isReply, told⟩, _⟩
    change reply = _ at isReply
    rw [isReply] at told
    exact not_not.mp (tells_failed_iff.mp told)
  · intro present
    refine ⟨⟨_, rfl, tells_failed_iff.mpr (not_not.mpr present)⟩, ?_⟩
    simp only [Schema.after, if_pos present]

/-- A creation under a new key is right when what is stored is what was posted. -/
theorem agrees_create {posted : Posted} {stored : Record} {text : String}
    (fresh : schema.postedKey posted ∉ map) :
    Agrees schema one many map (.create posted) (some (shownAnswer (.text text)))
        (map.insert (schema.postedKey posted) stored) ↔
      stored = schema.record (schema.postedKey posted) posted := by
  simp only [Agrees, Schema.after, if_neg fresh, insert_inj]
  constructor
  · rintro ⟨_, same⟩
    exact same
  · intro same
    refine ⟨⟨_, rfl, ?_⟩, same⟩
    simp only [StoreReply.when, if_pos fresh]
    exact ⟨text, rfl⟩

/-- A look at a key agrees with a look into the map. -/
theorem agrees_get {key : Key} {missing : String} :
    Agrees schema one many map (.get key)
      (some (match map.lookup key with
        | some record => shownAnswer (one record)
        | none => failedAnswer missing)) map :=
  ⟨⟨_, rfl, tells_ofOption⟩, rfl⟩

variable (rowKey : Row → Key) (shown : Row → Record) {rows : List Row} {wanted : Key}
  {done missing : String}

/-- The number of affected rows tells whether the key is there. -/
theorem tells_affected :
    Tells one many
      (some (if 0 < (rows.filter (rowKey · == wanted)).length then shownAnswer (.text done)
        else failedAnswer missing))
      (.when (wanted ∈ tableMap rowKey shown rows)) := by
  simp only [@filter_pos_iff_mem _ _ _ _ rowKey shown]
  exact tells_when

/-- An update is right when the key is missing or what is stored is what was posted. -/
theorem agrees_update (change : Row → Row) {posted : Posted} {stored : Record}
    (kept : ∀ row, rowKey (change row) = rowKey row)
    (changed : ∀ row, rowKey row = wanted → shown (change row) = stored) :
    Agrees schema one many (tableMap rowKey shown rows) (.update wanted posted)
        (some (if 0 < (rows.filter (rowKey · == wanted)).length then shownAnswer (.text done)
          else failedAnswer missing))
        (tableMap rowKey shown
          (rows.map fun row => if rowKey row == wanted then change row else row)) ↔
      (rows.any (rowKey · == wanted) = true → stored = schema.record wanted posted) := by
  rw [tableMap_change kept changed, ← @mem_tableMap _ _ _ _ rowKey shown]
  have told : ∃ reply,
      schema.Replies (tableMap rowKey shown rows) (.update wanted posted) reply ∧
        Tells one many
          (some (if 0 < (rows.filter (rowKey · == wanted)).length then shownAnswer (.text done)
            else failedAnswer missing)) reply :=
    ⟨_, rfl, tells_affected rowKey shown⟩
  by_cases present : wanted ∈ tableMap rowKey shown rows
  · simp only [Agrees, Schema.after, if_pos present, insert_inj]
    constructor
    · rintro ⟨_, same⟩ _
      exact same
    · intro same
      exact ⟨told, same present⟩
  · simp only [Agrees, Schema.after, if_neg present]
    constructor
    · intro _ isPresent
      exact absurd isPresent present
    · intro _
      exact ⟨told, trivial⟩

/-- So does a deletion, by the number of its rows. -/
theorem agrees_delete :
    Agrees schema one many (tableMap rowKey shown rows) (.delete wanted)
      (some (if 0 < (rows.filter (rowKey · == wanted)).length then shownAnswer (.text done)
        else failedAnswer missing))
      (tableMap rowKey shown (rows.filter fun row => !(rowKey row == wanted))) :=
  ⟨⟨_, rfl, tells_affected rowKey shown⟩, tableMap_remove⟩

/-- A list of rows under distinct keys. -/
theorem agrees_list (distinct : (rows.map rowKey).Nodup)
    (keyed : ∀ row, schema.recordKey (shown row) = rowKey row) :
    Agrees schema one many (tableMap rowKey shown rows) .list
      (some (shownAnswer (many (rows.map shown)))) (tableMap rowKey shown rows) := by
  refine ⟨⟨.listed (rows.map shown), ⟨rows.map shown, rfl, ?_⟩, rfl⟩, rfl⟩
  rw [entries_tableMap distinct, List.map_map]
  congr 1
  apply List.map_congr_left
  intro row _
  rw [Function.comp_apply, keyed]

end Replies

/-! ### One request -/

/-- What an update leaves in the row of a client, and what the row shows then. -/
def ClientConfig.write (posted : ClientConfig) (row : ClientRow) : ClientRow :=
  { row with
    allowedRoutes := String.intercalate "," posted.allowedRoutes
    requestsPerMinute := posted.requestsPerMinute
    concurrentRequests := posted.concurrentRequests }

def ClientConfig.stored (id : String) (posted : ClientConfig) : DbClient :=
  { clientSchema.record id posted with
    allowedRoutes := splitCommaSeparated (String.intercalate "," posted.allowedRoutes) }

/-- A client is stored as it was posted exactly if its routes are plain. -/
theorem client_stored_iff {id : String} {posted : ClientConfig} :
    ClientConfig.stored id posted = clientSchema.record id posted ↔ Plain posted.allowedRoutes := by
  rw [← splitCommaSeparated_intercalate_iff]
  simp [ClientConfig.stored, clientSchema]

/-- An update writes what a creation stores. -/
theorem client_written {id : String} {posted : ClientConfig} (row : ClientRow)
    (isId : row.clientId = id) :
    (ClientConfig.write posted row).shown = ClientConfig.stored id posted := by
  subst isId
  rfl

def ProviderConfig.write (profile : String) (posted : ProviderConfig) (row : ProviderRow) :
    ProviderRow :=
  { row with
    kind := posted.kind.display
    endpoint := posted.endpoint
    capabilityProfile := profile
    allowInsecureHttp := posted.allowInsecureHttp }

def RouteConfig.write (posted : RouteConfig) (row : RouteRow) : RouteRow :=
  { row with models := String.intercalate "," posted.models }

def RouteConfig.stored (id : String) (posted : RouteConfig) : DbRoute :=
  { id := id, models := splitCommaSeparated (String.intercalate "," posted.models) }

/-- A route is stored as it was posted exactly if its models are plain. -/
theorem route_stored_iff {id : String} {posted : RouteConfig} :
    RouteConfig.stored id posted = routeSchema.record id posted ↔ Plain posted.models := by
  rw [← splitCommaSeparated_intercalate_iff]
  simp [RouteConfig.stored, routeSchema]

/-- So does an update of a route. -/
theorem route_written {id : String} {posted : RouteConfig} (row : RouteRow)
    (isId : row.routeId = id) :
    rowToRoute (RouteConfig.write posted row) = RouteConfig.stored id posted := by
  subst isId
  rfl

section OneRequest

variable {crates : DashboardCrates} {database : Database} {now : String}

/-- A request on clients agrees with their map when it is sound, and leaves the others alone. -/
theorem client_agrees (keyed : database.Keyed) (call : StoreCall String ClientConfig) :
    (Agrees clientSchema .client .clients database.maps.clients call
        (StoreMove.serve crates database (.client call, now)).1
        (StoreMove.serve crates database (.client call, now)).2.maps.clients ↔
      (StoreRequest.client call).Sound database) ∧
    (StoreMove.serve crates database (.client call, now)).2.providers = database.providers ∧
    (StoreMove.serve crates database (.client call, now)).2.routes = database.routes := by
  have readable : ∀ row ∈ database.clients.rows, rowToClient row = some row.shown := by
    intro row member
    obtain ⟨requests, concurrent⟩ := keyed.bounded row member
    simp only [rowToClient, getU32, if_pos requests, if_pos concurrent]
    rfl
  cases call with
  | create posted =>
      have outcome : StoreMove.serve crates database (.client (.create posted), now) =
          (some (failedAnswer _), database) := create_refused rfl _
      rw [outcome]
      exact ⟨agrees_create_refused.trans mem_tableMap, rfl, rfl⟩
  | update id posted =>
      have outcome : StoreMove.serve crates database (.client (.update id posted), now) = _ :=
        @affect_alone crates (.updateClient id (String.intercalate "," posted.allowedRoutes)
          posted.requestsPerMinute posted.concurrentRequests) now database _ _ rfl
          (fun affected => affected) _ _
      rw [outcome]
      refine ⟨?_, rfl, rfl⟩
      exact (agrees_update ClientRow.clientId ClientRow.shown (ClientConfig.write posted)
        (fun _ => rfl) client_written).trans (imp_congr_right fun _ => client_stored_iff)
  | delete id =>
      have outcome : StoreMove.serve crates database (.client (.delete id), now) = _ :=
        @affect_alone crates (.deleteClient id) now database _ _ rfl (fun affected => affected) _ _
      rw [outcome]
      exact ⟨iff_of_true (agrees_delete ClientRow.clientId ClientRow.shown) trivial, rfl, rfl⟩
  | get id =>
      have outcome : StoreMove.serve crates database (.client (.get id), now) = _ :=
        @fetchOptional_alone crates (.selectClient id) now database _ _ _ _ rfl (fun row => row)
          rowToClient ClientRow.shown
          (fun row found => readable row (List.mem_of_find?_eq_some found)) .client
          "Client not found"
      rw [outcome, ← @lookup_tableMap _ _ _ _ ClientRow.clientId ClientRow.shown]
      exact ⟨iff_of_true agrees_get trivial, rfl, rfl⟩
  | list =>
      have listed : database.clients.rows.mapM rowToClient =
          some (database.clients.rows.map ClientRow.shown) := by
        apply Except.mapM_eq_some.mpr
        rw [List.forall₂_map_right_iff, List.forall₂_same]
        exact readable
      have outcome : StoreMove.serve crates database (.client .list, now) = _ :=
        @list_alone crates .selectClients now database _ _ _ rfl (fun rows => rows.mapM rowToClient)
          _ listed .clients
      rw [outcome]
      refine ⟨?_, rfl, rfl⟩
      apply iff_of_true _ trivial
      exact agrees_list ClientRow.clientId ClientRow.shown keyed.clients fun _ => rfl

/-- Where profiles can be written, the rest follows. -/
theorem withProfile_eq {toJson : CapabilityProfile → String}
    (serializes : ∀ profile, crates.profileToJson profile = .ok (toJson profile))
    (provider : ProviderConfig) (next : String → Handler) :
    withProfile crates provider next = next (toJson provider.capabilityProfile) := by
  simp only [withProfile, serializes]

/-- A call for a provider agrees with the map of providers exactly if it is sound, and touches no
other table. -/
theorem provider_agrees {toJson : CapabilityProfile → String}
    (serializes : ∀ profile, crates.profileToJson profile = .ok (toJson profile))
    (keyed : database.Keyed) (call : StoreCall String ProviderConfig) :
    (Agrees (providerSchema toJson) .provider .providers database.maps.providers call
        (StoreMove.serve crates database (.provider call, now)).1
        (StoreMove.serve crates database (.provider call, now)).2.maps.providers ↔
      (StoreRequest.provider call).Sound database) ∧
    (StoreMove.serve crates database (.provider call, now)).2.clients = database.clients ∧
    (StoreMove.serve crates database (.provider call, now)).2.routes = database.routes := by
  cases call with
  | create posted =>
      obtain ⟨text, outcome⟩ : ∃ text,
          StoreMove.serve crates database (.provider (.create posted), now) =
            (some (failedAnswer text), database) := by
        simp only [StoreMove.serve, StoreRequest.handler, createProvider, withProfile_eq serializes]
        exact ⟨_, create_refused rfl _⟩
      rw [outcome]
      exact ⟨agrees_create_refused.trans mem_tableMap, rfl, rfl⟩
  | update id posted =>
      have handles : updateProvider crates id posted =
          affect crates (.updateProvider id posted.kind.display posted.endpoint
            (toJson posted.capabilityProfile) posted.allowInsecureHttp) (fun affected => affected)
            "Provider updated successfully" "Provider not found" :=
        withProfile_eq serializes posted _
      have outcome : StoreMove.serve crates database (.provider (.update id posted), now) = _ :=
        (congrArg (fun handler : Handler =>
          handler.alone Database.serve { now := now } database) handles).trans
          (affect_alone rfl _ _ _)
      have shows : ∀ row : ProviderRow, row.providerId = id →
          rowToProvider (ProviderConfig.write (toJson posted.capabilityProfile) posted row) =
            (providerSchema toJson).record id posted := by
        intro row isId
        subst isId
        rfl
      rw [outcome]
      refine ⟨?_, rfl, rfl⟩
      exact (agrees_update ProviderRow.providerId rowToProvider
        (ProviderConfig.write (toJson posted.capabilityProfile) posted) (fun _ => rfl) shows).trans
        (iff_of_true (fun _ => rfl) trivial)
  | delete id =>
      have outcome : StoreMove.serve crates database (.provider (.delete id), now) = _ :=
        @affect_alone crates (.deleteProvider id) now database _ _ rfl (fun affected => affected) _ _
      rw [outcome]
      exact ⟨iff_of_true (agrees_delete ProviderRow.providerId rowToProvider) trivial, rfl, rfl⟩
  | get id =>
      have outcome : StoreMove.serve crates database (.provider (.get id), now) = _ :=
        @fetchOptional_alone crates (.selectProvider id) now database _ _ _ _ rfl (fun row => row)
          (fun row => some (rowToProvider row)) rowToProvider (fun _ _ => rfl) .provider
          "Provider not found"
      rw [outcome, ← @lookup_tableMap _ _ _ _ ProviderRow.providerId rowToProvider]
      exact ⟨iff_of_true agrees_get trivial, rfl, rfl⟩
  | list =>
      have outcome : StoreMove.serve crates database (.provider .list, now) = _ :=
        @list_alone crates .selectProviders now database _ _ _ rfl
          (fun rows => some (rows.map rowToProvider)) _ rfl .providers
      rw [outcome]
      refine ⟨?_, rfl, rfl⟩
      apply iff_of_true _ trivial
      exact agrees_list ProviderRow.providerId rowToProvider keyed.providers fun _ => rfl

/-- A route under a known id is refused, and one under a new id is stored. -/
theorem route_create_cases (posted : RouteConfig) :
    (database.routes.rows.any (·.routeId == posted.id) = true ∧
      ∃ text, StoreMove.serve crates database (.route (.create posted), now) =
        (some (failedAnswer text), database)) ∨
    (database.routes.rows.any (·.routeId == posted.id) = false ∧
      ∃ text, ∃ routes : Table RouteRow,
        StoreMove.serve crates database (.route (.create posted), now) =
          (some (shownAnswer (.text text)), { database with routes := routes }) ∧
        posted.id ∉ database.maps.routes ∧
        tableMap RouteRow.routeId rowToRoute routes.rows =
          database.maps.routes.insert posted.id (RouteConfig.stored posted.id posted)) := by
  cases any : database.routes.rows.any (·.routeId == posted.id) with
  | true =>
      have refused : (Statement.insertRoute posted.id
          (String.intercalate "," posted.models)).execute now database =
            .error (.unique "routes.route_id") := by
        simp only [Statement.execute, Database.insertRoute, refuse, any, if_true]
        rfl
      exact .inl ⟨rfl, _, create_refused refused _⟩
  | false =>
      have inserted : (Statement.insertRoute posted.id
          (String.intercalate "," posted.models)).execute now database =
            .ok ((), { database with
              routes := database.routes.insert fun key =>
                { id := key, routeId := posted.id, models := String.intercalate "," posted.models
                  createdAt := now, updatedAt := now } }) := by
        simp only [Statement.execute, Database.insertRoute, refuse, any]
        rfl
      have fresh : posted.id ∉ database.maps.routes := by
        intro present
        have found := mem_tableMap.mp present
        rw [any] at found
        cases found
      have grown := @tableMap_append _ _ _ _ RouteRow.routeId rowToRoute database.routes.rows
        { id := database.routes.sequence + 1, routeId := posted.id
          models := String.intercalate "," posted.models, createdAt := now, updatedAt := now }
        fresh
      exact .inr ⟨rfl, _, _, create_alone inserted _, fresh, grown⟩

/-- A call for a route agrees with the map of routes exactly if it is sound, which asks for models
that are plain. -/
theorem route_agrees (keyed : database.Keyed) (call : StoreCall String RouteConfig) :
    (Agrees routeSchema .route .routes database.maps.routes call
        (StoreMove.serve crates database (.route call, now)).1
        (StoreMove.serve crates database (.route call, now)).2.maps.routes ↔
      (StoreRequest.route call).Sound database) ∧
    (StoreMove.serve crates database (.route call, now)).2.clients = database.clients ∧
    (StoreMove.serve crates database (.route call, now)).2.providers = database.providers := by
  cases call with
  | create posted =>
      rcases @route_create_cases crates database now posted with
        ⟨known, text, outcome⟩ | ⟨unknown, text, routes, outcome, fresh, grown⟩
      · rw [outcome]
        refine ⟨?_, rfl, rfl⟩
        apply iff_of_true
        · exact agrees_create_refused.mpr (mem_tableMap.mpr known)
        · intro isUnknown
          rw [known] at isUnknown
          cases isUnknown
      · have stored : RouteConfig.stored posted.id posted = routeSchema.record posted.id posted ↔
            (StoreRequest.route (.create posted)).Sound database := by
          rw [route_stored_iff]
          exact ⟨fun plain _ => plain, fun sound => sound unknown⟩
        rw [outcome]
        refine ⟨?_, rfl, rfl⟩
        apply (iff_of_eq (congrArg _ grown)).trans
        exact (@agrees_create _ _ _ _ routeSchema _ _ _ posted _ _ fresh).trans stored
  | update id posted =>
      have outcome : StoreMove.serve crates database (.route (.update id posted), now) = _ :=
        @affect_alone crates (.updateRoute id (String.intercalate "," posted.models)) now database
          _ _ rfl (fun affected => affected) _ _
      rw [outcome]
      refine ⟨?_, rfl, rfl⟩
      exact (agrees_update RouteRow.routeId rowToRoute (RouteConfig.write posted)
        (fun _ => rfl) route_written).trans (imp_congr_right fun _ => route_stored_iff)
  | delete id =>
      have outcome : StoreMove.serve crates database (.route (.delete id), now) = _ :=
        @affect_alone crates (.deleteRoute id) now database _ _ rfl (fun affected => affected) _ _
      rw [outcome]
      exact ⟨iff_of_true (agrees_delete RouteRow.routeId rowToRoute) trivial, rfl, rfl⟩
  | get id =>
      have outcome : StoreMove.serve crates database (.route (.get id), now) = _ :=
        @fetchOptional_alone crates (.selectRoute id) now database _ _ _ _ rfl (fun row => row)
          (fun row => some (rowToRoute row)) rowToRoute (fun _ _ => rfl) .route "Route not found"
      rw [outcome, ← @lookup_tableMap _ _ _ _ RouteRow.routeId rowToRoute]
      exact ⟨iff_of_true agrees_get trivial, rfl, rfl⟩
  | list =>
      have outcome : StoreMove.serve crates database (.route .list, now) = _ :=
        @list_alone crates .selectRoutes now database _ _ _ rfl
          (fun rows => some (rows.map rowToRoute)) _ rfl .routes
      rw [outcome]
      refine ⟨?_, rfl, rfl⟩
      apply iff_of_true _ trivial
      exact agrees_list RouteRow.routeId rowToRoute keyed.routes fun _ => rfl

/-- What a request is answered with, and leaves behind, is what the maps say exactly when it is
sound. -/
theorem request_agrees_iff {toJson : CapabilityProfile → String}
    (serializes : ∀ profile, crates.profileToJson profile = .ok (toJson profile))
    (keyed : database.Keyed) (move : StoreMove) :
    (move.1.Answers toJson database.maps (StoreMove.serve crates database move).1 ∧
        (StoreMove.serve crates database move).2.maps = move.1.after toJson database.maps) ↔
      move.1.Sound database := by
  obtain ⟨request, now⟩ := move
  cases request with
  | client call =>
      obtain ⟨agrees, providers, routes⟩ := @client_agrees crates database now keyed call
      rw [← agrees]
      apply and_congr_right
      intro _
      simp only [Database.maps, providers, routes, StoreRequest.after, StoreMaps.mk.injEq, and_true]
  | provider call =>
      obtain ⟨agrees, clients, routes⟩ := @provider_agrees crates database now _ serializes keyed call
      rw [← agrees]
      apply and_congr_right
      intro _
      simp only [Database.maps, clients, routes, StoreRequest.after, StoreMaps.mk.injEq, and_true,
        true_and]
  | route call =>
      obtain ⟨agrees, clients, providers⟩ := @route_agrees crates database now keyed call
      rw [← agrees]
      apply and_congr_right
      intro _
      simp only [Database.maps, clients, providers, StoreRequest.after, StoreMaps.mk.injEq, true_and]

end OneRequest

/-! ### Runs -/

/-- A request with numbers that fit asks only for what fits the columns. -/
theorem StoreRequest.Typed.within {crates : DashboardCrates} {request : StoreRequest}
    (typed : request.Typed) :
    (request.handler crates).Within Statement.Bounded fun _ => True := by
  cases request with
  | client call =>
      cases call with
      | create posted =>
          refine create_within ?_ (fun _ => trivial) (fun _ => trivial) _
          exact typed
      | update id posted =>
          refine affect_within ?_ (fun _ => trivial) (fun _ => trivial) _ _ _
          exact typed
      | delete id =>
          refine affect_within ?_ (fun _ => trivial) (fun _ => trivial) _ _ _
          exact trivial
      | get id =>
          refine fetchOptional_within ?_ (fun _ => trivial) trivial _ _ (fun _ => trivial) _
          exact trivial
      | list =>
          refine list_within ?_ (fun _ => trivial) trivial _ (fun _ => trivial)
          exact trivial
  | provider call =>
      cases call with
      | create posted =>
          refine withProfile_within (fun _ => trivial) fun profile _ => ?_
          refine create_within ?_ (fun _ => trivial) (fun _ => trivial) _
          exact trivial
      | update id posted =>
          refine withProfile_within (fun _ => trivial) fun profile _ => ?_
          refine affect_within ?_ (fun _ => trivial) (fun _ => trivial) _ _ _
          exact trivial
      | delete id =>
          refine affect_within ?_ (fun _ => trivial) (fun _ => trivial) _ _ _
          exact trivial
      | get id =>
          simp only [StoreRequest.handler, getProvider]
          refine fetchOptional_within ?_ (fun _ => trivial) trivial _ _ (fun _ => trivial) _
          exact trivial
      | list =>
          simp only [StoreRequest.handler, listProviders]
          refine list_within ?_ (fun _ => trivial) trivial _ (fun _ => trivial)
          exact trivial
  | route call =>
      cases call with
      | create posted =>
          refine create_within ?_ (fun _ => trivial) (fun _ => trivial) _
          exact trivial
      | update id posted =>
          refine affect_within ?_ (fun _ => trivial) (fun _ => trivial) _ _ _
          exact trivial
      | delete id =>
          refine affect_within ?_ (fun _ => trivial) (fun _ => trivial) _ _ _
          exact trivial
      | get id =>
          simp only [StoreRequest.handler, getRoute]
          refine fetchOptional_within ?_ (fun _ => trivial) trivial _ _ (fun _ => trivial) _
          exact trivial
      | list =>
          simp only [StoreRequest.handler, listRoutes]
          refine list_within ?_ (fun _ => trivial) trivial _ (fun _ => trivial)
          exact trivial

/-- It keeps the names of the rows distinct. -/
theorem StoreMove.serve_keyed {crates : DashboardCrates} {database : Database} {move : StoreMove}
    (typed : move.1.Typed) (keyed : database.Keyed) :
    (StoreMove.serve crates database move).2.Keyed := by
  have kept : ∀ (statement : Statement) (state : Database), statement.Bounded → state.Keyed →
      (state.serve { now := move.2 } statement).2.Keyed :=
    fun _ _ bounded keyed => Dashboard.serve_keyed keyed bounded _
  exact typed.within.alone Database.serve kept keyed

/-- A refinement begins with the maps of the database. -/
theorem Refines.start {crates : DashboardCrates} {toJson : CapabilityProfile → String}
    {database : Database} {maps : StoreMaps} {moves : List StoreMove}
    (refines : Refines crates toJson database maps moves) : database.maps = maps := by
  cases moves with
  | nil => exact refines
  | cons move rest => exact refines.1

/-- All responses and all rows are what the finite maps say exactly when all requests are sound. -/
theorem Keyed.refines_iff {crates : DashboardCrates} {toJson : CapabilityProfile → String}
    (serializes : ∀ profile, crates.profileToJson profile = .ok (toJson profile))
    {database : Database} (keyed : database.Keyed) {moves : List StoreMove}
    (typed : ∀ move ∈ moves, move.1.Typed) :
    Refines crates toJson database database.maps moves ↔
      Along (fun database move => (StoreMove.serve crates database move).2)
        (fun database move => move.1.Sound database) database moves := by
  induction moves generalizing database with
  | nil => exact iff_of_true rfl trivial
  | cons move rest inductionHypothesis =>
      have agrees := @request_agrees_iff crates database _ serializes keyed move
      have later := inductionHypothesis
        (@StoreMove.serve_keyed crates _ _ (typed move List.mem_cons_self) keyed)
        fun other member => typed other (List.mem_cons_of_mem _ member)
      constructor
      · rintro ⟨_, answers, refines⟩
        have same := refines.start
        refine ⟨agrees.mp ⟨answers, same⟩, later.mp ?_⟩
        rw [same]
        exact refines
      · rintro ⟨sound, along⟩
        obtain ⟨answers, same⟩ := agrees.mpr sound
        refine ⟨rfl, answers, ?_⟩
        rw [← same]
        exact later.mpr along

/-- From every database that a process starts with, the store is a finite map for as long as nobody
creates a client or a provider under a new id or stores a list with items that are not plain. -/
theorem store_refines_iff (crates : DashboardCrates) (toJson : CapabilityProfile → String)
    (serializes : ∀ profile, crates.profileToJson profile = .ok (toJson profile))
    (database : Database) (prepared : Prepared crates database) (moves : List StoreMove)
    (typed : ∀ move ∈ moves, move.1.Typed) :
    Refines crates toJson database database.maps moves ↔
      Along (fun database move => (StoreMove.serve crates database move).2)
        (fun database move => move.1.Sound database) database moves :=
  Keyed.refines_iff serializes prepared.keyed typed

/-! ### Samples -/

/-- The database as the process leaves it for the sample client. -/
def clientDatabase : Database :=
  ((createSampleClient plainCrates).alone Database.serve undisturbed
    (Database.migrated undisturbed.now)).2

/-- The sample's database is one that a start has prepared. -/
theorem clientDatabase_prepared : Prepared plainCrates clientDatabase :=
  .started (createSampleClient plainCrates) (.inl (by simp [samples])) undisturbed.now
    (.migrated undisturbed.now)

def teamClient (id : String) : ClientConfig where
  id := id
  key := .env "TEAM_KEY"
  allowedRoutes := ["sonnet", "haiku"]

def teamProvider : ProviderConfig where
  id := "team"
  kind := .openaiChat
  endpoint := "https://team"
  credential := .bearer (.env "TEAM_KEY")

def teamRoute (models : List String) : RouteConfig where
  id := "team"
  models := models
  targets := [{ provider := "openai", model := "gpt-4.1" }]

/-- Requests in a row, all on one clock. -/
def storeMoves (requests : List StoreRequest) : List StoreMove :=
  requests.map fun request => (request, undisturbed.now)

/-- The sample client cannot be created again, can be changed and is shown as it was posted; a new
route can be created. -/
theorem store_refines_team :
    Refines plainCrates (fun _ => "\x7b\x7d") clientDatabase clientDatabase.maps
      (storeMoves [
        .client (.create (teamClient "engineering")),
        .client (.update "engineering" (teamClient "engineering")),
        .client (.get "engineering"),
        .route (.create (teamRoute ["claude-*"])), .route .list]) := by
  apply (store_refines_iff plainCrates (fun _ => "\x7b\x7d") (fun _ => rfl) clientDatabase
    clientDatabase_prepared _ _).mpr
  · have known : clientDatabase.clients.rows.any (·.clientId == "engineering") = true := by
      decide +kernel
    refine ⟨known, ?_, trivial, ?_, trivial, trivial⟩
    · intro _
      decide +kernel
    · intro _
      decide +kernel
  · intro move member
    simp only [storeMoves, List.map_cons, List.map_nil, List.mem_cons, List.not_mem_nil,
      or_false] at member
    rcases member with isMove | isMove | isMove | isMove | isMove
    · rw [isMove]
      exact ⟨by decide, by decide⟩
    · rw [isMove]
      exact ⟨by decide, by decide⟩
    · rw [isMove]
      trivial
    · rw [isMove]
      trivial
    · rw [isMove]
      trivial

/-- A new client and a new provider cannot be created, and a model with a comma in it is stored as two
models. -/
theorem store_not_refined :
    ¬ Refines plainCrates (fun _ => "\x7b\x7d") clientDatabase clientDatabase.maps
        (storeMoves [.client (.create (teamClient "team"))]) ∧
      ¬ Refines plainCrates (fun _ => "\x7b\x7d") clientDatabase clientDatabase.maps
        (storeMoves [.provider (.create teamProvider)]) ∧
      ¬ Refines plainCrates (fun _ => "\x7b\x7d") clientDatabase clientDatabase.maps
        (storeMoves [.route (.create (teamRoute ["claude-*,gpt-*"]))]) := by
  have keyed := clientDatabase_prepared.keyed
  have decides {request : StoreRequest} (typed : request.Typed)
      (unsound : ¬ request.Sound clientDatabase) :
      ¬ Refines plainCrates (fun _ => "\x7b\x7d") clientDatabase clientDatabase.maps
        (storeMoves [request]) := by
    intro refines
    have each : ∀ move ∈ storeMoves [request], move.1.Typed := by
      intro move member
      rw [List.mem_singleton.mp member]
      exact typed
    exact unsound ((Keyed.refines_iff (fun _ => rfl) keyed each).mp refines).1
  refine ⟨decides ⟨by decide, by decide⟩ ?_, decides trivial ?_, decides trivial ?_⟩
  · intro sound
    have unknown : clientDatabase.clients.rows.any (·.clientId == "team") = false := by
      decide +kernel
    exact Bool.false_ne_true (unknown.symm.trans sound)
  · intro sound
    have unknown : clientDatabase.providers.rows.any (·.providerId == "team") = false := by
      decide +kernel
    exact Bool.false_ne_true (unknown.symm.trans sound)
  · intro sound
    have plain := sound (by decide +kernel)
    exact absurd plain (by decide +kernel)

end ClaudeProxy.Dashboard
