/-
Module: ClaudeProxy.Proofs.ListColumns
Layer: Proofs
Purpose: What becomes of a list that the dashboard stores in one column. A posted list is joined with
  commas, and is cut at commas and trimmed when its row is shown: it comes back exactly when its items
  are plain.
Trusted boundary: none
Main exports: ListPost, ListPost.request, ListPost.lookup, ReadsBack, served_after_post,
  list_columns_iff
-/
import ClaudeProxy.Proofs.StoreMap

namespace ClaudeProxy.Dashboard

open Library

/-! ### Lists that are posted -/

/-- A request that stores a list in a column. -/
inductive ListPost where
  | createRoute (posted : RouteConfig)
  | updateRoute (id : String) (posted : RouteConfig)
  | createClient (posted : ClientConfig)
  | updateClient (id : String) (posted : ClientConfig)

namespace ListPost

def request : ListPost → StoreRequest
  | createRoute posted => .route (.create posted)
  | updateRoute id posted => .route (.update id posted)
  | createClient posted => .client (.create posted)
  | updateClient id posted => .client (.update id posted)

/-- The request that shows the row again. -/
def lookup : ListPost → StoreRequest
  | createRoute posted => .route (.get posted.id)
  | updateRoute id _ => .route (.get id)
  | createClient posted => .client (.get posted.id)
  | updateClient id _ => .client (.get id)

/-- The list that is posted. -/
def items : ListPost → List String
  | createRoute posted => posted.models
  | updateRoute _ posted => posted.models
  | createClient posted => posted.allowedRoutes
  | updateClient _ posted => posted.allowedRoutes

end ListPost

/-- The list that a row shows. -/
def Data.items : Data → Option (List String)
  | .route row => some row.models
  | .client row => some row.allowedRoutes
  | _ => none

/-- A response shows a row with these items. -/
def ReadsBack (response : Option Response) (items : List String) : Prop :=
  ∃ data, response = some (shownAnswer data) ∧ data.items = some items

theorem readsBack_shown {data : Data} {shown items : List String} (has : data.items = some shown) :
    ReadsBack (some (shownAnswer data)) items ↔ shown = items := by
  constructor
  · rintro ⟨other, same, others⟩
    have sameData : data = other := by
      simpa [shownAnswer] using same
    rw [← sameData, has] at others
    exact Option.some.inj others
  · rintro rfl
    exact ⟨data, rfl, has⟩

/-! ### The row after a post -/

section After

variable {crates : DashboardCrates} {database : Database} {now later : String}

theorem failed_not_shown {error : String} {data : Data} :
    some (failedAnswer error) ≠ some (shownAnswer data) := by
  simp [failedAnswer, shownAnswer]

/-- What an update that was accepted leaves under its key. -/
theorem lookup_updated {Row Record : Type} {rowKey : Row → String} {shown : Row → Record}
    {rows : List Row} {wanted done missing : String} {change : Row → Row} {stored : Record}
    {data : Data} (kept : ∀ row, rowKey (change row) = rowKey row)
    (changed : ∀ row, rowKey row = wanted → shown (change row) = stored)
    (accepted : some (if 0 < (rows.filter (rowKey · == wanted)).length then shownAnswer (.text done)
      else failedAnswer missing) = some (shownAnswer data)) :
    (tableMap rowKey shown (rows.map fun row =>
        if rowKey row == wanted then change row else row)).lookup wanted = some stored := by
  have present : wanted ∈ tableMap rowKey shown rows := by
    by_contra absent
    have none : ¬ 0 < (rows.filter (rowKey · == wanted)).length := by
      rw [@filter_pos_iff_mem _ _ _ _ rowKey shown]
      exact absent
    rw [if_neg none] at accepted
    exact failed_not_shown accepted
  rw [tableMap_change kept changed, if_pos present, Finmap.lookup_insert]

/-- A route is shown as its map has it. -/
theorem route_get {id : String} {route : DbRoute}
    (held : database.maps.routes.lookup id = some route) :
    (StoreMove.serve crates database (.route (.get id), now)).1 =
      some (shownAnswer (.route route)) := by
  have outcome : StoreMove.serve crates database (.route (.get id), now) = _ :=
    @fetchOptional_alone crates (.selectRoute id) now database _ _ _ _ rfl (fun row => row)
      (fun row => some (rowToRoute row)) rowToRoute (fun _ _ => rfl) .route "Route not found"
  rw [outcome, ← @lookup_tableMap _ _ _ _ RouteRow.routeId rowToRoute]
  unfold Database.maps at held
  rw [held]

/-- A client is shown as its map has it, where its row has limits that fit. -/
theorem client_get {id : String} {client : DbClient}
    (bounded : client.requestsPerMinute < 2 ^ 32 ∧ client.concurrentRequests < 2 ^ 32)
    (held : database.maps.clients.lookup id = some client) :
    (StoreMove.serve crates database (.client (.get id), now)).1 =
      some (shownAnswer (.client client)) := by
  unfold Database.maps at held
  have readable : ∀ row, database.clients.rows.find? (·.clientId == id) = some row →
      rowToClient row = some row.shown := by
    intro row found
    rw [lookup_tableMap, found] at held
    have same : row.shown = client := Option.some.inj held
    rw [← same] at bounded
    obtain ⟨requests, concurrent⟩ := bounded
    unfold ClientRow.shown at requests concurrent
    simp only [rowToClient, getU32, if_pos requests, if_pos concurrent]
    rfl
  have outcome : StoreMove.serve crates database (.client (.get id), now) = _ :=
    @fetchOptional_alone crates (.selectClient id) now database _ _ _ _ rfl (fun row => row)
      rowToClient ClientRow.shown readable .client "Client not found"
  rw [outcome, ← @lookup_tableMap _ _ _ _ ClientRow.clientId ClientRow.shown, held]

theorem route_created {posted : RouteConfig} {data : Data}
    (accepted : (StoreMove.serve crates database (.route (.create posted), now)).1 =
      some (shownAnswer data)) :
    (StoreMove.serve crates database (.route (.create posted), now)).2.maps.routes.lookup posted.id =
      some (RouteConfig.stored posted.id posted) := by
  rcases @route_create_cases crates database now posted with
    ⟨-, text, outcome⟩ | ⟨-, text, routes, outcome, -, grown⟩
  · rw [outcome] at accepted
    exact absurd accepted failed_not_shown
  · rw [outcome]
    unfold Database.maps
    rw [grown, Finmap.lookup_insert]

theorem route_updated {id : String} {posted : RouteConfig} {data : Data}
    (accepted : (StoreMove.serve crates database (.route (.update id posted), now)).1 =
      some (shownAnswer data)) :
    (StoreMove.serve crates database (.route (.update id posted), now)).2.maps.routes.lookup id =
      some (RouteConfig.stored id posted) := by
  have outcome : StoreMove.serve crates database (.route (.update id posted), now) = _ :=
    @affect_alone crates (.updateRoute id (String.intercalate "," posted.models)) now database
      _ _ rfl (fun affected => affected) _ _
  rw [outcome] at accepted ⊢
  exact @lookup_updated _ _ RouteRow.routeId rowToRoute _ _ _ _ (RouteConfig.write posted) _ _
    (fun _ => rfl) route_written accepted

theorem client_updated {id : String} {posted : ClientConfig} {data : Data}
    (accepted : (StoreMove.serve crates database (.client (.update id posted), now)).1 =
      some (shownAnswer data)) :
    (StoreMove.serve crates database (.client (.update id posted), now)).2.maps.clients.lookup id =
      some (ClientConfig.stored id posted) := by
  have outcome : StoreMove.serve crates database (.client (.update id posted), now) = _ :=
    @affect_alone crates (.updateClient id (String.intercalate "," posted.allowedRoutes)
      posted.requestsPerMinute posted.concurrentRequests) now database _ _ rfl
      (fun affected => affected) _ _
  rw [outcome] at accepted ⊢
  exact @lookup_updated _ _ ClientRow.clientId ClientRow.shown _ _ _ _ (ClientConfig.write posted) _ _
    (fun _ => rfl) client_written accepted

/-- After an accepted post the row shows the list as its column gives it back. No creation of a client
is accepted: its `INSERT` leaves out columns that must not be NULL. -/
theorem served_after_post {post : ListPost} (typed : post.request.Typed) {data : Data}
    (accepted : (StoreMove.serve crates database (post.request, now)).1 =
      some (shownAnswer data)) :
    ∃ row : Data, row.items = some (splitCommaSeparated (String.intercalate "," post.items)) ∧
      (StoreMove.serve crates (StoreMove.serve crates database (post.request, now)).2
        (post.lookup, later)).1 = some (shownAnswer row) := by
  cases post with
  | createRoute posted => exact ⟨_, rfl, route_get (route_created accepted)⟩
  | updateRoute id posted => exact ⟨_, rfl, route_get (route_updated accepted)⟩
  | createClient posted =>
      have outcome : StoreMove.serve crates database (.client (.create posted), now) =
          (some (failedAnswer _), database) := create_refused rfl _
      unfold ListPost.request at accepted
      rw [outcome] at accepted
      exact absurd accepted failed_not_shown
  | updateClient id posted =>
      have limits : (ClientConfig.stored id posted).requestsPerMinute < 2 ^ 32 ∧
          (ClientConfig.stored id posted).concurrentRequests < 2 ^ 32 := typed
      exact ⟨_, rfl, client_get limits (client_updated accepted)⟩

end After

/-- A list that is stored by an accepted post is shown again as it was posted exactly when its items
are plain: not empty, without a comma, and without white space at either end. -/
theorem list_columns_iff (crates : DashboardCrates) (database : Database) (now later : String)
    (post : ListPost) (typed : post.request.Typed)
    (accepted : ∃ text, (StoreMove.serve crates database (post.request, now)).1 =
      some (shownAnswer (.text text))) :
    ReadsBack (StoreMove.serve crates (StoreMove.serve crates database (post.request, now)).2
        (post.lookup, later)).1 post.items ↔ Plain post.items := by
  obtain ⟨text, shown⟩ := accepted
  obtain ⟨row, hasItems, served⟩ := @served_after_post crates database now later post typed _ shown
  rw [served, readsBack_shown hasItems]
  exact splitCommaSeparated_intercalate_iff

/-! ### Samples -/

/-- Creates a route for two families of models. -/
def familyPost : ListPost := .createRoute (teamRoute ["claude-{opus,sonnet}-*", "haiku"])

/-- Restricts the sample client to one route, whose id is a blank. -/
def fencedPost : ListPost :=
  .updateClient "engineering" { teamClient "engineering" with allowedRoutes := [" "] }

theorem familyPost_accepted :
    (StoreMove.serve plainCrates clientDatabase (familyPost.request, undisturbed.now)).1 =
      some (shownAnswer (.text "Route created successfully")) := by
  decide +kernel

theorem fencedPost_accepted :
    (StoreMove.serve plainCrates clientDatabase (fencedPost.request, undisturbed.now)).1 =
      some (shownAnswer (.text "Client updated successfully")) := by
  decide +kernel

theorem fencedPost_typed : fencedPost.request.Typed := ⟨by decide, by decide⟩

/-- The sample's route is posted and looked up: it reads back exactly if its models are plain. -/
theorem list_columns_iff_family :
    ReadsBack (StoreMove.serve plainCrates
        (StoreMove.serve plainCrates clientDatabase (familyPost.request, undisturbed.now)).2
        (familyPost.lookup, undisturbed.now)).1 familyPost.items ↔ Plain familyPost.items :=
  list_columns_iff plainCrates clientDatabase undisturbed.now undisturbed.now familyPost trivial
    ⟨_, familyPost_accepted⟩

/-- A pattern with an alternation comes back as two patterns, and a client that is restricted to one
route comes back as one that may use every route. -/
theorem list_columns_lost :
    ((StoreMove.serve plainCrates clientDatabase (familyPost.request, undisturbed.now)).1 =
        some (shownAnswer (.text "Route created successfully")) ∧
      ¬ ReadsBack (StoreMove.serve plainCrates
          (StoreMove.serve plainCrates clientDatabase (familyPost.request, undisturbed.now)).2
          (familyPost.lookup, undisturbed.now)).1 familyPost.items) ∧
    (fencedPost.request.Typed ∧
      (StoreMove.serve plainCrates clientDatabase (fencedPost.request, undisturbed.now)).1 =
        some (shownAnswer (.text "Client updated successfully")) ∧
      fencedPost.items ≠ [] ∧
      ReadsBack (StoreMove.serve plainCrates
          (StoreMove.serve plainCrates clientDatabase (fencedPost.request, undisturbed.now)).2
          (fencedPost.lookup, undisturbed.now)).1 []) := by
  constructor
  · refine ⟨familyPost_accepted, ?_⟩
    obtain ⟨row, hasItems, served⟩ :=
      @served_after_post plainCrates clientDatabase undisturbed.now undisturbed.now familyPost trivial
        _ familyPost_accepted
    rw [served, readsBack_shown hasItems]
    decide +kernel
  · refine ⟨fencedPost_typed, fencedPost_accepted, by decide, ?_⟩
    obtain ⟨row, hasItems, served⟩ :=
      @served_after_post plainCrates clientDatabase undisturbed.now undisturbed.now fencedPost
        fencedPost_typed _ fencedPost_accepted
    rw [served, readsBack_shown hasItems]
    decide +kernel

end ClaudeProxy.Dashboard
