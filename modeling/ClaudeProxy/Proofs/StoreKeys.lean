/-
Module: ClaudeProxy.Proofs.StoreKeys
Layer: Proofs
Purpose: The databases that a process works on. Whatever programs it started with, the ids of clients,
  providers and routes are distinct, and every statement keeps them so.
Trusted boundary: none
Main exports: samples, Prepared, Database.Keyed, Statement.Bounded, serve_keyed, Prepared.keyed
-/
import ClaudeProxy.Library.Keyed
import ClaudeProxy.Proofs.Shapes

namespace ClaudeProxy.Dashboard

open Library

def samples (crates : DashboardCrates) : List Startup :=
  [createSampleConfig crates, createSampleClient crates, createSampleProvider crates,
    createSampleRoute crates]

/-- The programs that a process starts with. -/
def IsStartup (crates : DashboardCrates) (startup : Startup) : Prop :=
  startup ∈ samples crates ∨
    ∃ salt adminSecret, startup = createInitialAdminUser crates salt adminSecret

/-- A database after the migrations and any of the programs that a process starts with. -/
inductive Prepared (crates : DashboardCrates) : Database → Prop where
  | migrated (now : String) : Prepared crates (Database.migrated now)
  | started {database : Database} (startup : Startup) (isStartup : IsStartup crates startup)
      (now : String) (prepared : Prepared crates database) :
      Prepared crates (startup.alone Database.serve { now := now } database).2

/-! ### Distinct ids -/

/-- What UNIQUE gives, and the type of the columns that are read as `u32`. -/
structure Database.Keyed (database : Database) : Prop where
  clients : (database.clients.rows.map (·.clientId)).Nodup
  providers : (database.providers.rows.map (·.providerId)).Nodup
  routes : (database.routes.rows.map (·.routeId)).Nodup
  bounded : ∀ row ∈ database.clients.rows,
    row.requestsPerMinute < 2 ^ 32 ∧ row.concurrentRequests < 2 ^ 32

/-- A statement that writes the limits of a client has them from a `u32`. -/
def Statement.Bounded : Statement → Prop
  | .insertClient client =>
      client.requestsPerMinute < 2 ^ 32 ∧ client.concurrentRequests < 2 ^ 32
  | .updateClient _ _ requestsPerMinute concurrentRequests =>
      requestsPerMinute < 2 ^ 32 ∧ concurrentRequests < 2 ^ 32
  | _ => True

theorem serve_keyed {database : Database} (keyed : database.Keyed) {statement : Statement}
    (bounded : statement.Bounded) (served : Served) :
    (database.serve served statement).2.Keyed := by
  rcases database.serve_cases served statement with
    ⟨error, same, _⟩ | ⟨rows, after, isAfter, _, executed⟩
  · rw [same]
    exact keyed
  · rw [isAfter]
    obtain ⟨clients, providers, routes, limits⟩ := keyed
    cases statement with
    | insertClient client =>
        obtain ⟨fresh, row, given, rfl⟩ := insertClient_cases executed
        obtain ⟨isKey, isRate, isConcurrency⟩ := given (database.clients.sequence + 1)
        refine ⟨distinct_append isKey clients fresh, providers, routes, ?_⟩
        intro other member
        rcases List.mem_append.mp member with old | new
        · exact limits other old
        · rw [List.mem_singleton.mp new, isRate, isConcurrency]
          exact bounded
    | insertProvider provider =>
        obtain ⟨fresh, row, isKey, rfl⟩ := insertProvider_cases executed
        exact ⟨clients, distinct_append (isKey _) providers fresh, routes, limits⟩
    | insertRoute routeId models =>
        obtain ⟨fresh, row, isKey, rfl⟩ := insertRoute_cases executed
        exact ⟨clients, providers, distinct_append (isKey _) routes fresh, limits⟩
    | insertAdminUser username passwordHash =>
        obtain ⟨row, rfl⟩ := insertAdminUser_cases executed
        exact ⟨clients, providers, routes, limits⟩
    | updateClient id allowedRoutes requestsPerMinute concurrentRequests =>
        cases executed
        refine ⟨?_, providers, routes, ?_⟩
        · exact distinct_change (fun _ => rfl) clients
        · intro row member
          obtain ⟨old, oldMember, rowEq⟩ := List.mem_map.mp member
          subst rowEq
          split
          · exact bounded
          · exact limits old oldMember
    | updateProvider id kind endpoint capabilityProfile allowInsecureHttp =>
        cases executed
        exact ⟨clients, distinct_change (fun _ => rfl) providers, routes, limits⟩
    | updateRoute id models =>
        cases executed
        exact ⟨clients, providers, distinct_change (fun _ => rfl) routes, limits⟩
    | deleteClient id =>
        cases executed
        refine ⟨clients.sublist (List.filter_sublist.map _), providers, routes, ?_⟩
        intro row member
        exact limits row (List.mem_filter.mp member).1
    | deleteProvider id =>
        cases executed
        exact ⟨clients, providers.sublist (List.filter_sublist.map _), routes, limits⟩
    | deleteRoute id =>
        cases executed
        exact ⟨clients, providers, routes.sublist (List.filter_sublist.map _), limits⟩
    | insertRouteTarget routeId providerId model priority weight =>
        simp only [Statement.execute] at executed
        split at executed
        · cases executed
          exact ⟨clients, providers, routes, limits⟩
        · cases executed
    | selectRouteKey routeId =>
        simp only [Statement.execute] at executed
        split at executed
        · cases executed
          exact ⟨clients, providers, routes, limits⟩
        · cases executed
    | _ =>
        cases executed
        exact ⟨clients, providers, routes, limits⟩

/-- The samples write within bounds, and no administrator. -/
theorem samples_within {crates : DashboardCrates} {startup : Startup}
    (sample : startup ∈ samples crates) :
    startup.Within
      (fun statement => statement.Bounded ∧ statement.target ≠ some .adminUsers) fun _ => True := by
  simp only [samples, List.mem_cons, List.not_mem_nil, or_false] at sample
  rcases sample with isConfig | isClient | isProvider | isRoute
  · subst isConfig
    refine ifNone_within ⟨trivial, nofun⟩ ?_
    cases crates.configToYaml sampleConfig with
    | error error => trivial
    | ok configData => exact attempt_within ⟨trivial, nofun⟩ fun _ => trivial
  · subst isClient
    refine ifNone_within ⟨trivial, nofun⟩ ?_
    exact attempt_within ⟨⟨by decide, by decide⟩, nofun⟩ fun _ => trivial
  · subst isProvider
    refine ifNone_within ⟨trivial, nofun⟩ ?_
    cases crates.profileToJson {} with
    | error error => trivial
    | ok capabilityProfile => exact attempt_within ⟨trivial, nofun⟩ fun _ => trivial
  · subst isRoute
    refine ifNone_within ⟨trivial, nofun⟩ ?_
    refine attempt_within ⟨trivial, nofun⟩ fun _ => ?_
    refine attempt_within ⟨trivial, nofun⟩ fun routeId => ?_
    exact attempt_within ⟨trivial, nofun⟩ fun _ => trivial

theorem IsStartup.within {crates : DashboardCrates} {startup : Startup}
    (isStartup : IsStartup crates startup) :
    startup.Within Statement.Bounded fun _ => True := by
  rcases isStartup with sample | ⟨salt, adminSecret, isAdmin⟩
  · exact (samples_within sample).permit fun _ both => both.1
  · subst isAdmin
    refine ifNone_within trivial ?_
    cases crates.hashPassword salt adminSecret with
    | error error => trivial
    | ok passwordHash => exact attempt_within trivial fun _ => trivial

theorem Prepared.keyed {crates : DashboardCrates} {database : Database}
    (prepared : Prepared crates database) : database.Keyed := by
  induction prepared with
  | migrated now =>
      refine ⟨List.nodup_nil, List.nodup_nil, List.nodup_nil, ?_⟩
      intro row member
      cases member
  | started startup isStartup now prepared keyed =>
      have kept : ∀ (statement : Statement) (state : Database), statement.Bounded → state.Keyed →
          (state.serve { now := now } statement).2.Keyed :=
        fun _ _ bounded keyed => serve_keyed keyed bounded _
      exact isStartup.within.alone Database.serve kept keyed

end ClaudeProxy.Dashboard
