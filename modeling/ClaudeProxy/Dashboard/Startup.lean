/-
Module: ClaudeProxy.Dashboard.Startup
Layer: Model
Purpose: What `src/dashboard.rs` puts into the database when the process starts: the administrator
  and, into tables that are empty, one sample of each kind.
Trusted boundary: human-reviewed model
Main exports: Startup, createInitialAdminUser, sampleConfig, createSampleConfig,
  createSampleClient, createSampleProvider, createSampleRoute
-/
import ClaudeProxy.Dashboard.Handlers

namespace ClaudeProxy.Dashboard

open Library

abbrev Startup := Program Statement Statement.Answer (Except ProxyError Unit)

variable (crates : DashboardCrates)

/-- One statement, with the error it is reported by. -/
def attempt (statement : Statement) (failed : String) (next : statement.Rows → Startup) : Startup :=
  .ask statement fun
    | .ok rows => next rows
    | .error error => .done (.error (.new .internal s!"{failed}: {crates.describe error}"))

def finish {α : Type} (_ : α) : Startup := .done (.ok ())

/-- Goes on only when the statement finds no row. -/
def ifNone (statement : Statement) (found : statement.Rows → Bool) (failed : String)
    (next : Startup) : Startup :=
  attempt crates statement failed fun rows => if found rows then .done (.ok ()) else next

/-- The salt is drawn by the operating system. -/
def createInitialAdminUser (salt adminSecret : String) : Startup :=
  ifNone crates (.selectAdminUser "admin") Option.isSome "Failed to check for admin user"
    (match crates.hashPassword salt adminSecret with
    | .ok passwordHash =>
        attempt crates (.insertAdminUser "admin" passwordHash) "Failed to create admin user" finish
    | .error error => .done (.error (.new .internal s!"Failed to hash password: {error}")))

def sampleConfig : AppConfig where
  clients :=
    [{ id := "engineering", key := .env "PROXY_CLIENT_KEY", allowedRoutes := ["sonnet", "haiku"]
       requestsPerMinute := 600, concurrentRequests := 100 }]
  providers :=
    [{ id := "openai", kind := .openaiChat, endpoint := "https://api.openai.com/v1"
       credential := .bearer (.env "OPENAI_API_KEY") }]
  routes :=
    [{ id := "sonnet", models := ["claude-*-sonnet-*", "claude-sonnet-*"]
       targets := [{ provider := "openai", model := "gpt-4.1", priority := 1, weight := 100 }] },
     { id := "haiku", models := ["claude-*-haiku-*", "claude-haiku-*"]
       targets := [{ provider := "openai", model := "gpt-4.1-mini", priority := 1, weight := 100 }] }]

def createSampleConfig : Startup :=
  ifNone crates .configExists (fun anyRow => anyRow) "Failed to check for existing config"
    (match crates.configToYaml sampleConfig with
    | .ok configData =>
        attempt crates (.insertConfigVersion 1 configData "system")
          "Failed to create sample config" finish
    | .error error =>
        .done (.error (.new .internal s!"Failed to serialize sample config: {error}")))

def createSampleClient : Startup :=
  ifNone crates .clientExists (fun anyRow => anyRow) "Failed to check for existing clients"
    (attempt crates
      (.insertClient
        { clientId := "engineering", keyHash := some "sample_hash", keySalt := some "sample_salt"
          allowedRoutes := "sonnet,haiku", requestsPerMinute := 600, concurrentRequests := 100 })
      "Failed to create sample client" finish)

def createSampleProvider : Startup :=
  ifNone crates .providerExists (fun anyRow => anyRow) "Failed to check for existing providers"
    (match crates.profileToJson {} with
    | .ok capabilityProfile =>
        attempt crates
          (.insertProvider
            { providerId := "openai", kind := "openai_chat"
              endpoint := "https://api.openai.com/v1", credentialType := some "bearer"
              credentialSecretRef := some "OPENAI_API_KEY", headers := some "\x7b\x7d"
              capabilityProfile := capabilityProfile, allowInsecureHttp := false })
          "Failed to create sample provider" finish
    | .error error =>
        .done (.error (.new .internal s!"Failed to serialize capability profile: {error}")))

def createSampleRoute : Startup :=
  ifNone crates .routeExists (fun anyRow => anyRow) "Failed to check for existing routes"
    (attempt crates (.insertRoute "sonnet" "claude-*-sonnet-*,claude-sonnet-*")
      "Failed to create sample route" fun _ =>
        attempt crates (.selectRouteKey "sonnet") "Failed to get route ID" fun routeId =>
          attempt crates (.insertRouteTarget routeId "openai" "gpt-4.1" 1 100)
            "Failed to create route target" finish)

end ClaudeProxy.Dashboard
