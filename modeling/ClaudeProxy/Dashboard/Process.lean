/-
Module: ClaudeProxy.Dashboard.Process
Layer: Model
Purpose: The dashboard over the lifetimes of the process (`serve` in `src/main.rs`). A process runs the
  migrations, creates the administrator and the samples, and then handles requests until it stops; the
  database stays for the next one. An error on the way ends the process.
Trusted boundary: human-reviewed model
Main exports: Startup.andThen, prepareDatabase, ServicePool, World, WorldMove, World.step, World.run
-/
import ClaudeProxy.Dashboard.Routes
import ClaudeProxy.Dashboard.Startup

namespace ClaudeProxy.Dashboard

open Library

/-- `first.await?; second.await`. -/
def Startup.andThen (first second : Startup) : Startup :=
  first.bind fun
    | .ok () => second
    | .error error => .done (.error error)

def createSamples (crates : DashboardCrates) : Startup :=
  (createSampleConfig crates).andThen
    ((createSampleClient crates).andThen
      ((createSampleProvider crates).andThen (createSampleRoute crates)))

/-- What a process does to the database between the migrations and the first request. -/
def prepareDatabase (crates : DashboardCrates) (salt adminSecret : String) : Startup :=
  (createInitialAdminUser crates salt adminSecret).andThen (createSamples crates)

/-- The database, the requests at work, and the requests handled with their responses. -/
abbrev ServicePool :=
  Pool Statement Statement.Answer (HttpRequest × Option Response) Database

/-- The database file, once the migrations have run on it, and the process at work on it. -/
inductive World where
  | down (file : Option Database)
  | launched (file : Option Database) (salt adminSecret : String)
  | starting (database : Database) (adminSecret : String) (startup : Startup)
  | serving (state : DashboardState) (pool : ServicePool)

def World.file : World → Option Database
  | .down file | .launched file _ _ => file
  | .starting database _ _ => some database
  | .serving _ pool => some pool.state

inductive WorldMove where
  /-- A process starts, with the secret of its `--admin-secret` and a salt drawn for it. Whatever was
  at work is gone. -/
  | launch (salt adminSecret : String)
  | stop
  /-- The process takes the next step of its start. -/
  | advance (served : Served)
  /-- The process handles requests. -/
  | request (move : DashboardMove)

def requestProgram (crates : DashboardCrates) (state : DashboardState) (request : HttpRequest) :
    Program Statement Statement.Answer (HttpRequest × Option Response) :=
  (handleRequest crates state request).map fun response => (request, response)

/-- The migrations run once in the life of a file. -/
def World.step (crates : DashboardCrates) (world : World) : WorldMove → World
  | .launch salt adminSecret => .launched world.file salt adminSecret
  | .stop => .down world.file
  | .advance served =>
      match world with
      | .launched file salt adminSecret =>
          if served.fault.isSome then .down file
          else
            .starting (file.getD (Database.migrated served.now)) adminSecret
              (prepareDatabase crates salt adminSecret)
      | .starting database adminSecret (.done (.ok ())) =>
          .serving ⟨adminSecret⟩ (Pool.idle database)
      | .starting database _ (.done (.error _)) => .down (some database)
      | .starting database adminSecret (.ask statement next) =>
          .starting (database.serve served statement).2 adminSecret
            (next (database.serve served statement).1)
      | other => other
  | .request move =>
      match world with
      | .serving state pool =>
          .serving state (pool.move Database.serve (requestProgram crates state) move)
      | other => other

def World.run (crates : DashboardCrates) (moves : List WorldMove) : World :=
  moves.foldl (World.step crates) (.down none)

end ClaudeProxy.Dashboard
