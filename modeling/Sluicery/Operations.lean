import Sluicery.Core.FolderMoveExecution
import Sluicery.Core.RetentionExecution
import Sluicery.Scheduler
import Sluicery.System
import Sluicery.Web.TargetAction

/-!
# Operations on playlists

The system together with the calls which work on a playlist for a while: a
download phase, a retention and a folder move.  Each call starts with one
locked transaction, takes its own steps while the workers and the users go
on, and is gone when it returns or its process stops.  The users' actions on
Targets and tasks and the recovery of Runs are events, too.
-/

namespace Sluicery.Operations

open Sluicery.Library Sluicery.Db Sluicery.Db.TaskRepository
open Sluicery.Storage Sluicery.Core

/-! ## State -/

/-- A call which has not returned. -/
inductive Operation where
  | download (run : DownloadRun)
  | retention (playlistId : Nat) (execution : Retention.Execution)
  | folderMove (execution : FolderMove.Execution)

/-- The playlist of a call. -/
def Operation.playlistId : Operation → Nat
  | .download run => run.playlistId
  | .retention playlistId _ => playlistId
  | .folderMove execution => execution.plan.playlistId

/-- The Run of a call. -/
def Operation.runId : Operation → Nat
  | .download run => run.runId
  | .retention _ execution => execution.runId
  | .folderMove execution => execution.runId

/-- `Run.kind` of a call. -/
def Operation.kind : Operation → String
  | .download _ => "download"
  | .retention .. => "retention"
  | .folderMove _ => "folder_move"

/-- The system and the calls. -/
structure World where
  system : System.State := {}
  operations : Table Operation := .empty

namespace World

/-- The database. -/
abbrev db (world : World) : Database := world.system.db

/-- The world with another database. -/
def withDb (world : World) (db : Database) : World :=
  { world with system := { world.system with db } }

/-- A call has started. -/
def started (world : World) (db : Database) (operation : Operation) : World :=
  { world.withDb db with operations := world.operations.insert operation }

/-- A call has taken a step. -/
def continued (world : World) (db : Database) (key : Nat)
    (operation : Operation) : World :=
  { world.withDb db with
    operations := world.operations.modify key fun _ => operation }

/-- A call has returned. -/
def returned (world : World) (db : Database) (key : Nat) : World :=
  { world.withDb db with operations := world.operations.erase key }

end World

/-- What can happen. -/
inductive Event where
  | system (event : System.Event)
  | startDiscover (playlistId : Nat) (dryRun : Bool) (trigger : RunTrigger)
      (attempts : Nat)
  | startDownload (playlistId : Nat) (trigger : RunTrigger)
      (targetLimit retryLimit : Nat)
  | startRetention (plan : Retention.RetentionPlan)
      (files : Files StoredFile) (logs : List (List Retention.AuditRecord))
      (logPath : String)
  | startFolderMove (plan : FolderMove.FolderMovePlan)
      (files : Files StoredFile)
  | proceedDownload (operation : Nat) (answer : Option String)
      (workId : String)
  | raiseDownload (operation : Nat)
  /-- The files are those which the storages hold at this moment. -/
  | proceedRetention (operation : Nat) (files : Files StoredFile)
      (event : Retention.Event)
  | proceedFolderMove (operation : Nat) (files : Files StoredFile)
      (event : FolderMove.Event)
  /-- The process of a call stops. -/
  | stop (operation : Nat)
  | recoverOrphanRuns
  | recordSkipped (playlistId : Nat) (kind reason : String)
  | retryTask (taskId : Nat)
  | targetAction (playlistId targetId : Nat) (action : Web.TargetAction)
  | setMissingAction (targetId : Nat) (action : MissingPolicy)
  | manualLink (artifactId : Nat) (normalized : String)
      (existsInStorage : Bool)
  | undoManualLink (artifactId : Nat)
  | checkIntegrity
      (decisions : List (Integrity.ArtifactSnapshot × Integrity.Decision))
      (checkedAt : Time)

/-- An event and its time. -/
structure Action where
  event : Event
  now : Time := 0

/-- What the environment fixes, with `_storage_config_fingerprint`. -/
structure Environment where
  system : System.Environment
  fingerprint : StorageKind → Option Json.Fields → String

/-! ## Steps -/

/-- The parts of a phase and the start of a discover, which are events here. -/
def isPart : System.Event → Bool
  | .startDiscover .. | .blockTarget .. | .reopenTarget ..
  | .enqueueTarget .. => true
  | _ => false

/-- A folder move of the playlist holds the file lock. -/
def moveLocked (world : World) (playlistId : Nat) : Bool :=
  world.operations.any fun _ operation =>
    match operation with
    | .folderMove execution => execution.plan.playlistId == playlistId
    | _ => false

/-- A start; a refused one is rolled back and changes nothing. -/
def stepStart (environment : Environment) (world : World) (now : Time) :
    Event → World
  | .startDiscover playlistId dryRun trigger attempts =>
      match enqueueDiscoverRun world.db playlistId dryRun trigger attempts
          now with
      | .error _ => world
      | .ok started => world.withDb started.2
  | .startDownload playlistId trigger targetLimit retryLimit =>
      match startDownloadRun world.db playlistId trigger now with
      | .error _ => world
      | .ok started => world.started started.2 (.download
          { playlistId, runId := started.1, targetLimit, retryLimit })
  | .startRetention plan files logs logPath =>
      match Retention.start environment.fingerprint world.db files logs plan
          logPath now with
      | .error _ => world
      | .ok execution => world.started execution.db
          (.retention plan.playlistId execution)
  | .startFolderMove plan files =>
      if moveLocked world plan.playlistId then world
      else
        match FolderMove.start environment.fingerprint world.db files plan
            now with
        | .error _ => world
        | .ok execution => world.started execution.db (.folderMove execution)
  | _ => world

/-- The next step of a call. -/
def stepOperation (environment : Environment) (world : World) (now : Time) :
    Event → Option World
  | .proceedDownload key answer workId =>
      match world.operations.get key with
      | some (.download run) =>
          match run.proceed world.db answer workId now with
          | .error _ => some (world.returned (run.fail world.db now) key)
          | .ok (none, db) => some (world.returned db key)
          | .ok (some next, db) =>
              some (world.continued db key (.download next))
      | _ => none
  | .raiseDownload key =>
      match world.operations.get key with
      | some (.download run) =>
          some (world.returned (run.fail world.db now) key)
      | _ => none
  | .proceedRetention key files event =>
      match world.operations.get key with
      | some (.retention playlistId execution) =>
          (Retention.step environment.fingerprint
            { execution with db := world.db, files } event).map fun next =>
              if next.outcome.isSome then world.returned next.db key
              else world.continued next.db key (.retention playlistId next)
      | _ => none
  | .proceedFolderMove key files event =>
      match world.operations.get key with
      | some (.folderMove execution) =>
          (FolderMove.step environment.fingerprint
            { execution with db := world.db, files } event).map fun next =>
              if next.outcome.isSome then world.returned next.db key
              else world.continued next.db key (.folderMove next)
      | _ => none
  | .stop key =>
      (world.operations.get key).map fun _ => world.returned world.db key
  | _ => none

/-- An action of a user, or of the scheduler. -/
def stepUser (environment : Environment) (db : Database) (now : Time) :
    Event → Option Database
  | .recoverOrphanRuns =>
      some (Scheduler.recoverOrphanRuns db
        environment.system.config.staleThreshold now)
  | .recordSkipped playlistId kind reason =>
      some (Scheduler.recordSkipped db playlistId kind reason now)
  | .retryTask taskId =>
      some { db with task := (retry db.task taskId now).2 }
  | .targetAction playlistId targetId action =>
      Web.playlistTargetAction db playlistId targetId action now
  | .setMissingAction targetId action =>
      (Integrity.setMissingAction db targetId action now).toOption.map
        Prod.snd
  | .manualLink artifactId normalized existsInStorage =>
      (Integrity.manualLink db artifactId normalized existsInStorage
        now).toOption
  | .undoManualLink artifactId =>
      (Integrity.undoManualLink db artifactId now).toOption
  | .checkIntegrity decisions checkedAt =>
      some (Integrity.applyDecisions db {} decisions checkedAt now).db
  | _ => none

/-- One event. -/
def step (environment : Environment) (world : World) (action : Action) :
    Option World :=
  match action.event with
  | .system event =>
      if isPart event then none
      else
        (System.step environment.system world.system
          ⟨event, action.now⟩).map fun system => { world with system }
  | .startDiscover .. | .startDownload .. | .startRetention ..
  | .startFolderMove .. =>
      some (stepStart environment world action.now action.event)
  | .proceedDownload .. | .raiseDownload .. | .proceedRetention ..
  | .proceedFolderMove .. | .stop .. =>
      stepOperation environment world action.now action.event
  | event =>
      (stepUser environment world.db action.now event).map world.withDb

end Sluicery.Operations
