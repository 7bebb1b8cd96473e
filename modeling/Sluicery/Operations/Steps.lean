import Sluicery.Operations
import Sluicery.System.Runs
import Sluicery.System.Unfinished

/-!
# What a step of the world can do

`step_case` is the one inversion lemma: a step is an event of the system, a
start, a step of a call, or an action of a user.  The sections after it say
table by table what such a step leaves alone.
-/

namespace Sluicery.Operations

open Sluicery.Library Sluicery.Db Sluicery.Db.TaskRepository
open Sluicery.Storage Sluicery.Core

/-! ## Cases -/

/-- The Run is one which a folder move of the playlist takes over. -/
def TakenOver (playlistId : Nat) (run : RunRow) : Prop :=
  run.kind = "folder_move" ∧ run.playlistId = some playlistId ∧
    run.status = .running

/-- A start was accepted; `runs` are the Runs after the recovery. -/
structure Begins (world : World) (playlistId : Nat) (operation : Operation)
    (runs : Table RunRow) (run : RunRow) : Prop where
  inactive :
    playlistSyncIsActive { world.db with run := runs } playlistId = false
  kind : run.kind = operation.kind
  inPlaylist : run.playlistId = some playlistId
  running : run.status = .running
  runId : operation.runId = runs.nextKey
  isPlaylist : operation.playlistId = playlistId
  /-- A call starts with nothing selected. -/
  unselected : ∀ download, operation = .download download →
    download.stage = .started
  recovered : ∀ key, runs.get key = world.db.run.get key ∨
    moveLocked world playlistId = false ∧
      ∃ before after, world.db.run.get key = some before ∧
        runs.get key = some after ∧ TakenOver playlistId before ∧
        after.kind = before.kind ∧ after.playlistId = before.playlistId ∧
        after.status ≠ .running

/-- The step of a call, with the database after it and the call if it goes on. -/
inductive Operates (environment : Environment) (db : Database) :
    Operation → Database → Option Operation → Prop where
  | download {run : DownloadRun} {answer : Option String} {workId : String}
      {now : Time} {after : Option DownloadRun × Database}
      (proceeds : run.proceed db answer workId now = .ok after) :
      Operates environment db (.download run) after.2
        (after.1.map .download)
  | raised {run : DownloadRun} {now : Time} :
      Operates environment db (.download run) (run.fail db now) none
  | retention {playlistId : Nat} {execution next : Retention.Execution}
      {files : Files StoredFile} {event : Retention.Event}
      (taken : Retention.step environment.fingerprint
        { execution with db, files } event = some next) :
      Operates environment db (.retention playlistId execution) next.db
        (if next.outcome.isSome then none
        else some (.retention playlistId next))
  | folderMove {execution next : FolderMove.Execution}
      {files : Files StoredFile} {event : FolderMove.Event}
      (taken : FolderMove.step environment.fingerprint
        { execution with db, files } event = some next) :
      Operates environment db (.folderMove execution) next.db
        (if next.outcome.isSome then none else some (.folderMove next))
  | stopped {operation : Operation} :
      Operates environment db operation db none

/-- The world after the step of a call. -/
def World.after (world : World) (key : Nat) (db : Database) :
    Option Operation → World
  | none => world.returned db key
  | some operation => world.continued db key operation

theorem World.db_after
    (world : World) (key : Nat) (db : Database) (next : Option Operation) :
    (world.after key db next).db = db := by
  cases next <;> rfl

theorem World.executions_after
    (world : World) (key : Nat) (db : Database) (next : Option Operation) :
    (world.after key db next).system.executions =
      world.system.executions := by
  cases next <;> rfl

/-- The call an event belongs to. -/
def Event.operation : Event → Option Nat
  | .proceedDownload key .. | .raiseDownload key
  | .proceedRetention key .. | .proceedFolderMove key .. | .stop key =>
      some key
  | _ => none

/-- The events which start a call or a discover Run. -/
def Event.isStart : Event → Bool
  | .startDiscover .. | .startDownload .. | .startRetention ..
  | .startFolderMove .. => true
  | _ => false

/-- What can happen in a step. -/
inductive StepCase (environment : Environment) (world : World)
    (action : Action) : World → Prop where
  | system {event : System.Event} {system : System.State}
      (isEvent : action.event = .system event)
      (notPart : isPart event = false)
      (taken : System.step environment.system world.system
        ⟨event, action.now⟩ = some system) :
      StepCase environment world action { world with system }
  | refused (isStart : action.event.isStart = true) :
      StepCase environment world action world
  | discover {playlistId attempts : Nat} {dryRun : Bool}
      {trigger : RunTrigger} {started : (Nat × Nat) × Database}
      (isEvent : action.event =
        .startDiscover playlistId dryRun trigger attempts)
      (starts : enqueueDiscoverRun world.db playlistId dryRun trigger
        attempts action.now = .ok started) :
      StepCase environment world action (world.withDb started.2)
  | start {playlistId : Nat} {operation : Operation} {runs : Table RunRow}
      {run : RunRow}
      (isStart : action.event.isStart = true)
      (begins : Begins world playlistId operation runs run) :
      StepCase environment world action (world.started
        { world.db with run := runs.insert run } operation)
  | operate {key : Nat} {operation : Operation} {db : Database}
      {next : Option Operation}
      (isEvent : action.event.operation = some key)
      (found : world.operations.get key = some operation)
      (operates : Operates environment world.db operation db next) :
      StepCase environment world action (world.after key db next)
  | user {db : Database}
      (acts : stepUser environment world.db action.now action.event =
        some db) :
      StepCase environment world action (world.withDb db)

/-! ## The inversion lemma -/

/-- A start without a recovery. -/
theorem begins_of_inactive
    {world : World} {playlistId : Nat} {operation : Operation}
    {run : RunRow}
    (inactive : playlistSyncIsActive world.db playlistId = false)
    (kind : run.kind = operation.kind)
    (inPlaylist : run.playlistId = some playlistId)
    (running : run.status = .running)
    (runId : operation.runId = world.db.run.nextKey)
    (isPlaylist : operation.playlistId = playlistId)
    (unselected : ∀ download, operation = .download download →
      download.stage = .started) :
    Begins world playlistId operation world.db.run run where
  inactive := inactive
  kind := kind
  inPlaylist := inPlaylist
  running := running
  runId := runId
  isPlaylist := isPlaylist
  unselected := unselected
  recovered _ := Or.inl rfl

/-- The Runs which a folder move takes over have failed. -/
theorem recoverRuns_cases
    {plan : FolderMove.FolderMovePlan} {now : Time} {runIds : List Nat}
    {runs recovered : Table RunRow}
    (recovers : FolderMove.recoverRuns plan now runIds runs =
      some recovered) (key : Nat) :
    recovered.get key = runs.get key ∨
      ∃ before after, runs.get key = some before ∧
        recovered.get key = some after ∧
        TakenOver plan.playlistId before ∧ after.kind = before.kind ∧
        after.playlistId = before.playlistId ∧ after.status ≠ .running := by
  induction runIds generalizing runs with
  | nil =>
      obtain rfl := Option.some.inj recovers
      exact Or.inl rfl
  | cons runId rest induction =>
      rw [FolderMove.recoverRuns] at recovers
      split at recovers
      case isFalse => cases recovers
      next isRecoverable =>
      rcases (Option.any_eq_true _ _).mp isRecoverable with
        ⟨before, found, meets⟩
      simp only [FolderMove.isRecoverable, Bool.and_eq_true, beq_iff_eq]
        at meets
      have takenOver : TakenOver plan.playlistId before :=
        ⟨meets.1.1.1, meets.1.1.2, meets.1.2⟩
      by_cases isRun : key = runId
      · subst isRun
        have failed : (runs.modify key
            (FolderMove.interruptedRun now)).get key =
              some (FolderMove.interruptedRun now before) := by
          rw [Table.get_modify_self, found, Option.map_some]
        rcases induction recovers with
          same | ⟨middle, after, foundMiddle, -, again, -⟩
        · refine Or.inr ⟨before, _, found, same.trans failed, takenOver,
            rfl, rfl, ?_⟩
          simp [FolderMove.interruptedRun]
        · -- A failed Run is not taken over once more.
          rw [failed, Option.some.injEq] at foundMiddle
          subst foundMiddle
          exact absurd again.2.2 (by simp [FolderMove.interruptedRun])
      · rcases induction recovers with
          same | ⟨middle, after, foundMiddle, rest⟩
        · rw [Table.get_modify_of_ne _ _ isRun] at same
          exact Or.inl same
        · rw [Table.get_modify_of_ne _ _ isRun] at foundMiddle
          exact Or.inr ⟨middle, after, foundMiddle, rest⟩

/-- A start is refused, or a discover Run or a call starts. -/
theorem stepStart_case
    {environment : Environment} {world : World} {action : Action}
    (isStart : action.event.isStart = true) :
    StepCase environment world action
      (stepStart environment world action.now action.event) := by
  obtain ⟨event, now⟩ := action
  cases event with
  | startDiscover playlistId dryRun trigger attempts =>
      unfold stepStart
      dsimp only
      split
      · exact .refused rfl
      · next started starts => exact .discover rfl starts
  | startDownload playlistId trigger targetLimit retryLimit =>
      unfold stepStart
      dsimp only
      split
      · exact .refused rfl
      · next started starts =>
          unfold startDownloadRun at starts
          split at starts
          · cases starts
          · next valid =>
              obtain rfl := Except.ok.inj starts
              apply @StepCase.start environment world _ playlistId _
                world.db.run _ rfl
              apply begins_of_inactive (inactive_of_validateSyncStart valid)
                rfl rfl rfl rfl rfl
              rintro download isDownload
              obtain rfl := Operation.download.inj isDownload
              rfl
  | startRetention plan files logs logPath =>
      unfold stepStart
      dsimp only
      split
      · exact .refused rfl
      · next execution starts =>
          unfold Retention.start at starts
          split at starts
          · cases starts
          split at starts
          · cases starts
          split at starts
          · cases starts
          split at starts
          · cases starts
          next inactive =>
          split at starts
          · obtain rfl := Except.ok.inj starts
            apply @StepCase.start environment world _ plan.playlistId _
              world.db.run _ rfl
            exact begins_of_inactive (by simpa using inactive) rfl rfl rfl
              rfl rfl fun _ impossible => nomatch impossible
          · cases starts
  | startFolderMove plan files =>
      unfold stepStart
      dsimp only
      split
      · exact .refused rfl
      next unlocked =>
      split
      · exact .refused rfl
      · next execution starts =>
          unfold FolderMove.start at starts
          split at starts
          · cases starts
          split at starts
          · cases starts
          split at starts
          · cases starts
          next runs recovers =>
          dsimp only at starts
          split at starts
          · cases starts
          next inactive =>
          split at starts
          · cases starts
          obtain rfl := Except.ok.inj starts
          apply @StepCase.start environment world _ plan.playlistId _ runs
            _ rfl
          constructor
          · simpa using inactive
          · rfl
          · rfl
          · rfl
          · rfl
          · rfl
          · exact fun _ impossible => nomatch impossible
          · intro key
            exact (recoverRuns_cases recovers key).imp_right
              fun taken => ⟨by simpa using unlocked, taken⟩
  | _ => cases isStart

theorem stepOperation_case
    {environment : Environment} {world world' : World} {action : Action}
    (taken : stepOperation environment world action.now action.event =
      some world') : StepCase environment world action world' := by
  obtain ⟨event, now⟩ := action
  cases event with
  | proceedDownload key answer workId =>
      unfold stepOperation at taken
      dsimp only at taken
      split at taken
      case h_2 => cases taken
      next run found =>
      split at taken
      · obtain rfl := Option.some.inj taken
        exact .operate rfl found .raised
      · next proceeds =>
          obtain rfl := Option.some.inj taken
          exact .operate rfl found (.download proceeds)
      · next proceeds =>
          obtain rfl := Option.some.inj taken
          exact .operate rfl found (.download proceeds)
  | raiseDownload key =>
      unfold stepOperation at taken
      dsimp only at taken
      split at taken
      case h_2 => cases taken
      next run found =>
      obtain rfl := Option.some.inj taken
      exact .operate rfl found .raised
  | proceedRetention key files event =>
      unfold stepOperation at taken
      dsimp only at taken
      split at taken
      case h_2 => cases taken
      next playlistId execution found =>
      obtain ⟨next, steps, rfl⟩ := Option.map_eq_some_iff.mp taken
      have case := @StepCase.operate environment world
        ⟨.proceedRetention key files event, now⟩ key _ _ _ rfl found
        (.retention steps)
      revert case
      split <;> exact id
  | proceedFolderMove key files event =>
      unfold stepOperation at taken
      dsimp only at taken
      split at taken
      case h_2 => cases taken
      next execution found =>
      obtain ⟨next, steps, rfl⟩ := Option.map_eq_some_iff.mp taken
      have case := @StepCase.operate environment world
        ⟨.proceedFolderMove key files event, now⟩ key _ _ _ rfl found
        (.folderMove steps)
      revert case
      split <;> exact id
  | stop key =>
      obtain ⟨operation, found, rfl⟩ := Option.map_eq_some_iff.mp taken
      exact .operate rfl found .stopped
  | _ => cases taken

theorem step_case
    {environment : Environment} {world world' : World} {action : Action}
    (taken : step environment world action = some world') :
    StepCase environment world action world' := by
  have start : action.event.isStart = true →
      some (stepStart environment world action.now action.event) =
        some world' → StepCase environment world action world' := by
    intro isStart starts
    obtain rfl := Option.some.inj starts
    exact stepStart_case isStart
  have user : (stepUser environment world.db action.now action.event).map
      world.withDb = some world' →
        StepCase environment world action world' := by
    intro mapped
    obtain ⟨db, acts, rfl⟩ := Option.map_eq_some_iff.mp mapped
    exact .user acts
  obtain ⟨event, now⟩ := action
  cases event with
  | system event =>
      unfold step at taken
      dsimp only at taken
      split at taken
      · cases taken
      · next notPart =>
          obtain ⟨system, steps, rfl⟩ := Option.map_eq_some_iff.mp taken
          exact .system rfl (by simpa using notPart) steps
  | startDiscover | startDownload | startRetention | startFolderMove =>
      exact start rfl taken
  | proceedDownload | raiseDownload | proceedRetention
  | proceedFolderMove | stop =>
      exact stepOperation_case taken
  | _ => exact user taken

end Sluicery.Operations
