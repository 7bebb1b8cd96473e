import Sluicery.Core.DownloadPhase

/-!
# Recovery and skipped starts of the scheduler

`recover_orphan_runs` ends running Runs which have no unfinished task, from
the age of the Run alone: whether the function which started the Run still
runs is not recorded.
-/

namespace Sluicery.Scheduler

open Sluicery.Library Sluicery.Db Sluicery.Db.TaskRepository

/-- `_TASKLESS_DOWNLOAD_RECOVERY_SEC`, in microseconds. -/
def tasklessDownloadRecovery : Time := 24 * 60 * 60 * 1000000

/-- The tasks of a Run. -/
def runTasks (db : Database) (runId : Nat) : List (Nat × TaskRow) :=
  db.task.select fun _ task => task.runId == some runId

/-- The Run is recovered. -/
def isOrphan (db : Database) (staleThreshold now : Time) (runId : Nat)
    (run : RunRow) : Bool :=
  let tasks := runTasks db runId
  run.status == .running &&
    decide (run.startedAt < now - staleThreshold) &&
    !(tasks.any fun task => isUnfinished task.2.status) &&
    !(tasks.isEmpty && run.kind == "download" &&
      decide (now - tasklessDownloadRecovery ≤ run.startedAt))

/-- The final status of a recovered Run. -/
def orphanStatus (tasks : List (Nat × TaskRow)) : RunStatus :=
  if !tasks.isEmpty && tasks.all fun task => task.2.status == .succeeded then
    .succeeded
  else if tasks.any fun task => task.2.status == .cancelled then .cancelled
  else .failed

/-- The statistics of a recovered Run, with those of its last task. -/
def orphanStats (run : RunRow) (tasks : List (Nat × TaskRow)) :
    Json.Fields :=
  let stats :=
    Json.set (run.statsJson.getD []) "recovered_orphan" (.bool true)
  let taskStats := tasks.getLast?.bind fun task =>
    Json.lookup (task.2.payloadJson.getD []) "stats"
  match orphanStatus tasks, taskStats with
  | .succeeded, some (.obj fields) => Json.update stats fields
  | _, _ => stats

/-- The loop of `recover_orphan_runs` over the Runs. -/
def recoverEach (db : Database) (now : Time) :
    List (Nat × RunRow) → Table RunRow → Table RunRow
  | [], runs => runs
  | entry :: rest, runs =>
      let tasks := runTasks db entry.1
      recoverEach db now rest (RunRepository.finish runs entry.1
        (orphanStatus tasks) (orphanStats entry.2 tasks) now).2

/-- `recover_orphan_runs`. -/
def recoverOrphanRuns (db : Database) (staleThreshold now : Time) :
    Database :=
  { db with
    run := recoverEach db now
      (db.run.select (isOrphan db staleThreshold now)) db.run }

/-- `_record_skipped`: the Run of a start which was refused. -/
def recordSkipped (db : Database) (playlistId : Nat) (kind : String)
    (reason : String) (now : Time) : Database :=
  if (db.playlist.get playlistId).any fun playlist =>
      playlist.enabled && !playlist.paused then
    let run := RunRepository.start db.run .schedule kind playlistId now
    { db with
      run := (RunRepository.finish run.2 run.1 .skipped
        (Core.syncStats 0 0 0 0 0 ++
          [("skipped", .bool true), ("skip_reason", .str reason)]) now).2 }
  else db

end Sluicery.Scheduler
