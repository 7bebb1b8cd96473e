import Sluicery.Tasks.Worker

/-!
# Cancel from the web and the command line

The web reflects a cancelled task on its Target and then every cancelled task
of its Run; the command line reflects the one task.  Cancelling a Run also
finishes the Run.
-/

namespace Sluicery.Web

open Sluicery.Library Sluicery.Db Sluicery.Db.TaskRepository Sluicery.Core

/-- The reflection of a cancelled task. -/
def syncCancelled (targets : Table TargetRow) (task : TaskRow)
    (now : Time) : Table TargetRow :=
  (syncTargetAfterTask targets task .cancelled none false now).2

/-- The loop of `sync_cancelled_targets`. -/
def syncCancelledTasks (now : Time) :
    List (Nat × TaskRow) → Table TargetRow → Table TargetRow
  | [], targets => targets
  | task :: rest, targets =>
      syncCancelledTasks now rest (syncCancelled targets task.2 now)

/-- The cancelled tasks of a Run. -/
def cancelledTasks (tasks : Table TaskRow) (runId : Nat) :
    List (Nat × TaskRow) :=
  tasks.select fun _ task =>
    task.runId == some runId && task.status == .cancelled

/-- `sync_cancelled_targets`. -/
def syncCancelledTargets (tasks : Table TaskRow)
    (targets : Table TargetRow) (runId : Nat) (now : Time) :
    Table TargetRow :=
  syncCancelledTasks now (cancelledTasks tasks runId) targets

/-- `task_cancel`: `none` is the answer 404. -/
def taskCancel (db : Database) (taskId : Nat) (now : Time) :
    Option Database :=
  (db.task.get taskId).map fun before =>
    let requested := requestCancel db.task taskId now
    let cancelled := { db with task := requested.2 }
    match requested.2.get taskId with
    | none => cancelled
    | some task =>
        if task.status = .cancelled then
          let synced := syncCancelled db.target task now
          { cancelled with
            target :=
              match before.runId with
              | none => synced
              | some runId =>
                  syncCancelledTargets requested.2 synced runId now }
        else cancelled

/-- The command `task cancel`; `none` is an error. -/
def cliTaskCancel (db : Database) (taskId : Nat) (now : Time) :
    Option Database :=
  (db.task.get taskId).bind fun _ =>
    let requested := requestCancel db.task taskId now
    let cancelled := { db with task := requested.2 }
    if requested.1 then
      match requested.2.get taskId with
      | none => some cancelled
      | some task =>
          if task.status = .cancelled then
            some { cancelled with
              target := syncCancelled db.target task now }
          else some cancelled
    else none

/-- `run_cancel`: `none` is the answer 404. -/
def runCancel (db : Database) (runId : Nat) (now : Time) :
    Option Database :=
  (db.run.get runId).map fun run =>
    let requested := requestCancelRun db.task runId now
    let cancelled := { db with task := requested.2 }
    if requested.1 = 0 then cancelled
    else
      { cancelled with
        run := (RunRepository.finish db.run runId .cancelled
          (run.statsJson.getD []) now).2
        target := syncCancelledTargets requested.2 db.target runId now }

/-! ## The command which waits for a discover Run -/

/-- The command is interrupted while it waits. -/
def interruptDiscover (db : Database) (runId taskId : Nat) (now : Time) :
    Database :=
  { db with
    task := (requestCancel db.task taskId now).2
    run := (RunRepository.finish db.run runId .cancelled [] now).2 }

/-- The command sees the task in a terminal status. -/
def concludeDiscover (db : Database) (runId taskId : Nat) (now : Time) :
    Option Database :=
  match db.task.get taskId, db.run.get runId with
  | some task, some run =>
      if isUnfinished task.status then none
      else if task.status ≠ .succeeded ∧ run.status = .running then
        some { db with
          run := (RunRepository.finish db.run runId
            (if task.status = .cancelled then .cancelled else .failed)
            (run.statsJson.getD []) now).2 }
      else some db
  | _, _ => none

end Sluicery.Web
