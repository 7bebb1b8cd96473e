import Sluicery.Tasks.Handlers
import Sluicery.Tasks.Queue

/-!
# The worker and the stale task reaper

`_apply_result` settles a task and reflects the settlement on its Target;
the reaper recovers stale tasks, and reflects those which ended on their
Target and, for a discover task, on its Run.
-/

namespace Sluicery.Tasks.Worker

open Sluicery.Library Sluicery.Db Sluicery.Db.TaskRepository
open Sluicery.Core Sluicery.Tasks.Handlers

/-- The waiting times of a `WorkerConfig` which settlements use. -/
structure Config where
  blockedRetry : Time
  blockedRetry403 : Time
  staleThreshold : Time

/-- `if result.payload_update:` writes it; an empty update is skipped. -/
def writePayloadUpdate (tasks : Table TaskRow) (taskId : Nat)
    (workerId : String) : Option Json.Fields → Table TaskRow
  | none | some [] => tasks
  | some values => (writeResultPayload tasks taskId workerId values).2

/-- The waiting time of a blocked task. -/
def blockedRetryAfter (config : Config) (reasonCode : Option String) : Time :=
  if reasonCode = some "http_403" ∨ reasonCode = some "bot_check" then
    config.blockedRetry403
  else config.blockedRetry

/-- The settlement of `_apply_result`, with the `final_status` it found. -/
def settle (tasks : Table TaskRow) (config : Config) (taskId : Nat)
    (workerId : String) (result : TaskResult) (retryDelay now : Time) :
    Option TaskStatus × Table TaskRow :=
  match result.outcome with
  | .succeeded => (none, (markSucceeded tasks taskId workerId now).2)
  | .cancelled =>
      let marked := markCancelled tasks taskId workerId now
      (if marked.1 then some .cancelled else none, marked.2)
  | .unavailable =>
      let marked := markUnavailable tasks taskId workerId result.message now
      (if marked.1 then some .unavailable else none, marked.2)
  | .blocked =>
      let marked := markBlocked tasks taskId workerId
        (blockedRetryAfter config result.reasonCode) result.message now
      (if marked.1 then (marked.2.get taskId).map TaskRow.status else none,
        marked.2)
  | .failed =>
      markFailedForRetry tasks taskId workerId retryDelay result.message now

/-- `_apply_result`, for the task as it was claimed. -/
def applyResult (db : Database) (config : Config) (taskId : Nat)
    (task : TaskRow) (workerId : String) (result : TaskResult)
    (retryDelay now : Time) : Database :=
  let settled := settle
    (writePayloadUpdate db.task taskId workerId result.payloadUpdate)
    config taskId workerId result retryDelay now
  match settled.1 with
  | none => { db with task := settled.2 }
  | some finalStatus =>
      { db with
        task := settled.2
        target := (syncTargetAfterTask db.target task finalStatus
          result.message (result.outcome == .failed) now).2 }

/-- `TaskType.value`. -/
def taskTypeValue : TaskType → String
  | .discover => "discover"
  | .download => "download"
  | .verify => "verify"
  | .postprocess => "postprocess"
  | .publish => "publish"
  | .index => "index"
  | .integrityCheck => "integrity_check"
  | .retention => "retention"
  | .updateYtdlp => "update_ytdlp"
  | .noop => "noop"
  | .sleep => "sleep"
  | .fail => "fail"
  | .failUnavailable => "fail_unavailable"
  | .failBlocked => "fail_blocked"
  | .spawn => "spawn"

/-- The message for a task type without a handler. -/
def handlerMissing (type : TaskType) : String :=
  "Task type " ++ taskTypeValue type ++ " のハンドラが未登録です"

/-- `_finish_unavailable`: no handler is registered for the task type. -/
def finishUnavailable (db : Database) (taskId : Nat) (workerId : String)
    (message : String) (now : Time) : Database :=
  match db.task.get taskId with
  | none => db
  | some task =>
      let marked :=
        markUnavailable db.task taskId workerId (some message) now
      if marked.1 then
        { db with
          task := marked.2
          target := (syncTargetAfterTask db.target task .unavailable
            (some message) false now).2 }
      else { db with task := marked.2 }

/-! ## `StaleTaskReaper` -/

/-- The Run of a discover task which ended in stale recovery. -/
def reapRun (runs : Table RunRow) (task : TaskRow) (now : Time) :
    Table RunRow :=
  match task.type, task.runId with
  | .discover, some runId =>
      match runs.get runId with
      | none => runs
      | some run =>
          if run.status = .running then
            (RunRepository.finish runs runId .failed
              (Json.update (run.statsJson.getD [])
                [("empty_result", .bool true),
                  ("stale_recovered", .bool true)]) now).2
          else runs
  | _, _ => runs

/-- One recovered task: its Target and Run, if it ended. -/
def reapTask (db : Database) (now : Time) (taskId : Nat) : Database :=
  match db.task.get taskId with
  | none => db
  | some task =>
      if task.status = .unavailable then
        { db with
          target := (syncTargetAfterTask db.target task .unavailable
            (some ((task.errorMessage.filter (· ≠ "")).getD
              "stale Taskが再試行上限に達しました")) false now).2
          run := reapRun db.run task now }
      else db

/-- The loop of `run_once` over the recovered tasks. -/
def reapTasks (now : Time) : List Nat → Database → Database
  | [], db => db
  | taskId :: rest, db => reapTasks now rest (reapTask db now taskId)

/-- `StaleTaskReaper.run_once`. -/
def reap (db : Database) (config : Config) (now : Time) : Database :=
  let recovered :=
    recoverStale db.task (now - config.staleThreshold) now
  reapTasks now recovered.1 { db with task := recovered.2 }

end Sluicery.Tasks.Worker
