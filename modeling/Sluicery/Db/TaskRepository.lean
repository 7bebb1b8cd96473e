import Sluicery.Db.Models
import Sluicery.Library.Descendants

/-!
# `TaskRepository`

The methods of the task queue, each one transaction on the task table.  A
method returns what the Python method returns next to the new table.  The
`...Values` functions are the `values(...)` of the `UPDATE` statements, with
their `case` expressions as conditionals on the row.
-/

namespace Sluicery.Db.TaskRepository

open Sluicery.Library

/-- `WAITING_STATUSES`, which are also the `CLAIMABLE_STATUSES`. -/
def isWaiting : TaskStatus → Bool
  | .pending | .queued | .blocked => true
  | _ => false

/-- `_ACTIVE_TASK_STATUSES`: the Task may still run. -/
def isUnfinished : TaskStatus → Bool
  | .pending | .queued | .running | .blocked => true
  | _ => false

/-! ## Enqueue and claim -/

/-- `enqueue`. -/
def enqueue (tasks : Table TaskRow)
    (type : TaskType) (targetRefType : String) (targetRefId : Nat)
    (payload : Json.Fields) (workerClass : WorkerClass) (maxAttempts : Nat)
    (runId : Option Nat) : Nat × Table TaskRow :=
  (tasks.nextKey, tasks.insert
    { type, targetRefType, targetRefId, payloadJson := some payload,
      workerClass, status := .queued, maxAttempts, runId })

/-- `create`, with the columns the command `task enqueue` passes. -/
def createTestTask (tasks : Table TaskRow) (type : TaskType)
    (payload : Json.Fields) (workerClass : WorkerClass) (priority : Int)
    (maxAttempts : Nat) : Nat × Table TaskRow :=
  (tasks.nextKey, tasks.insert
    { type, targetRefType := "phase6_test", targetRefId := 0,
      payloadJson := some payload, workerClass, priority,
      status := .queued, maxAttempts })

/-- The dependency, if there is one, has succeeded. -/
def dependencySucceeded (tasks : Table TaskRow) (row : TaskRow) : Bool :=
  match row.dependsOnTaskId with
  | none => true
  | some parent =>
      match tasks.get parent with
      | none => false
      | some dependency => dependency.status == .succeeded

/-- Both waiting times have come.  SQL comparisons with `NULL` do not hold. -/
def timeEligible (claimedAt : Time) (row : TaskRow) : Bool :=
  (match row.availableAt with
    | none => true
    | some availableAt => availableAt ≤ claimedAt) &&
  (match row.blockedUntil with
    | none => row.status != .blocked
    | some blockedUntil => blockedUntil ≤ claimedAt)

/-- The number of running downloads. -/
def runningDownloads (tasks : Table TaskRow) : Nat :=
  tasks.count fun _ row => row.type == .download && row.status == .running

/-- A download needs a free slot when the claim of a network worker is limited. -/
def itemSlotAvailable (tasks : Table TaskRow) (workerClass : WorkerClass)
    (itemConcurrency : Option Nat) (row : TaskRow) : Bool :=
  match workerClass, itemConcurrency with
  | .network, some limit =>
      row.type != .download || runningDownloads tasks < limit
  | _, _ => true

/-- The `WHERE` clause of the claim candidate. -/
def eligible (tasks : Table TaskRow) (workerClass : WorkerClass)
    (claimedAt : Time) (itemConcurrency : Option Nat) (row : TaskRow) :
    Bool :=
  isWaiting row.status &&
  row.workerClass == workerClass &&
  !row.cancelRequested &&
  timeEligible claimedAt row &&
  dependencySucceeded tasks row &&
  itemSlotAvailable tasks workerClass itemConcurrency row

/-- `NULL` sorts before every time. -/
def scheduledBefore : Option Time → Option Time → Bool
  | none, none => false
  | none, some _ => true
  | some _, none => false
  | some left, some right => left < right

/-- `ORDER BY priority DESC, scheduled_at ASC`; rows come in key order. -/
def claimBefore (left right : TaskRow) : Bool :=
  right.priority < left.priority ||
  (right.priority == left.priority &&
    scheduledBefore left.scheduledAt right.scheduledAt)

/-- The first row of the ordered candidates (`LIMIT 1`). -/
def firstCandidate : List (Nat × TaskRow) → Option (Nat × TaskRow)
  | [] => none
  | entry :: rest =>
      match firstCandidate rest with
      | none => some entry
      | some best =>
          if claimBefore best.2 entry.2 then some best else some entry

/-- The values of a claim. -/
def claimValues (workerId : String) (claimedAt : Time) (row : TaskRow) :
    TaskRow :=
  { row with
    status := .running
    workerId := some workerId
    startedAt := some claimedAt
    heartbeatAt := some claimedAt
    finishedAt := none
    availableAt := none
    blockedUntil := none
    blockedReason := none }

/-- The task `claim_next` picks. -/
def claimCandidate (tasks : Table TaskRow) (workerClass : WorkerClass)
    (claimedAt : Time) (itemConcurrency : Option Nat) : Option Nat :=
  (firstCandidate (tasks.select fun _ row =>
    eligible tasks workerClass claimedAt itemConcurrency row)).map Prod.fst

/-- `claim_next`. -/
def claimNext (tasks : Table TaskRow) (workerClass : WorkerClass)
    (workerId : String) (claimedAt : Time) (itemConcurrency : Option Nat) :
    Except String (Option Nat × Table TaskRow) :=
  if itemConcurrency = some 0 then
    .error "item_concurrencyは1以上にしてください"
  else
    match claimCandidate tasks workerClass claimedAt itemConcurrency with
    | none => .ok (none, tasks)
    | some claimed =>
        .ok (some claimed, tasks.modify claimed (claimValues workerId claimedAt))

/-! ## Updates guarded by ownership -/

/-- The ownership condition shared by the updates of a running task. -/
def ownedBy (taskId : Nat) (workerId : String) (key : Nat) (row : TaskRow) :
    Bool :=
  key == taskId && row.status == .running && row.workerId == some workerId

/-- One guarded `UPDATE`, with the row it returns. -/
def updateOwned (tasks : Table TaskRow) (taskId : Nat) (workerId : String)
    (values : TaskRow → TaskRow) : Option TaskRow × Table TaskRow :=
  (((tasks.get taskId).filter (ownedBy taskId workerId taskId)).map values,
    tasks.updateWhere (ownedBy taskId workerId) values)

/-- The values of a heartbeat. -/
def heartbeatValues (now : Time) (row : TaskRow) : TaskRow :=
  { row with heartbeatAt := some now }

/-- `heartbeat`: the cancel flag, while the caller owns the task. -/
def heartbeat (tasks : Table TaskRow) (taskId : Nat) (workerId : String)
    (now : Time) : Option Bool × Table TaskRow :=
  let updated := updateOwned tasks taskId workerId (heartbeatValues now)
  (updated.1.map TaskRow.cancelRequested, updated.2)

/-- The values of a payload write. -/
def payloadValues (payload : Json.Fields) (row : TaskRow) : TaskRow :=
  { row with payloadJson := some payload }

/-- `write_result_payload`. -/
def writeResultPayload (tasks : Table TaskRow) (taskId : Nat)
    (workerId : String) (values : Json.Fields) : Bool × Table TaskRow :=
  let updated := updateOwned tasks taskId workerId fun row =>
    payloadValues (Json.update (row.payloadJson.getD []) values) row
  (updated.1.isSome, updated.2)

/-- The fields of a merged payload; a patch object always yields an object. -/
def patchedFields (payload patch : Json.Fields) : Json.Fields :=
  match Json.mergePatch (.obj payload) (.obj patch) with
  | .obj fields => fields
  | _ => []

/-- `write_progress`; without a worker the update is not guarded. -/
def writeProgress (tasks : Table TaskRow) (taskId : Nat)
    (progress : Json.Fields) (workerId : Option String) :
    Bool × Table TaskRow :=
  let values := fun (row : TaskRow) =>
    payloadValues
      (patchedFields (row.payloadJson.getD []) [("progress", .obj progress)])
      row
  match workerId with
  | some workerId =>
      let updated := updateOwned tasks taskId workerId values
      (updated.1.isSome, updated.2)
  | none => ((tasks.get taskId).isSome, tasks.modify taskId values)

/-! ## Descendants -/

/-- The values of a descendant cancel. -/
def closeValues (cancelledAt : Time) (row : TaskRow) : TaskRow :=
  { row with
    status := .cancelled
    finishedAt := some cancelledAt
    cancelRequested := false }

/-- Waiting tasks are closed along `depends_on_task_id`. -/
def dependents (cancelledAt : Time) : Marking TaskRow where
  parent := TaskRow.dependsOnTaskId
  isOpen := fun row => isWaiting row.status
  mark := closeValues cancelledAt
  isOpen_mark := fun _ => rfl
  parent_mark := fun _ => rfl

/-- `cancel_descendants`; no walk is longer than the table. -/
def cancelDescendants (tasks : Table TaskRow) (taskId : Nat)
    (cancelledAt : Time) : Nat × Table TaskRow :=
  let walk := (dependents cancelledAt).close tasks.rows.length [taskId] tasks
  (walk.2, walk.1)

/-! ## Settlements -/

/-- The values of `_finish`. -/
def finishValues (status : TaskStatus) (now : Time)
    (errorMessage : Option String) (row : TaskRow) : TaskRow :=
  { row with
    status
    finishedAt := some now
    workerId := none
    heartbeatAt := none
    cancelRequested := false
    errorMessage }

/-- `_finish`. -/
def finish (tasks : Table TaskRow) (taskId : Nat) (workerId : String)
    (status : TaskStatus) (now : Time) (errorMessage : Option String) :
    Bool × Table TaskRow :=
  let updated :=
    updateOwned tasks taskId workerId (finishValues status now errorMessage)
  (updated.1.isSome, updated.2)

/-- `_finish`, and the descendants of a task which ended without success. -/
def finishAndClose (tasks : Table TaskRow) (taskId : Nat)
    (workerId : String) (status : TaskStatus) (now : Time)
    (errorMessage : Option String) : Bool × Table TaskRow :=
  let finished := finish tasks taskId workerId status now errorMessage
  if finished.1 then
    (true, (cancelDescendants finished.2 taskId now).2)
  else finished

/-- `mark_succeeded`. -/
def markSucceeded (tasks : Table TaskRow) (taskId : Nat)
    (workerId : String) (now : Time) : Bool × Table TaskRow :=
  finish tasks taskId workerId .succeeded now none

/-- `mark_unavailable`. -/
def markUnavailable (tasks : Table TaskRow) (taskId : Nat)
    (workerId : String) (errorMessage : Option String) (now : Time) :
    Bool × Table TaskRow :=
  finishAndClose tasks taskId workerId .unavailable now errorMessage

/-- `mark_failed`. -/
def markFailed (tasks : Table TaskRow) (taskId : Nat) (workerId : String)
    (errorMessage : Option String) (now : Time) : Bool × Table TaskRow :=
  finishAndClose tasks taskId workerId .failed now errorMessage

/-- `mark_cancelled`. -/
def markCancelled (tasks : Table TaskRow) (taskId : Nat)
    (workerId : String) (now : Time) : Bool × Table TaskRow :=
  finishAndClose tasks taskId workerId .cancelled now none

/-- The values of `mark_failed_for_retry`. -/
def retryValues (failedAt retryDelay : Time) (errorMessage : Option String)
    (row : TaskRow) : TaskRow :=
  let attemptsExhausted : Bool := row.attempts + 1 ≥ row.maxAttempts
  let ended := row.cancelRequested || attemptsExhausted
  { row with
    status :=
      if row.cancelRequested then .cancelled
      else if attemptsExhausted then .unavailable
      else .pending
    attempts := if row.cancelRequested then row.attempts else row.attempts + 1
    availableAt := if ended then none else some (failedAt + retryDelay)
    finishedAt := if ended then some failedAt else none
    errorMessage
    workerId := none
    startedAt := none
    heartbeatAt := none
    cancelRequested := false }

/-- `mark_failed_for_retry`. -/
def markFailedForRetry (tasks : Table TaskRow) (taskId : Nat)
    (workerId : String) (retryDelay : Time) (errorMessage : Option String)
    (failedAt : Time) : Option TaskStatus × Table TaskRow :=
  let updated := updateOwned tasks taskId workerId
    (retryValues failedAt retryDelay errorMessage)
  let status := updated.1.map TaskRow.status
  if status = some .unavailable ∨ status = some .cancelled then
    (status, (cancelDescendants updated.2 taskId failedAt).2)
  else (status, updated.2)

/-- The values of `mark_blocked`. -/
def blockValues (blockedAt retryAfter : Time) (reason : Option String)
    (row : TaskRow) : TaskRow :=
  { row with
    status := if row.cancelRequested then .cancelled else .blocked
    blockedUntil :=
      if row.cancelRequested then none else some (blockedAt + retryAfter)
    blockedReason := if row.cancelRequested then none else reason
    workerId := none
    startedAt := none
    heartbeatAt := none
    finishedAt := if row.cancelRequested then some blockedAt else none
    availableAt := none
    cancelRequested := false
    errorMessage := if row.cancelRequested then none else reason }

/-- `mark_blocked`. -/
def markBlocked (tasks : Table TaskRow) (taskId : Nat) (workerId : String)
    (retryAfter : Time) (reason : Option String) (blockedAt : Time) :
    Bool × Table TaskRow :=
  let updated := updateOwned tasks taskId workerId
    (blockValues blockedAt retryAfter reason)
  if updated.1.map TaskRow.status = some .cancelled then
    (true, (cancelDescendants updated.2 taskId blockedAt).2)
  else (updated.1.isSome, updated.2)

/-- The values of `release_for_shutdown`. -/
def releaseValues (now : Time) (row : TaskRow) : TaskRow :=
  { row with
    status := .pending
    availableAt := some now
    workerId := none
    startedAt := none
    heartbeatAt := none
    finishedAt := none
    cancelRequested := false }

/-- `release_for_shutdown`. -/
def releaseForShutdown (tasks : Table TaskRow) (taskId : Nat)
    (workerId : String) (now : Time) : Bool × Table TaskRow :=
  let updated := updateOwned tasks taskId workerId (releaseValues now)
  (updated.1.isSome, updated.2)

/-! ## Cancel, retry and stale recovery -/

/-- The values of `request_cancel`. -/
def requestCancelValues (requestedAt : Time) (row : TaskRow) : TaskRow :=
  if row.status = .running then { row with cancelRequested := true }
  else
    { row with
      status := .cancelled
      finishedAt := some requestedAt
      cancelRequested := false
      workerId := none
      startedAt := none
      heartbeatAt := none
      availableAt := none
      blockedUntil := none
      blockedReason := none }

/-- `request_cancel`. -/
def requestCancel (tasks : Table TaskRow) (taskId : Nat)
    (requestedAt : Time) : Bool × Table TaskRow :=
  let updated := tasks.updateWhere
    (fun key row => key == taskId && isUnfinished row.status)
    (requestCancelValues requestedAt)
  let returned := ((tasks.get taskId).filter fun row =>
    isUnfinished row.status).map (requestCancelValues requestedAt)
  if returned.map TaskRow.status = some .cancelled then
    (true, (cancelDescendants updated taskId requestedAt).2)
  else (returned.isSome, updated)

/-- The values for the waiting tasks of a cancelled Run. -/
def cancelRunWaitingValues (requestedAt : Time) (row : TaskRow) : TaskRow :=
  { row with
    status := .cancelled
    finishedAt := some requestedAt
    cancelRequested := false
    workerId := none
    startedAt := none
    heartbeatAt := none }

/-- The values for the running tasks of a cancelled Run. -/
def flagValues (row : TaskRow) : TaskRow :=
  { row with cancelRequested := true }

/-- `request_cancel_run`: the number of tasks it reached. -/
def requestCancelRun (tasks : Table TaskRow) (runId : Nat)
    (requestedAt : Time) : Nat × Table TaskRow :=
  let waiting := fun (_ : Nat) (row : TaskRow) =>
    row.runId == some runId && isWaiting row.status
  let running := fun (_ : Nat) (row : TaskRow) =>
    row.runId == some runId && row.status == .running
  let cancelled := tasks.updateWhere waiting (cancelRunWaitingValues requestedAt)
  (tasks.count waiting + cancelled.count running,
    cancelled.updateWhere running flagValues)

/-- The values of a manual retry. -/
def manualRetryValues (now : Time) (row : TaskRow) : TaskRow :=
  { row with
    status := .pending
    attempts := 0
    availableAt := some now
    blockedUntil := none
    blockedReason := none
    cancelRequested := false
    finishedAt := none
    errorMessage := none
    workerId := none
    startedAt := none
    heartbeatAt := none }

/-- `retry`. -/
def retry (tasks : Table TaskRow) (taskId : Nat) (now : Time) :
    Bool × Table TaskRow :=
  (((tasks.get taskId).filter fun row => row.status != .running).isSome,
    tasks.updateWhere
      (fun key row => key == taskId && row.status != .running)
      (manualRetryValues now))

/-- A running task without a heartbeat since `staleBefore`. -/
def isStale (staleBefore : Time) (row : TaskRow) : Bool :=
  row.status == .running &&
    match row.heartbeatAt with
    | some heartbeatAt => heartbeatAt < staleBefore
    | none =>
        match row.startedAt with
        | some startedAt => startedAt < staleBefore
        | none => false

/-- The recovered attempt was the last one. -/
def recoveryIsTerminal (row : TaskRow) : Bool :=
  row.attempts + 1 ≥ row.maxAttempts

/-- The values of a stale recovery. -/
def recoverValues (recoveredAt : Time) (row : TaskRow) : TaskRow :=
  { row with
    status := if recoveryIsTerminal row then .unavailable else .pending
    attempts := row.attempts + 1
    availableAt := if recoveryIsTerminal row then none else some recoveredAt
    finishedAt := if recoveryIsTerminal row then some recoveredAt else none
    workerId := none
    startedAt := none
    heartbeatAt := none }

/-- `cancel_descendants` of several tasks, one after the other. -/
def cancelAllDescendants (tasks : Table TaskRow) (cancelledAt : Time) :
    List Nat → Table TaskRow
  | [] => tasks
  | taskId :: rest =>
      cancelAllDescendants (cancelDescendants tasks taskId cancelledAt).2
        cancelledAt rest

/-- `recover_stale`: the recovered tasks. -/
def recoverStale (tasks : Table TaskRow) (staleBefore recoveredAt : Time) :
    List Nat × Table TaskRow :=
  let candidates := tasks.select fun _ row => isStale staleBefore row
  let terminalIds :=
    (candidates.filter fun entry => recoveryIsTerminal entry.2).map Prod.fst
  (candidates.map Prod.fst,
    cancelAllDescendants
      (tasks.updateWhere (fun _ row => isStale staleBefore row)
        (recoverValues recoveredAt))
      recoveredAt terminalIds)

end Sluicery.Db.TaskRepository
