import Sluicery.System.TaskSteps

/-!
# How tasks end

A write of the owner, a cancel and a stale recovery end a task and close what
depends on it; a row is ended by nothing else.  Which rows an operation can
end, and what it has done to the task it was called for, is stated per
operation.
-/

namespace Sluicery.System

open Sluicery.Library Sluicery.Library.Transition
open Sluicery.Db Sluicery.Db.TaskRepository
open Sluicery.Core Sluicery.Tasks Sluicery.Tasks.Handlers

/-! ## What ends with a task -/

/-- A row which does not wait is not closed. -/
theorem get_cancelDescendants_of_not_waiting
    {tasks : Table TaskRow} {key : Nat} {row : TaskRow}
    (root : Nat) (cancelledAt : Time)
    (found : tasks.get key = some row)
    (notWaiting : isWaiting row.status = false) :
    (cancelDescendants tasks root cancelledAt).2.get key = some row := by
  rw [get_cancelDescendants, found, Option.map_some, if_neg]
  intro descendant
  obtain ⟨other, foundOther, isOpen⟩ := descendant.isOpen
  rw [found, Option.some.injEq] at foundOther
  subst foundOther
  rw [show (dependents cancelledAt).isOpen row = isWaiting row.status from
    rfl, notWaiting] at isOpen
  cases isOpen

theorem get_cancelAllDescendants_of_not_waiting
    {tasks : Table TaskRow} {key : Nat} {row : TaskRow}
    (cancelledAt : Time) (roots : List Nat)
    (found : tasks.get key = some row)
    (notWaiting : isWaiting row.status = false) :
    (cancelAllDescendants tasks cancelledAt roots).get key = some row := by
  induction roots generalizing tasks with
  | nil => exact found
  | cons root rest induction =>
      exact induction (get_cancelDescendants_of_not_waiting root cancelledAt
        found notWaiting)

/-- A write ends nothing but the owner's task and what depends on it. -/
theorem write_cases
    {tasks : Table TaskRow} {key : Nat} {row : TaskRow}
    (root : Nat) (workerId : String) (write : Queue.Write)
    (found : tasks.get key = some row) :
    (write.perform tasks root workerId).2.get key = some row ∨
      (∃ rootRow, tasks.get root = some rootRow ∧
        ownedBy root workerId root rootRow = true) ∧
      (key = root ∨ DependsOnTransitively
        (write.perform tasks root workerId).2 key root) := by
  by_cases owned : ∃ rootRow, tasks.get root = some rootRow ∧
      ownedBy root workerId root rootRow = true
  · by_cases isRoot : key = root
    · exact Or.inr ⟨owned, Or.inl isRoot⟩
    · have rewrites := Queue.rewrites_write tasks root workerId write
      by_cases below : DependsOnTransitively
          (write.perform tasks root workerId).2 key root
      · exact Or.inr ⟨owned, Or.inr below⟩
      · refine Or.inl ((rewrites.unchanged ?_).trans found)
        intro change other allowed
        cases allowed with
        | write => exact isRoot rfl
        | writeClose belowBefore =>
            exact below ((dependsOnTransitively_iff_of_rewrites rewrites
              key root).mpr belowBefore)
  · refine Or.inl ?_
    rw [write.perform_of_not_owned fun rootRow foundRoot => ?_]
    · exact found
    · by_contra isOwned
      exact owned ⟨rootRow, foundRoot, by simpa using isOwned⟩

/-- The status in which its owner's settlement leaves a task. -/
def settledStatus (result : TaskResult) (row : TaskRow) : TaskStatus :=
  match result.outcome with
  | .succeeded => .succeeded
  | .cancelled => .cancelled
  | .unavailable => .unavailable
  | .blocked => if row.cancelRequested then .cancelled else .blocked
  | .failed =>
      if row.cancelRequested then .cancelled
      else if row.attempts + 1 ≥ row.maxAttempts then .unavailable
      else .pending

/-- The owner's settlement answers with the new status, but not a success. -/
theorem settle_of_owned
    {tasks : Table TaskRow} {taskId : Nat} {workerId : String}
    {row : TaskRow} (config : Worker.Config) (result : TaskResult)
    (retryDelay now : Time)
    (found : tasks.get taskId = some row)
    (owned : ownedBy taskId workerId taskId row = true)
    (notSucceeded : result.outcome ≠ .succeeded) :
    (Worker.settle tasks config taskId workerId result retryDelay now).1 =
      some (settledStatus result row) := by
  have updated := fun values => updateOwned_of_owned values found owned
  have foundAfter : ∀ values : TaskRow → TaskRow,
      (tasks.modify taskId values).get taskId = some (values row) := by
    intro values
    rw [Table.get_modify_self, found, Option.map_some]
  unfold Worker.settle settledStatus
  cases isOutcome : result.outcome with
  | succeeded => exact absurd isOutcome notSucceeded
  | cancelled =>
      simp [markCancelled, finishAndClose, finish, updated]
  | unavailable =>
      simp [markUnavailable, finishAndClose, finish, updated]
  | blocked =>
      by_cases requested : row.cancelRequested = true
      · have ended := get_cancelDescendants_of_not_waiting taskId now
          (foundAfter (blockValues now
            (Worker.blockedRetryAfter config result.reasonCode)
            result.message))
          (by simp [blockValues, requested, isWaiting])
        simp [markBlocked, updated, blockValues, requested] at ended ⊢
        simp [ended]
      · simp [markBlocked, updated, blockValues, requested, foundAfter]
  | failed =>
      dsimp only
      have isStatus : (markFailedForRetry tasks taskId workerId retryDelay
          result.message now).1 =
            some (retryValues now retryDelay result.message row).status := by
        simp only [markFailedForRetry, updated, Option.map_some]
        split <;> rfl
      rw [isStatus]
      simp [retryValues]

/-- Anyone else's settlement does nothing. -/
theorem settle_of_not_owned
    {tasks : Table TaskRow} {taskId : Nat} {workerId : String}
    (config : Worker.Config) (result : TaskResult) (retryDelay now : Time)
    (notOwned : ∀ row, tasks.get taskId = some row →
      ownedBy taskId workerId taskId row = false) :
    (Worker.settle tasks config taskId workerId result retryDelay now).1 =
      none := by
  have rejected := fun values => updateOwned_of_not_owned values notOwned
  unfold Worker.settle
  cases result.outcome <;>
    simp [markCancelled, markUnavailable, finishAndClose, finish,
      markFailedForRetry, markBlocked, rejected]

/-- Every end of a task but a success is reflected on the Target. -/
theorem reflects_settledStatus
    {result : TaskResult} (row : TaskRow)
    (notSucceeded : result.outcome ≠ .succeeded) :
    reflects (settledStatus result row) (result.outcome == .failed) =
      true := by
  unfold settledStatus
  cases isOutcome : result.outcome with
  | succeeded => exact absurd isOutcome notSucceeded
  | cancelled | unavailable => rfl
  | blocked =>
      dsimp only
      split <;> rfl
  | failed =>
      dsimp only
      split
      · rfl
      · split <;> rfl

/-- A payload update keeps everything else of a row. -/
theorem get_writePayloadUpdate
    {tasks : Table TaskRow} {key : Nat} {row : TaskRow}
    (taskId : Nat) (workerId : String) (update : Option Json.Fields)
    (found : tasks.get key = some row) :
    ∃ payloadJson,
      (Worker.writePayloadUpdate tasks taskId workerId update).get key =
        some { row with payloadJson } := by
  unfold Worker.writePayloadUpdate
  split
  · exact ⟨row.payloadJson, found⟩
  · exact ⟨row.payloadJson, found⟩
  · dsimp only [writeResultPayload, updateOwned]
    rw [Table.get_updateWhere, found, Option.map_some]
    split
    · exact ⟨_, rfl⟩
    · exact ⟨_, rfl⟩

/-- A cancel ends its task and what depends on it, or nothing. -/
theorem requestCancel_cases
    {tasks : Table TaskRow} {key : Nat} {row : TaskRow}
    (taskId : Nat) (requestedAt : Time)
    (found : tasks.get key = some row)
    (unfinished : isUnfinished row.status = true) :
    (∃ row', (requestCancel tasks taskId requestedAt).2.get key =
        some row' ∧ isUnfinished row'.status = true) ∨
      ((∃ task, (requestCancel tasks taskId requestedAt).2.get taskId =
          some task ∧ task.status = .cancelled) ∧
        (key = taskId ∧ row.status ≠ .running ∨ DependsOnTransitively
          (requestCancel tasks taskId requestedAt).2 key taskId)) := by
  have rewrites := Queue.rewrites_requestCancel tasks taskId requestedAt
  by_cases isTask : key = taskId
  · subst isTask
    by_cases running : row.status = .running
    · -- A running task is flagged, and nothing is closed.
      refine Or.inl ⟨{ row with cancelRequested := true }, ?_, unfinished⟩
      simp [requestCancel, found, requestCancelValues, running,
        isUnfinished, Table.get_updateWhere]
    · refine Or.inr ⟨⟨requestCancelValues requestedAt row, ?_, ?_⟩,
        Or.inl ⟨rfl, running⟩⟩
      · have ended : (tasks.updateWhere
            (fun other task => other == key && isUnfinished task.status)
            (requestCancelValues requestedAt)).get key =
              some (requestCancelValues requestedAt row) := by
          simp [Table.get_updateWhere, found, unfinished]
        have kept := get_cancelDescendants_of_not_waiting key requestedAt
          ended (by simp [requestCancelValues, running, isWaiting])
        simpa [requestCancel, found, unfinished, requestCancelValues,
          running] using kept
      · simp [requestCancelValues, running]
  · by_cases below : DependsOnTransitively
        (requestCancel tasks taskId requestedAt).2 key taskId
    · by_cases closes : ((tasks.get taskId).filter fun row =>
          isUnfinished row.status).map (fun row =>
            (requestCancelValues requestedAt row).status) = some .cancelled
      · obtain ⟨task, foundTask, isCancelled⟩ :=
          Option.map_eq_some_iff.mp closes
        obtain ⟨foundTask, taskUnfinished⟩ :=
          Option.filter_eq_some_iff.mp foundTask
        have ended : (tasks.updateWhere
            (fun other task => other == taskId && isUnfinished task.status)
            (requestCancelValues requestedAt)).get taskId =
              some (requestCancelValues requestedAt task) := by
          simp [Table.get_updateWhere, foundTask, taskUnfinished]
        have kept := get_cancelDescendants_of_not_waiting taskId requestedAt
          ended (by simp [isCancelled, isWaiting])
        refine Or.inr ⟨⟨requestCancelValues requestedAt task, ?_,
          isCancelled⟩, Or.inr below⟩
        simpa [requestCancel, foundTask, taskUnfinished, isCancelled]
          using kept
      · refine Or.inl ⟨row, ?_, unfinished⟩
        simp only [requestCancel, Option.map_map, Function.comp_def]
        rw [if_neg closes]
        simp [Table.get_updateWhere, found, isTask]
    · refine Or.inl ⟨row, (rewrites.unchanged ?_).trans found, unfinished⟩
      intro change other allowed
      cases allowed with
      | requestCancel => exact isTask rfl
      | cancelClose belowBefore =>
          exact below ((dependsOnTransitively_iff_of_rewrites rewrites key
            taskId).mpr belowBefore)

/-- The cancel of a Run ends its waiting tasks. -/
theorem requestCancelRun_cases
    {tasks : Table TaskRow} {key : Nat} {row : TaskRow}
    (runId : Nat) (requestedAt : Time)
    (found : tasks.get key = some row)
    (unfinished : isUnfinished row.status = true) :
    ∃ row', (requestCancelRun tasks runId requestedAt).2.get key =
        some row' ∧ fixedColumns row' = fixedColumns row ∧
      (isUnfinished row'.status = true ∨
        (row'.status = .cancelled ∧ row'.runId = some runId ∧
          (requestCancelRun tasks runId requestedAt).1 ≠ 0)) := by
  by_cases waits :
      (row.runId == some runId && isWaiting row.status) = true
  · refine ⟨cancelRunWaitingValues requestedAt row, ?_, rfl, Or.inr
      ⟨rfl, ?_, ?_⟩⟩
    · simp only [requestCancelRun, Table.get_updateWhere, found,
        Option.map_some]
      rw [if_pos waits, if_neg (by simp [cancelRunWaitingValues])]
    · simp only [Bool.and_eq_true, beq_iff_eq] at waits
      exact waits.1
    · have counted := (tasks.count_pos_iff fun _ (row : TaskRow) =>
        row.runId == some runId && isWaiting row.status).mpr
          ⟨key, row, found, waits⟩
      simp only [requestCancelRun]
      omega
  · by_cases runs : (row.runId == some runId && row.status == .running) =
        true
    · refine ⟨flagValues row, ?_, rfl, Or.inl unfinished⟩
      simp only [requestCancelRun, Table.get_updateWhere, found,
        Option.map_some]
      rw [if_neg waits, if_pos runs]
    · refine ⟨row, ?_, rfl, Or.inl unfinished⟩
      simp only [requestCancelRun, Table.get_updateWhere, found,
        Option.map_some]
      rw [if_neg waits, if_neg runs]

/-- A terminal stale task is unavailable after its recovery. -/
theorem recoverStale_terminal
    {tasks : Table TaskRow} {key : Nat} {row : TaskRow}
    (staleBefore recoveredAt : Time)
    (found : tasks.get key = some row)
    (stale : isStale staleBefore row = true)
    (terminal : recoveryIsTerminal row = true) :
    key ∈ (recoverStale tasks staleBefore recoveredAt).1 ∧
      (recoverStale tasks staleBefore recoveredAt).2.get key =
        some (recoverValues recoveredAt row) := by
  constructor
  · simp only [recoverStale, List.mem_map, Prod.exists,
      Table.mem_select_iff]
    exact ⟨key, row, ⟨found, stale⟩, rfl⟩
  · refine get_cancelAllDescendants_of_not_waiting recoveredAt _ ?_ ?_
    · rw [Table.get_updateWhere, found, Option.map_some, if_pos stale]
    · simp [recoverValues, terminal, isWaiting]

/-- A recovery ends terminal stale tasks and what depends on them. -/
theorem recoverStale_cases
    {tasks : Table TaskRow} {key : Nat} {row : TaskRow}
    (staleBefore recoveredAt : Time)
    (found : tasks.get key = some row)
    (unfinished : isUnfinished row.status = true) :
    (∃ row', (recoverStale tasks staleBefore recoveredAt).2.get key =
        some row' ∧ isUnfinished row'.status = true) ∨
      ∃ root rootRow, tasks.get root = some rootRow ∧
        isStale staleBefore rootRow = true ∧
        recoveryIsTerminal rootRow = true ∧
        (key = root ∨ DependsOnTransitively
          (recoverStale tasks staleBefore recoveredAt).2 key root) := by
  have rewrites := Queue.rewrites_recoverStale tasks staleBefore recoveredAt
  by_cases ends : ∃ root rootRow, tasks.get root = some rootRow ∧
      isStale staleBefore rootRow = true ∧
      recoveryIsTerminal rootRow = true ∧
      (key = root ∨ DependsOnTransitively
        (recoverStale tasks staleBefore recoveredAt).2 key root)
  · exact Or.inr ends
  · obtain ⟨row', found', chain⟩ := rewrites.found found
    refine Or.inl ⟨row', found', chain.invariant
      (fun other => isUnfinished other.status = true) unfinished ?_⟩
    intro change other _ _ allowed
    cases allowed with
    | recover foundOther stale =>
        simp only [changes, Change.values, recoverValues]
        split
        · next terminal =>
            exact absurd ⟨key, other, foundOther, stale, terminal,
              Or.inl rfl⟩ ends
        · rfl
    | recoverClose foundRoot stale terminal below =>
        exact absurd ⟨_, _, foundRoot, stale, terminal, Or.inr
          ((dependsOnTransitively_iff_of_rewrites rewrites key _).mpr
            below)⟩ ends

/-! ## Events which end no task -/

/-- The operations which settle, recover or cancel. -/
def Event.mayEnd : Event → Bool
  | .settle .. | .finishUnavailable .. | .reap | .webCancelTask ..
  | .cliCancelTask .. | .cancelRun .. | .interruptDiscover .. => true
  | _ => false

section Quiet

variable {environment : Environment} {state state' : State} {now : Time}
  {event : Event} {taskId : Nat} {row : TaskRow}
  (quiet : event.mayEnd = false)
  (found : state.db.task.get taskId = some row)
  (unfinished : isUnfinished row.status = true)

include quiet found unfinished

private theorem stepExecution_unfinished
    {key : Nat} {execution : Execution}
    (taken : stepExecution environment state now key execution event =
      some state') :
    ∃ row', state'.db.task.get taskId = some row' ∧
      isUnfinished row'.status = true := by
  have same : state'.db.task = state.db.task →
      ∃ row', state'.db.task.get taskId = some row' ∧
        isUnfinished row'.status = true :=
    fun equal => ⟨row, by rw [equal, found], unfinished⟩
  -- A write which keeps its task unfinished.
  have updated : ∀ values : TaskRow → TaskRow,
      (∀ other, isUnfinished other.status = true →
        isUnfinished (values other).status = true) →
      state'.db.task = (updateOwned state.db.task execution.taskId
        execution.workerId values).2 →
      ∃ row', state'.db.task.get taskId = some row' ∧
        isUnfinished row'.status = true := by
    intro values keeps equal
    rw [equal, updateOwned, Table.get_updateWhere, found, Option.map_some]
    refine ⟨_, rfl, ?_⟩
    split
    · exact keeps row unfinished
    · exact unfinished
  cases event with
  | heartbeat =>
      obtain rfl := Option.some.inj taken
      exact updated (heartbeatValues now) (fun _ => id) rfl
  | progress _ fields =>
      obtain rfl := Option.some.inj taken
      exact updated
        (fun row => payloadValues (patchedFields (row.payloadJson.getD [])
          [("progress", .obj fields)]) row) (fun _ => id) rfl
  | start =>
      simp only [stepExecution] at taken
      split at taken
      · obtain ⟨started, starts, rfl⟩ := Option.map_eq_some_iff.mp taken
        exact same (startHandler_task _ _ starts)
      · cases taken
  | finish =>
      simp only [stepExecution] at taken
      split at taken
      · obtain ⟨finished, finishes, rfl⟩ := Option.map_eq_some_iff.mp taken
        exact same (finishHandler_task _ _ finishes)
      · cases taken
  | raise =>
      simp only [stepExecution] at taken
      split at taken
      · obtain rfl := Option.some.inj taken
        exact same rfl
      · obtain rfl := Option.some.inj taken
        exact same rfl
      · cases taken
  | release =>
      simp only [stepExecution] at taken
      split at taken
      · cases taken
      · obtain rfl := Option.some.inj taken
        exact updated (releaseValues now) (fun _ _ => rfl) rfl
  | crash =>
      obtain rfl := Option.some.inj taken
      exact same rfl
  | settle | finishUnavailable => cases quiet
  | _ => cases taken

private theorem stepDatabase_unfinished
    (taken : stepDatabase environment state now event = some state') :
    ∃ row', state'.db.task.get taskId = some row' ∧
      isUnfinished row'.status = true := by
  have same : state'.db.task = state.db.task →
      ∃ row', state'.db.task.get taskId = some row' ∧
        isUnfinished row'.status = true :=
    fun equal => ⟨row, by rw [equal, found], unfinished⟩
  cases event with
  | createTarget =>
      obtain rfl := Option.some.inj taken
      exact same rfl
  | startDiscover playlistId dryRun trigger attempts =>
      obtain ⟨started, starts, rfl⟩ := Option.map_eq_some_iff.mp taken
      obtain ⟨-, -, rfl⟩ := ok_of_enqueueDiscoverRun (ok_of_toOption starts)
      exact ⟨row, Table.get_insert_of_some _ found, unfinished⟩
  | blockTarget | reopenTarget =>
      obtain ⟨_, _, rfl⟩ := Option.map_eq_some_iff.mp taken
      exact same rfl
  | enqueueTarget targetId runId workId maxAttempts =>
      obtain ⟨enqueued, enqueues, rfl⟩ := Option.map_eq_some_iff.mp taken
      unfold enqueueTargetPipeline at enqueues
      split at enqueues
      · cases enqueues
      · obtain rfl := Option.some.inj enqueues
        exact same rfl
      · obtain rfl := Option.some.inj enqueues
        exact ⟨row, (enqueuePipeline_extends state.db.task targetId runId
          workId maxAttempts).kept found, unfinished⟩
  | claim workerClass workerId itemConcurrency =>
      simp only [stepDatabase] at taken
      split at taken
      · cases taken
      · obtain rfl := Option.some.inj taken
        exact same rfl
      · next claimed tasks claims =>
          obtain ⟨_, _, rfl⟩ := Option.map_eq_some_iff.mp taken
          have isClaimed := (Queue.claimNext_cases claims).2
          dsimp only at isClaimed
          subst isClaimed
          dsimp only
          rw [Table.get_modify, found]
          split
          · exact ⟨_, rfl, rfl⟩
          · exact ⟨_, rfl, unfinished⟩
  | concludeDiscover =>
      simp only [stepDatabase] at taken
      split at taken
      · obtain ⟨_, concludes, rfl⟩ := Option.map_eq_some_iff.mp taken
        refine same ?_
        unfold Web.concludeDiscover at concludes
        split at concludes
        · split at concludes
          · cases concludes
          · split at concludes <;> obtain rfl := Option.some.inj concludes <;>
              rfl
        · cases concludes
      · cases taken
  | reap | webCancelTask | cliCancelTask | cancelRun
  | interruptDiscover => cases quiet
  | _ => cases taken

theorem unfinished_of_not_mayEnd
    (taken : step environment state ⟨event, now⟩ = some state') :
    ∃ row', state'.db.task.get taskId = some row' ∧
      isUnfinished row'.status = true := by
  unfold step at taken
  split at taken
  · exact stepDatabase_unfinished quiet found unfinished taken
  · obtain ⟨execution, _, taken⟩ := Option.bind_eq_some_iff.mp taken
    exact stepExecution_unfinished quiet found unfinished taken

end Quiet

end Sluicery.System
