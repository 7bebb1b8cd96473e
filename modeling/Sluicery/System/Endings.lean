import Sluicery.System.Payloads
import Sluicery.System.Targets
import Sluicery.System.TaskEndings

/-!
# The end of a task ends the progress of its Target

An operation which ends a task without success also ends what depends on it,
and then reflects the end on the Target.  All these tasks belong to one
Target, so none of them leaves its Target in progress.  The only silent end
is a success.
-/

namespace Sluicery.System

open Sluicery.Library Sluicery.Library.Transition
open Sluicery.Db Sluicery.Db.TaskRepository
open Sluicery.Core Sluicery.Tasks Sluicery.Tasks.Handlers

/-! ## Targets out of progress -/

/-- The Target is not in progress. -/
def OutOfProgress (targets : Table TargetRow) (targetId : Nat) : Prop :=
  ∀ row, targets.get targetId = some row → isInProgress row.status = false

theorem OutOfProgress.of_noneEnters
    {before after : Table TargetRow} {targetId : Nat}
    (out : OutOfProgress before targetId)
    (none : NoneEnters before after) : OutOfProgress after targetId := by
  intro row' found'
  by_contra inProgress
  obtain ⟨row, found, before⟩ :=
    none targetId row' found' (by simpa using inProgress)
  rw [out row found] at before
  cases before

theorem outOfProgress_sync
    {targets : Table TargetRow} {task : TaskRow} {taskStatus : TaskStatus}
    {error : Option String} {failedAttempt : Bool} {now : Time}
    (isTarget : task.targetRefType = "target")
    (ended : reflects taskStatus failedAttempt = true) :
    OutOfProgress (syncTargetAfterTask targets task taskStatus error
      failedAttempt now).2 task.targetRefId :=
  fun _ found => not_inProgress_of_sync isTarget ended found

theorem outOfProgress_syncCancelledTasks
    {now : Time} {tasks : List (Nat × TaskRow)} {targets : Table TargetRow}
    {task : Nat × TaskRow} (member : task ∈ tasks)
    (isTarget : task.2.targetRefType = "target") :
    OutOfProgress (Web.syncCancelledTasks now tasks targets)
      task.2.targetRefId := by
  induction tasks generalizing targets with
  | nil => cases member
  | cons head rest induction =>
      rcases List.mem_cons.mp member with rfl | inRest
      · exact (outOfProgress_sync isTarget rfl).of_noneEnters
          (noneEnters_syncCancelledTasks _ _ _)
      · exact induction inRest

theorem outOfProgress_reapTasks
    {now : Time} {recovered : List Nat} {db : Database} {taskId : Nat}
    {task : TaskRow}
    (member : taskId ∈ recovered)
    (found : db.task.get taskId = some task)
    (isTarget : task.targetRefType = "target")
    (isUnavailable : task.status = .unavailable) :
    OutOfProgress (Worker.reapTasks now recovered db).target
      task.targetRefId := by
  induction recovered generalizing db with
  | nil => cases member
  | cons head rest induction =>
      rcases List.mem_cons.mp member with rfl | inRest
      · refine OutOfProgress.of_noneEnters ?_
          (noneEnters_reapTasks now rest (Worker.reapTask db now taskId))
        simp only [Worker.reapTask, found, isUnavailable, if_true]
        exact outOfProgress_sync isTarget rfl
      · refine induction inRest ?_
        have same : (Worker.reapTask db now head).task = db.task := by
          simpa [Worker.reapTasks] using reapTasks_task now [head] db
        rw [same]
        exact found

/-! ## Cancels and their reflection -/

/-- The web reflects a cancelled task on its Target. -/
theorem taskCancel_reflects
    {db after : Database} {cancelled : Nat} {now : Time}
    (cancels : Web.taskCancel db cancelled now = some after) :
    after.task = (requestCancel db.task cancelled now).2 ∧
      ∀ task, after.task.get cancelled = some task →
        task.status = .cancelled →
        NoneEnters (Web.syncCancelled db.target task now) after.target := by
  unfold Web.taskCancel at cancels
  obtain ⟨before, -, rfl⟩ := Option.map_eq_some_iff.mp cancels
  dsimp only
  split
  · next missing =>
      refine ⟨rfl, fun task foundTask => ?_⟩
      rw [missing] at foundTask
      cases foundTask
  · next other foundOther =>
      split
      · refine ⟨rfl, fun task foundTask _ => ?_⟩
        rw [foundOther, Option.some.injEq] at foundTask
        subst foundTask
        dsimp only
        split
        · exact .refl _
        · exact noneEnters_syncCancelledTasks _ _ _
      · next notCancelled =>
          refine ⟨rfl, fun task foundTask isCancelled => ?_⟩
          rw [foundOther, Option.some.injEq] at foundTask
          subst foundTask
          exact absurd isCancelled notCancelled

/-- So does the command line. -/
theorem cliTaskCancel_reflects
    {db after : Database} {cancelled : Nat} {now : Time}
    (cancels : Web.cliTaskCancel db cancelled now = some after) :
    after.task = (requestCancel db.task cancelled now).2 ∧
      ∀ task, after.task.get cancelled = some task →
        task.status = .cancelled →
        NoneEnters (Web.syncCancelled db.target task now) after.target := by
  unfold Web.cliTaskCancel at cancels
  obtain ⟨before, -, cancels⟩ := Option.bind_eq_some_iff.mp cancels
  dsimp only at cancels
  split at cancels
  · split at cancels
    · next missing =>
        obtain rfl := Option.some.inj cancels
        refine ⟨rfl, fun task foundTask => ?_⟩
        rw [missing] at foundTask
        cases foundTask
    · next other foundOther =>
        split at cancels
        · obtain rfl := Option.some.inj cancels
          refine ⟨rfl, fun task foundTask _ => ?_⟩
          rw [foundOther, Option.some.injEq] at foundTask
          subst foundTask
          exact .refl _
        · next notCancelled =>
            obtain rfl := Option.some.inj cancels
            refine ⟨rfl, fun task foundTask isCancelled => ?_⟩
            rw [foundOther, Option.some.injEq] at foundTask
            subst foundTask
            exact absurd isCancelled notCancelled
  · cases cancels

/-! ## Every event -/

theorem resultOf_succeeded
    {execution : Execution} {result : TaskResult}
    (isResult : resultOf execution = some result)
    (succeeded : result.outcome = .succeeded) :
    execution.stage = .returned result := by
  unfold resultOf at isResult
  dsimp only at isResult
  split at isResult
  · obtain ⟨_, _, rfl⟩ := Option.map_eq_some_iff.mp isResult
    cases succeeded
  · split at isResult
    · next isStage =>
        rw [isStage, Option.some.inj isResult]
    · obtain rfl := Option.some.inj isResult
      cases succeeded
    · cases isResult

/-- An execution whose settlement ends its task as a success. -/
def Succeeds (execution : Execution) : Prop :=
  execution.released = false ∧
    ∃ result, execution.stage = .returned result ∧
      result.outcome = .succeeded

/-- The task is unfinished after an event, or its Target out of progress. -/
def UnfinishedOrOut (after : Database) (taskId targetId : Nat) : Prop :=
  (∃ row, after.task.get taskId = some row ∧
    isUnfinished row.status = true) ∨
  OutOfProgress after.target targetId

section Events

variable {state : State} {taskId : Nat} {row : TaskRow}
  (wellFormed : WellFormed state)
  (found : state.db.task.get taskId = some row)
  (isTarget : row.targetRefType = "target")
  (unfinished : isUnfinished row.status = true)

/-- The task, or what it depends on, after some queue actions. -/
private theorem root_names
    {tasks : Table TaskRow} {root : Nat}
    (sameTarget : SameTarget tasks)
    (kept : ∃ row', tasks.get taskId = some row' ∧
      fixedColumns row' = fixedColumns row)
    (below : taskId = root ∨ DependsOnTransitively tasks taskId root)
    (isTarget : row.targetRefType = "target") :
    ∃ rootRow, tasks.get root = some rootRow ∧
      rootRow.targetRefType = "target" ∧
      rootRow.targetRefId = row.targetRefId := by
  obtain ⟨row', found', same⟩ := kept
  simp only [fixedColumns, Prod.mk.injEq] at same
  rcases below with rfl | below
  · exact ⟨row', found', by rw [same.2.1, isTarget], same.2.2.1⟩
  · obtain ⟨rootRow, foundRoot, sameType, sameId⟩ :=
      sameTarget.of_transitively below found'
    exact ⟨rootRow, foundRoot, by rw [sameType, same.2.1, isTarget],
      by rw [sameId, same.2.2.1]⟩

include wellFormed found isTarget unfinished

theorem settle_cases
    {environment : Environment} {state' : State} {now retryDelay : Time}
    {key : Nat}
    (notSucceeding : ∀ execution,
      state.executions.get key = some execution →
        execution.taskId = taskId → ¬ Succeeds execution)
    (taken : step environment state ⟨.settle key retryDelay, now⟩ =
      some state') :
    UnfinishedOrOut state'.db taskId row.targetRefId := by
  obtain ⟨-, sameTarget, kept⟩ := wellFormed_tasks wellFormed taken
  have keptTask := kept taskId row found
  obtain ⟨execution, foundExecution, taken⟩ :=
    Option.bind_eq_some_iff.mp taken
  have executionTask := (wellFormed.executions key execution
    foundExecution).task
  simp only [stepExecution] at taken
  split at taken
  · cases taken
  next notReleased =>
  obtain ⟨result, isResult, rfl⟩ := Option.map_eq_some_iff.mp taken
  have performed := applyResult_task state.db environment.config
    execution.taskId execution.task execution.workerId result retryDelay now
  obtain ⟨payloadJson, foundMiddle⟩ :=
    get_writePayloadUpdate execution.taskId execution.workerId
      result.payloadUpdate found
  dsimp only at sameTarget keptTask kept ⊢
  rcases write_cases execution.taskId execution.workerId
      (settlement environment.config result retryDelay now) foundMiddle with
    same | ⟨⟨rootMiddle, foundRoot, owned⟩, below⟩
  · rw [← performed] at same
    exact Or.inl ⟨_, same, unfinished⟩
  · rw [← performed] at below
    by_cases succeeded : result.outcome = .succeeded
    · -- A success closes nothing, and is not a success of this task.
      have isStage := resultOf_succeeded isResult succeeded
      have other : taskId ≠ execution.taskId := fun isTask =>
        notSucceeding execution foundExecution isTask.symm
          ⟨by simpa using notReleased, result, isStage, succeeded⟩
      refine Or.inl ⟨{ row with payloadJson }, ?_, unfinished⟩
      rw [performed]
      simp [settlement, succeeded, Queue.Write.perform, markSucceeded,
        finish, updateOwned, Table.get_updateWhere, ownedBy, other,
        foundMiddle]
    · have isFinal := settle_of_owned environment.config result retryDelay
        now foundRoot owned succeeded
      have ended := reflects_settledStatus rootMiddle succeeded
      obtain ⟨rootRow, foundRootAfter, isTargetRoot, sameId⟩ :=
        root_names sameTarget keptTask below isTarget
      obtain ⟨old, foundOld, sameOld⟩ := executionTask
      obtain ⟨new, foundNew, sameNew⟩ := kept _ old foundOld
      rw [foundRootAfter, Option.some.injEq] at foundNew
      subst foundNew
      have columns := sameNew.trans sameOld
      simp only [fixedColumns, Prod.mk.injEq] at columns
      refine Or.inr ?_
      rw [← sameId, columns.2.2.1]
      simp only [Worker.applyResult, isFinal]
      exact outOfProgress_sync (by rw [← columns.2.1, isTargetRoot]) ended

theorem finishUnavailable_cases
    {environment : Environment} {state' : State} {now : Time} {key : Nat}
    (taken : step environment state ⟨.finishUnavailable key, now⟩ =
      some state') :
    UnfinishedOrOut state'.db taskId row.targetRefId := by
  obtain ⟨-, sameTarget, kept⟩ := wellFormed_tasks wellFormed taken
  have keptTask := kept taskId row found
  obtain ⟨execution, -, taken⟩ := Option.bind_eq_some_iff.mp taken
  simp only [stepExecution] at taken
  split at taken
  case h_2 => cases taken
  split at taken
  · cases taken
  obtain rfl := Option.some.inj taken
  have performed := finishUnavailable_task state.db execution.taskId
    execution.workerId (Worker.handlerMissing execution.task.type) now
  dsimp only at sameTarget keptTask kept ⊢
  rcases write_cases execution.taskId execution.workerId
      (.unavailable (some (Worker.handlerMissing execution.task.type)) now)
      found with
    same | ⟨⟨rootRow, foundRoot, owned⟩, below⟩
  · rw [← performed] at same
    exact Or.inl ⟨row, same, unfinished⟩
  · rw [← performed] at below
    obtain ⟨rootAfter, foundRootAfter, isTargetRoot, sameId⟩ :=
      root_names sameTarget keptTask below isTarget
    obtain ⟨again, foundAgain, sameColumns⟩ := kept _ rootRow foundRoot
    rw [foundRootAfter, Option.some.injEq] at foundAgain
    subst foundAgain
    simp only [fixedColumns, Prod.mk.injEq] at sameColumns
    have marked : (markUnavailable state.db.task execution.taskId
        execution.workerId
        (some (Worker.handlerMissing execution.task.type)) now).1 =
          true := by
      simp [markUnavailable, finishAndClose, finish,
        updateOwned_of_owned _ foundRoot owned]
    refine Or.inr ?_
    rw [← sameId, sameColumns.2.2.1]
    simp only [Worker.finishUnavailable, foundRoot, marked, if_true]
    exact outOfProgress_sync (by rw [← sameColumns.2.1, isTargetRoot]) rfl

omit wellFormed in
/-- The cancel of a task ends the progress of its Target by one sync. -/
theorem cancel_cases
    {cancelled : Nat} {now : Time} {after : Database}
    (isAfter : after.task = (requestCancel state.db.task cancelled now).2)
    (sameTarget : SameTarget after.task)
    (kept : ∃ row', after.task.get taskId = some row' ∧
      fixedColumns row' = fixedColumns row)
    (synced : ∀ task, after.task.get cancelled = some task →
      task.status = .cancelled → task.targetRefType = "target" →
      NoneEnters (Web.syncCancelled state.db.target task now)
        after.target) :
    UnfinishedOrOut after taskId row.targetRefId := by
  have cases := requestCancel_cases cancelled now found unfinished
  rw [← isAfter] at cases
  rcases cases with ended | ⟨⟨task, foundTask, isCancelled⟩, below⟩
  · exact Or.inl ended
  · obtain ⟨rootRow, foundRoot, isTargetRoot, sameId⟩ :=
      root_names sameTarget kept (below.imp And.left id) isTarget
    rw [foundTask, Option.some.injEq] at foundRoot
    subst foundRoot
    refine Or.inr ?_
    rw [← sameId]
    exact (outOfProgress_sync isTargetRoot rfl).of_noneEnters
      (synced task foundTask isCancelled isTargetRoot)

omit wellFormed in
/-- A recovery reflects every task it ends. -/
theorem reap_cases
    {environment : Environment} {state' : State} {now : Time}
    (isAfter : state'.db = Worker.reap state.db environment.config now)
    (sameTarget : SameTarget state'.db.task)
    (keptTask : ∃ row', state'.db.task.get taskId = some row' ∧
      fixedColumns row' = fixedColumns row) :
    UnfinishedOrOut state'.db taskId row.targetRefId := by
  rw [isAfter] at sameTarget keptTask ⊢
  rw [Worker.reap] at sameTarget keptTask ⊢
  rw [reapTasks_task] at sameTarget keptTask
  rcases recoverStale_cases
      (now - environment.config.staleThreshold) now found unfinished with
    ⟨row', found', unfinished'⟩ |
    ⟨root, rootRow, foundRoot, stale, terminal, below⟩
  · exact Or.inl ⟨row', by rw [reapTasks_task, found'], unfinished'⟩
  · obtain ⟨member, recovered⟩ := recoverStale_terminal
      (now - environment.config.staleThreshold) now foundRoot stale
      terminal
    obtain ⟨rootAfter, foundAfter, isTargetRoot, sameId⟩ :=
      root_names sameTarget keptTask below isTarget
    rw [recovered, Option.some.injEq] at foundAfter
    subst foundAfter
    refine Or.inr ?_
    rw [← sameId]
    refine @outOfProgress_reapTasks now _
      { state.db with task := _ } root _ member recovered isTargetRoot ?_
    simp [recoverValues, terminal]

omit wellFormed in
/-- The cancel of a Run reflects every task it ends. -/
theorem runCancel_cases
    {after : Database} {runId : Nat} {now : Time}
    (cancels : Web.runCancel state.db runId now = some after) :
    UnfinishedOrOut after taskId row.targetRefId := by
  unfold Web.runCancel at cancels
  obtain ⟨run, _, rfl⟩ := Option.map_eq_some_iff.mp cancels
  obtain ⟨row', found', sameColumns, ended⟩ :=
    requestCancelRun_cases runId now found unfinished
  simp only [fixedColumns, Prod.mk.injEq] at sameColumns
  rcases ended with unfinished' | ⟨isCancelled, inRun, reached⟩
  · refine Or.inl ⟨row', ?_, unfinished'⟩
    dsimp only
    split <;> exact found'
  · refine Or.inr ?_
    dsimp only
    rw [if_neg reached, ← sameColumns.2.2.1]
    refine @outOfProgress_syncCancelledTasks now _ _ (taskId, row') ?_
      (by rw [sameColumns.2.1, isTarget])
    rw [Web.cancelledTasks, Table.mem_select_iff]
    exact ⟨found', by simp [inRun, isCancelled]⟩

/-- A task ends as a success, or its Target ends its progress with it. -/
theorem unfinished_cases
    {environment : Environment} {state' : State} {action : Action}
    (notSucceeding : ∀ key execution,
      state.executions.get key = some execution →
        execution.taskId = taskId → ¬ Succeeds execution)
    (taken : step environment state action = some state') :
    UnfinishedOrOut state'.db taskId row.targetRefId := by
  obtain ⟨-, sameTarget, kept⟩ := wellFormed_tasks wellFormed taken
  have keptTask := kept taskId row found
  obtain ⟨event, now⟩ := action
  cases event with
  | settle key =>
      exact settle_cases wellFormed found isTarget unfinished
        (notSucceeding key) taken
  | finishUnavailable =>
      exact finishUnavailable_cases wellFormed found isTarget unfinished
        taken
  | reap =>
      obtain rfl := Option.some.inj taken
      exact reap_cases found isTarget unfinished rfl sameTarget keptTask
  | webCancelTask cancelled =>
      obtain ⟨_, cancels, rfl⟩ := Option.map_eq_some_iff.mp taken
      obtain ⟨isAfter, synced⟩ := taskCancel_reflects cancels
      exact cancel_cases found isTarget unfinished isAfter sameTarget
        keptTask fun task foundTask isCancelled _ =>
          synced task foundTask isCancelled
  | cliCancelTask cancelled =>
      obtain ⟨_, cancels, rfl⟩ := Option.map_eq_some_iff.mp taken
      obtain ⟨isAfter, synced⟩ := cliTaskCancel_reflects cancels
      exact cancel_cases found isTarget unfinished isAfter sameTarget
        keptTask fun task foundTask isCancelled _ =>
          synced task foundTask isCancelled
  | cancelRun runId =>
      obtain ⟨_, cancels, rfl⟩ := Option.map_eq_some_iff.mp taken
      exact runCancel_cases found isTarget unfinished cancels
  | interruptDiscover runId cancelled =>
      simp only [step, Event.execution, stepDatabase] at taken
      split at taken
      · next together =>
          obtain rfl := Option.some.inj taken
          refine cancel_cases found isTarget unfinished rfl sameTarget
            keptTask fun task foundTask _ isTargetTask => ?_
          -- No task below the discover task of a command names a Target.
          simp only [startedTogether, Option.any_eq_true, Bool.and_eq_true,
            beq_iff_eq] at together
          obtain ⟨before, foundBefore, isDiscover, -⟩ := together
          obtain ⟨again, foundAgain, sameColumns⟩ :=
            kept cancelled before foundBefore
          rw [foundTask, Option.some.injEq] at foundAgain
          subst foundAgain
          simp only [fixedColumns, Prod.mk.injEq] at sameColumns
          have notTarget :=
            ((wellFormed.tasks cancelled before foundBefore).discover
              isDiscover).1
          rw [← sameColumns.2.1] at notTarget
          exact absurd isTargetTask notTarget
      · cases taken
  | _ =>
      exact Or.inl (unfinished_of_not_mayEnd rfl found unfinished taken)

end Events

end Sluicery.System
