import Sluicery.System.TargetRows

/-!
# The Targets after an event

`rowsMove_of_step` says for every event what it does to each Target; the
settlement, whose effect depends on the task as it is now, is stated exactly.
-/

namespace Sluicery.System

open Sluicery.Library Sluicery.Library.Transition
open Sluicery.Db Sluicery.Db.TaskRepository
open Sluicery.Core Sluicery.Tasks Sluicery.Tasks.Handlers

/-- A thread settles a task which is still its own. -/
structure Settles (state : State) (key : Nat) (execution : Execution)
    (result : TaskResult) (root : TaskRow) : Prop where
  found : state.executions.get key = some execution
  notReleased : execution.released = false
  isResult : resultOf execution = some result
  foundRoot : state.db.task.get execution.taskId = some root
  owned : ownedBy execution.taskId execution.workerId execution.taskId
    root = true

/-- What the settlement of a task does to the Targets. -/
def SettledOn (result : TaskResult) (root : TaskRow) (targetId : Nat)
    (row row' : TargetRow) : Prop :=
  if namesTarget targetId root then
    Synced (settledStatus result root) (result.outcome == .failed) row row'
  else row' = row

/-- What an event can do to the row of a Target. -/
inductive RowChange (state : State) (event : Event) (targetId : Nat)
    (row row' : TargetRow) : Prop where
  | kept (kept : Kept row row')
  | started {key : Nat} (isEvent : event = .start key)
      (advances : Advances row row')
  | reported {key : Nat} {answer : Answer} {execution : Execution}
      {work : Work}
      (isEvent : event = .finish key answer)
      (found : state.executions.get key = some execution)
      (working : execution.stage = .working work)
      (reports : Reports work targetId row row')
  | settled {key : Nat} {retryDelay : Time} {execution : Execution}
      {result : TaskResult} {root : TaskRow}
      (isEvent : event = .settle key retryDelay)
      (settles : Settles state key execution result root)
      (notSucceeded : result.outcome ≠ .succeeded)
      (names : namesTarget targetId root = true)
      (synced : Synced (settledStatus result root)
        (result.outcome == .failed) row row')
  | recovered
      (isEvent : event = .reap ∨ ∃ key, event = .finishUnavailable key)
      (active : row.status ∈ activeStatuses)
      (becomes : Becomes row row' .unavailable row.retryCount)
  | cancelled (reflects : Reflects state targetId event)
      (active : row.status ∈ activeStatuses)
      (becomes : Becomes row row' .failed row.retryCount)

theorem RowChange.refl (state : State) (event : Event) (targetId : Nat)
    (row : TargetRow) : RowChange state event targetId row row :=
  .kept (.refl row)

theorem namesTarget_of_fixedColumns
    {left right : TaskRow} (same : fixedColumns left = fixedColumns right)
    (targetId : Nat) : namesTarget targetId left = namesTarget targetId right := by
  simp only [fixedColumns, Prod.mk.injEq] at same
  rw [namesTarget, namesTarget, same.2.1, same.2.2.1]

/-! ## Settlements -/

/-- Anyone else's payload update is rejected. -/
theorem writePayloadUpdate_of_not_owned
    {tasks : Table TaskRow} {taskId : Nat} {workerId : String}
    (update : Option Json.Fields)
    (notOwned : ∀ row, tasks.get taskId = some row →
      ownedBy taskId workerId taskId row = false) :
    Worker.writePayloadUpdate tasks taskId workerId update = tasks := by
  unfold Worker.writePayloadUpdate
  split
  · rfl
  · rfl
  · simp [writeResultPayload, updateOwned_of_not_owned _ notOwned]

/-- The Targets after a settlement of the task with this row. -/
theorem applyResult_target
    {db : Database} {taskId : Nat} {workerId : String} {root : TaskRow}
    (config : Worker.Config) (task : TaskRow) (result : TaskResult)
    (retryDelay now : Time)
    (found : db.task.get taskId = some root)
    (owned : ownedBy taskId workerId taskId root = true)
    (notSucceeded : result.outcome ≠ .succeeded) :
    (Worker.applyResult db config taskId task workerId result retryDelay
        now).target =
      (syncTargetAfterTask db.target task (settledStatus result root)
        result.message (result.outcome == .failed) now).2 := by
  obtain ⟨payloadJson, foundMiddle⟩ :=
    get_writePayloadUpdate taskId workerId result.payloadUpdate found
  have isFinal := settle_of_owned config result retryDelay now foundMiddle
    owned notSucceeded
  simp only [Worker.applyResult, isFinal]
  rfl

/-- A settlement which answers nothing leaves the Targets alone. -/
theorem applyResult_target_of_none
    {db : Database} {taskId : Nat} {workerId : String}
    {config : Worker.Config} {task : TaskRow} {result : TaskResult}
    {retryDelay now : Time}
    (silent : (Worker.settle
      (Worker.writePayloadUpdate db.task taskId workerId
        result.payloadUpdate)
      config taskId workerId result retryDelay now).1 = none) :
    (Worker.applyResult db config taskId task workerId result retryDelay
      now).target = db.target := by
  simp only [Worker.applyResult, silent]

/-- A settlement syncs the Target of its task, unless it does nothing. -/
theorem settle_target
    {environment : Environment} {state state' : State} {now : Time}
    {key : Nat} {retryDelay : Time}
    (wellFormed : WellFormed state)
    (taken : step environment state ⟨.settle key retryDelay, now⟩ =
      some state') :
    (∃ execution result root, Settles state key execution result root ∧
      result.outcome ≠ .succeeded ∧
      RowsMove (SettledOn result root) state.db.target
        state'.db.target) ∨
    (state'.db.target = state.db.target ∧
      ∀ execution result root, Settles state key execution result root →
        result.outcome = .succeeded) := by
  obtain ⟨execution, found, taken⟩ := Option.bind_eq_some_iff.mp taken
  simp only [stepExecution] at taken
  split at taken
  · cases taken
  next notReleased =>
  obtain ⟨result, isResult, rfl⟩ := Option.map_eq_some_iff.mp taken
  have same : ∀ execution' result' root,
      Settles state key execution' result' root →
        execution' = execution ∧ result' = result := by
    intro execution' result' root settles
    have isExecution := settles.found
    rw [found, Option.some.injEq] at isExecution
    subst isExecution
    have again := settles.isResult
    rw [isResult, Option.some.injEq] at again
    exact ⟨rfl, again.symm⟩
  by_cases owned : ∃ root, state.db.task.get execution.taskId = some root ∧
      ownedBy execution.taskId execution.workerId execution.taskId root =
        true
  · obtain ⟨root, foundRoot, owned⟩ := owned
    by_cases succeeded : result.outcome = .succeeded
    · refine Or.inr ⟨applyResult_target_of_none ?_, ?_⟩
      · rw [Worker.settle, succeeded]
      · rintro execution' result' root' settles
        rw [(same _ _ _ settles).2, succeeded]
    · have sameTarget : ∀ targetId, namesTarget targetId execution.task =
          namesTarget targetId root := by
        obtain ⟨task, foundTask, columns⟩ :=
          (wellFormed.executions key execution found).task
        rw [foundRoot, Option.some.injEq] at foundTask
        subst foundTask
        exact fun targetId =>
          namesTarget_of_fixedColumns columns.symm targetId
      refine Or.inl ⟨execution, result, root,
        ⟨found, by simpa using notReleased, isResult, foundRoot, owned⟩,
        succeeded, ?_⟩
      dsimp only
      rw [applyResult_target _ _ _ _ _ foundRoot owned succeeded]
      apply (rowsMove_sync _ _ _ _ _ _).weaken
      intro targetId row row' _ synced
      rwa [sameTarget] at synced
  · have notOwned : ∀ root, state.db.task.get execution.taskId = some root →
        ownedBy execution.taskId execution.workerId execution.taskId root =
          false := by
      intro root foundRoot
      by_contra isOwned
      exact owned ⟨root, foundRoot, by simpa using isOwned⟩
    refine Or.inr ⟨applyResult_target_of_none ?_, ?_⟩
    · rw [writePayloadUpdate_of_not_owned _ notOwned]
      exact settle_of_not_owned _ _ _ _ notOwned
    · rintro execution' result' root settles
      obtain ⟨rfl, rfl⟩ := same _ _ _ settles
      exact absurd ⟨root, settles.foundRoot, settles.owned⟩ owned

/-! ## Cancels -/

section Cancels

variable {state : State} {now : Time}

/-- The cancelled task of the web, and those of its Run. -/
theorem rowsMove_webCancel
    {taskId : Nat} {after : Database}
    (sameTarget : SameTarget state.db.task)
    (cancels : Web.taskCancel state.db taskId now = some after) :
    RowsMove (Leaves (Reflects state · (.webCancelTask taskId)) .failed)
      state.db.target after.target := by
  unfold Web.taskCancel at cancels
  obtain ⟨before, foundBefore, rfl⟩ := Option.map_eq_some_iff.mp cancels
  dsimp only
  split
  · exact .refl .refl _
  next task foundTask =>
  split
  case isFalse => exact .refl .refl _
  next isCancelled =>
  -- The task is the one before the cancel, which waited or had ended.
  have ends : isWaiting before.status = true ∨
      before.status = .cancelled := by
    rcases requestCancel_origin foundTask isCancelled with
      ⟨row, found, -, ended⟩
    rw [foundBefore, Option.some.injEq] at found
    subst found
    exact ended.symm.imp_left And.left
  have isReason : ∀ key row, (requestCancel state.db.task taskId now).2.get
        key = some row →
      row.status = .cancelled →
      (key = taskId ∨ row.runId = before.runId) → ∀ targetId,
      namesTarget targetId row = true →
        Reflects state targetId (.webCancelTask taskId) := by
    intro key row found cancelled inRun targetId names
    rcases requestCancel_origin found cancelled with
      ⟨old, foundOld, columns, ended⟩
    rw [namesTarget_of_fixedColumns columns] at names
    rcases ended with wasCancelled | ⟨-, rfl | below⟩
    · rcases inRun with rfl | inRun
      · rw [foundBefore, Option.some.injEq] at foundOld
        subst foundOld
        exact .web foundBefore ends names
      · simp only [fixedColumns, Prod.mk.injEq] at columns
        exact .webRun foundBefore ends foundOld
          (columns.2.2.2.2.2.2.2.2.symm.trans inRun) wasCancelled names
    · rw [foundBefore, Option.some.injEq] at foundOld
      subst foundOld
      exact .web foundBefore ends names
    · -- What depends on the task names its Target.
      rcases sameTarget.of_transitively below foundOld with
        ⟨rootRow, foundRoot, sameType, sameId⟩
      rw [foundBefore, Option.some.injEq] at foundRoot
      subst foundRoot
      refine .web foundBefore ends ?_
      rwa [namesTarget, sameType, sameId]
  have synced := rowsMove_syncCancelled state.db.target task now
    (isReason taskId task foundTask isCancelled (Or.inl rfl))
  dsimp only
  split
  · exact synced
  · next runId inRun =>
      refine .trans (Leaves.trans (by decide)) synced
        (rowsMove_syncCancelledTasks _ _ _ ?_)
      rintro ⟨key, row⟩ member
      rw [Web.cancelledTasks, Table.mem_select_iff] at member
      simp only [Bool.and_eq_true, beq_iff_eq] at member
      exact isReason key row member.1 member.2.2
        (Or.inr (member.2.1.trans inRun.symm))

theorem rowsMove_cliCancel
    {taskId : Nat} {after : Database}
    (cancels : Web.cliTaskCancel state.db taskId now = some after) :
    RowsMove (Leaves (Reflects state · (.cliCancelTask taskId)) .failed)
      state.db.target after.target := by
  unfold Web.cliTaskCancel at cancels
  obtain ⟨before, foundBefore, cancels⟩ := Option.bind_eq_some_iff.mp cancels
  dsimp only at cancels
  split at cancels
  case isFalse => cases cancels
  next accepted =>
  split at cancels
  · obtain rfl := Option.some.inj cancels
    exact .refl .refl _
  next task foundTask =>
  split at cancels
  case isFalse =>
    obtain rfl := Option.some.inj cancels
    exact .refl .refl _
  next isCancelled =>
  obtain rfl := Option.some.inj cancels
  apply rowsMove_syncCancelled
  intro targetId names
  rcases requestCancel_origin foundTask isCancelled with
    ⟨row, found, columns, ended⟩
  rw [foundBefore, Option.some.injEq] at found
  subst found
  rw [namesTarget_of_fixedColumns columns] at names
  refine .cli foundBefore ?_ names
  rcases ended with wasCancelled | ⟨waits, -⟩
  · -- An ended task is not accepted.
    exact absurd accepted (by
      simp [requestCancel, foundBefore, wasCancelled, isUnfinished])
  · exact waits

theorem rowsMove_runCancel
    {runId : Nat} {after : Database}
    (cancels : Web.runCancel state.db runId now = some after) :
    RowsMove (Leaves (Reflects state · (.cancelRun runId)) .failed)
      state.db.target after.target := by
  unfold Web.runCancel at cancels
  obtain ⟨run, _, rfl⟩ := Option.map_eq_some_iff.mp cancels
  dsimp only
  split
  · exact .refl .refl _
  · apply rowsMove_syncCancelledTasks
    rintro ⟨key, row⟩ member targetId names
    rw [Web.cancelledTasks, Table.mem_select_iff] at member
    simp only [Bool.and_eq_true, beq_iff_eq] at member
    rcases requestCancelRun_origin member.1 member.2.2 with
      ⟨old, foundOld, columns, ended⟩
    dsimp only at names
    rw [namesTarget_of_fixedColumns columns] at names
    simp only [fixedColumns, Prod.mk.injEq] at columns
    exact .run foundOld (columns.2.2.2.2.2.2.2.2.symm.trans member.2.1)
      ended.symm names

end Cancels

/-! ## Every event -/

/-- The events which insert, block, reopen or queue a Target. -/
def Event.setsTarget : Event → Bool
  | .createTarget .. | .blockTarget .. | .reopenTarget ..
  | .enqueueTarget .. => true
  | _ => false

theorem Leaves.cancelled
    {state : State} {event : Event} {targetId : Nat} {row row' : TargetRow}
    (leaves : Leaves (Reflects state · event) .failed targetId row row') :
    RowChange state event targetId row row' := by
  rcases leaves with kept | ⟨reflects, active, becomes⟩
  · exact .kept kept
  · exact .cancelled reflects active becomes

theorem Leaves.recovered
    {state : State} {event : Event} {targetId : Nat} {row row' : TargetRow}
    (leaves : Leaves (fun _ => True) .unavailable targetId row row')
    (isEvent : event = .reap ∨ ∃ key, event = .finishUnavailable key) :
    RowChange state event targetId row row' := by
  rcases leaves with kept | ⟨-, active, becomes⟩
  · exact .kept kept
  · exact .recovered isEvent active becomes

theorem rowsMove_stepExecution
    {environment : Environment} {state state' : State} {now : Time}
    {event : Event} {key : Nat} {execution : Execution}
    (wellFormed : WellFormed state)
    (isEvent : event.execution = some key)
    (found : state.executions.get key = some execution)
    (taken : stepExecution environment state now key execution event =
      some state') :
    RowsMove (RowChange state event) state.db.target state'.db.target := by
  have same : RowsMove (RowChange state event) state.db.target
      state.db.target := .refl (.refl state event) _
  cases event with
  | start eventKey =>
      simp only [stepExecution] at taken
      split at taken
      · obtain ⟨started, starts, rfl⟩ := Option.map_eq_some_iff.mp taken
        exact (rowsMove_startHandler _ _ starts).weaken
          fun _ _ _ _ advances => .started rfl advances
      · cases taken
  | finish eventKey answer =>
      obtain rfl := Option.some.inj isEvent
      simp only [stepExecution] at taken
      split at taken
      · next working =>
          obtain ⟨finished, finishes, rfl⟩ :=
            Option.map_eq_some_iff.mp taken
          exact (rowsMove_finishHandler _ _ finishes).weaken
            fun _ _ _ _ reports => .reported rfl found working reports
      · cases taken
  | heartbeat | progress | crash =>
      obtain rfl := Option.some.inj taken
      exact same
  | raise =>
      simp only [stepExecution] at taken
      split at taken
      · obtain rfl := Option.some.inj taken
        exact same
      · obtain rfl := Option.some.inj taken
        exact same
      · cases taken
  | settle eventKey retryDelay =>
      obtain rfl := Option.some.inj isEvent
      have whole : step environment state
          ⟨.settle eventKey retryDelay, now⟩ = some state' := by
        simp only [step, Event.execution, found, Option.bind_some]
        exact taken
      rcases settle_target wellFormed whole with
        ⟨_, result, root, settles, notSucceeded, moves⟩ | ⟨kept, -⟩
      · apply moves.weaken
        intro targetId row row' _ settled
        unfold SettledOn at settled
        split at settled
        · next names => exact .settled rfl settles notSucceeded names settled
        · rw [settled]
          exact .refl _ _ _ _
      · exact .of_eq (.refl _ _) kept
  | finishUnavailable eventKey =>
      simp only [stepExecution] at taken
      split at taken
      · split at taken
        · cases taken
        · obtain rfl := Option.some.inj taken
          dsimp only [Worker.finishUnavailable]
          split
          · exact same
          · split
            · exact (rowsMove_syncUnavailable _ _ _ _).weaken
                fun _ _ _ _ leaves => leaves.recovered (Or.inr ⟨_, rfl⟩)
            · exact same
      · cases taken
  | release =>
      simp only [stepExecution] at taken
      split at taken
      · cases taken
      · obtain rfl := Option.some.inj taken
        exact same
  | _ => cases isEvent

theorem rowsMove_stepDatabase
    {environment : Environment} {state state' : State} {now : Time}
    {event : Event} (wellFormed : WellFormed state)
    (notSet : event.setsTarget = false)
    (taken : stepDatabase environment state now event = some state') :
    RowsMove (RowChange state event) state.db.target state'.db.target := by
  have same : RowsMove (RowChange state event) state.db.target
      state.db.target := .refl (.refl state event) _
  cases event with
  | createTarget | blockTarget | reopenTarget | enqueueTarget => cases notSet
  | startDiscover =>
      obtain ⟨started, starts, rfl⟩ := Option.map_eq_some_iff.mp taken
      obtain ⟨-, -, rfl⟩ := ok_of_enqueueDiscoverRun (ok_of_toOption starts)
      exact same
  | claim =>
      simp only [stepDatabase] at taken
      split at taken
      · cases taken
      · obtain rfl := Option.some.inj taken
        exact same
      · obtain ⟨_, _, rfl⟩ := Option.map_eq_some_iff.mp taken
        exact same
  | reap =>
      obtain rfl := Option.some.inj taken
      have recovered := rowsMove_reapTasks now
        (recoverStale state.db.task
          (now - environment.config.staleThreshold) now).1
        { state.db with
          task := (recoverStale state.db.task
            (now - environment.config.staleThreshold) now).2 }
      exact recovered.weaken fun _ _ _ _ leaves =>
        leaves.recovered (Or.inl rfl)
  | webCancelTask =>
      obtain ⟨_, cancels, rfl⟩ := Option.map_eq_some_iff.mp taken
      exact (rowsMove_webCancel wellFormed.sameTarget cancels).weaken
        fun _ _ _ _ leaves => leaves.cancelled
  | cliCancelTask =>
      obtain ⟨_, cancels, rfl⟩ := Option.map_eq_some_iff.mp taken
      exact (rowsMove_cliCancel cancels).weaken
        fun _ _ _ _ leaves => leaves.cancelled
  | cancelRun =>
      obtain ⟨_, cancels, rfl⟩ := Option.map_eq_some_iff.mp taken
      exact (rowsMove_runCancel cancels).weaken
        fun _ _ _ _ leaves => leaves.cancelled
  | interruptDiscover =>
      simp only [stepDatabase] at taken
      split at taken
      · obtain rfl := Option.some.inj taken
        exact same
      · cases taken
  | concludeDiscover =>
      simp only [stepDatabase] at taken
      split at taken
      · obtain ⟨_, concludes, rfl⟩ := Option.map_eq_some_iff.mp taken
        unfold Web.concludeDiscover at concludes
        split at concludes
        · split at concludes
          · cases concludes
          · split at concludes <;> obtain rfl := Option.some.inj concludes <;>
              exact same
        · cases concludes
      · cases taken
  | _ => cases taken

/-- What an event does to every Target. -/
theorem rowsMove_of_step
    {environment : Environment} {state state' : State} {action : Action}
    (wellFormed : WellFormed state)
    (notSet : action.event.setsTarget = false)
    (taken : step environment state action = some state') :
    RowsMove (RowChange state action.event) state.db.target
      state'.db.target := by
  unfold step at taken
  split at taken
  · exact rowsMove_stepDatabase wellFormed notSet taken
  · next key isEvent =>
      obtain ⟨execution, found, taken⟩ := Option.bind_eq_some_iff.mp taken
      exact rowsMove_stepExecution wellFormed isEvent found taken

end Sluicery.System
