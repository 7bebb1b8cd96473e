import Mathlib
import Sluicery.System.Runs
import Sluicery.System.Stranding

/-!
# Who releases the lock of a playlist

A running discover Run locks its playlist.  The Run is ended by its handler,
by stale recovery and by the cancel of the Run; a discover task can end in
other ways, too, and then its Run keeps the lock.  `endsWithoutRun` names
these ways, and every other step keeps an unfinished task for every running
discover Run.
-/

namespace Sluicery.System

open Sluicery.Library Sluicery.Library.Transition
open Sluicery.Db Sluicery.Db.TaskRepository
open Sluicery.Core Sluicery.Tasks Sluicery.Tasks.Handlers

/-! ## Endings which leave the Run -/

/-- A discover task whose Run is running. -/
def holdsRun (db : Database) (task : TaskRow) : Bool :=
  task.type == .discover &&
    task.runId.any fun runId =>
      (db.run.get runId).any fun run => run.status == .running

/-- A settlement which ends the task, although no handler ended its Run. -/
def endsUnreported (execution : Execution) (task : TaskRow) : Bool :=
  match execution.stage with
  | .raised _ =>
      execution.cancelSeen || task.cancelRequested ||
        decide (task.attempts + 1 ≥ task.maxAttempts)
  | .returned result =>
      result.outcome == .blocked &&
        (execution.cancelSeen || task.cancelRequested)
  | _ => false

/--
The step ends a discover task and leaves its running Run: a cancel of the
waiting task, a missing handler, or the last failure of a handler which did
not return.
-/
def endsWithoutRun (state : State) (action : Action) : Bool :=
  match action.event with
  | .webCancelTask taskId | .cliCancelTask taskId =>
      (state.db.task.get taskId).any fun task =>
        isWaiting task.status && holdsRun state.db task
  | .finishUnavailable key =>
      (state.executions.get key).any fun execution =>
        (state.db.task.get execution.taskId).any fun task =>
          ownedBy execution.taskId execution.workerId execution.taskId
            task && holdsRun state.db task
  | .settle key _ =>
      (state.executions.get key).any fun execution =>
        (state.db.task.get execution.taskId).any fun task =>
          ownedBy execution.taskId execution.workerId execution.taskId
            task && holdsRun state.db task && endsUnreported execution task
  | _ => false

/-! ## The invariant -/

/-- A handler which returned has ended the Run, unless it was blocked. -/
def Reported (runs : Table RunRow) (execution : Execution) : Prop :=
  execution.task.type = .discover →
    ∀ result, execution.stage = .returned result →
      result.outcome ≠ .blocked →
        ∀ runId, execution.task.runId = some runId → RunEnded runs runId

/-- A running discover Run has an unfinished task. -/
structure LockHeld (state : State) : Prop where
  runs : ∀ key row, state.db.task.get key = some row →
    row.type = .discover → ∀ runId, row.runId = some runId →
      ∃ run, state.db.run.get runId = some run
  reported : ∀ key execution,
    state.executions.get key = some execution →
      Reported state.db.run execution
  held : ∀ runId run, state.db.run.get runId = some run →
    run.status = .running → run.kind = "discover" →
      ∃ taskId task, state.db.task.get taskId = some task ∧
        task.type = .discover ∧ task.runId = some runId ∧
        isUnfinished task.status = true

/-- A Run either has ended or is running. -/
theorem holdsRun_or_runEnded
    {db : Database} {task : TaskRow} {runId : Nat}
    (isDiscover : task.type = .discover)
    (inRun : task.runId = some runId)
    (exists_run : ∃ run, db.run.get runId = some run) :
    holdsRun db task = true ∨ RunEnded db.run runId := by
  obtain ⟨run, found⟩ := exists_run
  by_cases isRunning : run.status = .running
  · exact Or.inl (by simp [holdsRun, isDiscover, inRun, found, isRunning])
  · exact Or.inr ⟨run, found, isRunning⟩

/-- A task without a dependency is below no other. -/
theorem not_below
    {tasks : Table TaskRow} {key root : Nat}
    (kept : ∃ row, tasks.get key = some row ∧ row.dependsOnTaskId = none) :
    ¬ DependsOnTransitively tasks key root := by
  intro below
  obtain ⟨row, found, alone⟩ := kept
  obtain ⟨parent, ⟨other, foundOther, named⟩, -⟩ :=
    Relation.TransGen.head'_iff.mp below
  rw [found, Option.some.injEq] at foundOther
  rw [foundOther, named] at alone
  cases alone

/-- A failure with attempts left keeps the task. -/
theorem markFailedForRetry_keeps
    {tasks : Table TaskRow} {taskId : Nat} {workerId : String}
    {row : TaskRow} (retryDelay : Time) (errorMessage : Option String)
    (failedAt : Time)
    (found : tasks.get taskId = some row)
    (owned : ownedBy taskId workerId taskId row = true)
    (notRequested : row.cancelRequested = false)
    (notLast : ¬ row.attempts + 1 ≥ row.maxAttempts) :
    ∃ row', (markFailedForRetry tasks taskId workerId retryDelay
        errorMessage failedAt).2.get taskId = some row' ∧
      isUnfinished row'.status = true := by
  have isPending : (retryValues failedAt retryDelay errorMessage
      row).status = .pending := by
    simp [retryValues, notRequested, notLast]
  refine ⟨retryValues failedAt retryDelay errorMessage row, ?_,
    by rw [isPending]; rfl⟩
  simp [markFailedForRetry, updateOwned_of_owned _ found owned, isPending,
    found]

/-- A block without a cancel request keeps the task. -/
theorem markBlocked_keeps
    {tasks : Table TaskRow} {taskId : Nat} {workerId : String}
    {row : TaskRow} (retryAfter : Time) (reason : Option String)
    (blockedAt : Time)
    (found : tasks.get taskId = some row)
    (owned : ownedBy taskId workerId taskId row = true)
    (notRequested : row.cancelRequested = false) :
    ∃ row', (markBlocked tasks taskId workerId retryAfter reason
        blockedAt).2.get taskId = some row' ∧
      isUnfinished row'.status = true := by
  have isBlocked : (blockValues blockedAt retryAfter reason row).status =
      .blocked := by
    simp [blockValues, notRequested]
  refine ⟨blockValues blockedAt retryAfter reason row, ?_,
    by rw [isBlocked]; rfl⟩
  simp [markBlocked, updateOwned_of_owned _ found owned, isBlocked, found]

/-- The task is unfinished after an event, or its Run has ended. -/
def UnfinishedOrEnded (after : Database) (taskId runId : Nat) : Prop :=
  (∃ row, after.task.get taskId = some row ∧
    isUnfinished row.status = true) ∨
  RunEnded after.run runId

section Events

variable {state : State} {taskId runId : Nat} {row : TaskRow}
  (wellFormed : WellFormed state)
  (lockHeld : LockHeld state)
  (found : state.db.task.get taskId = some row)
  (isDiscover : row.type = .discover)
  (inRun : row.runId = some runId)
  (unfinished : isUnfinished row.status = true)

include wellFormed lockHeld found isDiscover inRun unfinished

theorem settle_lock
    {environment : Environment} {state' : State} {now retryDelay : Time}
    {key : Nat} {execution : Execution}
    (foundExecution : state.executions.get key = some execution)
    (permitted :
      endsWithoutRun state ⟨.settle key retryDelay, now⟩ = false)
    (alone : ¬ DependsOnTransitively state'.db.task taskId
      execution.taskId)
    (taken : stepExecution environment state now key execution
      (.settle key retryDelay) = some state') :
    UnfinishedOrEnded state'.db taskId runId := by
  have good := wellFormed.executions key execution foundExecution
  have reported := lockHeld.reported key execution foundExecution
  simp only [stepExecution] at taken
  split at taken
  · cases taken
  obtain ⟨result, isResult, rfl⟩ := Option.map_eq_some_iff.mp taken
  have performed := applyResult_task state.db environment.config
    execution.taskId execution.task execution.workerId result retryDelay now
  obtain ⟨payloadJson, foundMiddle⟩ :=
    get_writePayloadUpdate execution.taskId execution.workerId
      result.payloadUpdate found
  rcases write_cases execution.taskId execution.workerId
      (settlement environment.config result retryDelay now) foundMiddle with
    same | ⟨⟨rootMiddle, foundRoot, owned⟩, isTask | below⟩
  · rw [← performed] at same
    exact Or.inl ⟨_, same, unfinished⟩
  · subst isTask
    rw [foundMiddle, Option.some.injEq] at foundRoot
    subst foundRoot
    rcases holdsRun_or_runEnded isDiscover inRun
        (lockHeld.runs _ row found isDiscover runId inRun) with
      holds | ended
    · -- The condition leaves only settlements which keep the task waiting.
      have ownedRow : ownedBy execution.taskId execution.workerId
          execution.taskId row = true := owned
      have reports : endsUnreported execution row = false := by
        simpa [endsWithoutRun, foundExecution, found, ownedRow, holds]
          using permitted
      cases isStage : execution.stage with
      | claimed | working =>
          simp [resultOf, isStage] at isResult
      | raised message =>
          simp only [endsUnreported, isStage, Bool.or_eq_false_iff,
            decide_eq_false_iff_not] at reports
          obtain ⟨⟨notSeen, notRequested⟩, notLast⟩ := reports
          simp only [resultOf, isStage, notSeen, Bool.false_eq_true,
            if_false, Option.some.injEq] at isResult
          subst isResult
          refine Or.inl ?_
          dsimp only
          rw [performed]
          exact markFailedForRetry_keeps _ _ _ foundMiddle owned notRequested
            notLast
      | returned returned =>
          by_cases isBlocked : returned.outcome = .blocked
          · simp only [endsUnreported, isStage, isBlocked, beq_self_eq_true,
              Bool.true_and, Bool.or_eq_false_iff] at reports
            obtain ⟨notSeen, notRequested⟩ := reports
            simp only [resultOf, isStage, notSeen, Bool.false_eq_true,
              if_false, Option.some.injEq] at isResult
            subst isResult
            refine Or.inl ?_
            dsimp only
            rw [performed, settlement, isBlocked]
            exact markBlocked_keeps _ _ _ foundMiddle owned notRequested
          · obtain ⟨other, foundOther, same⟩ := good.task
            rw [found, Option.some.injEq] at foundOther
            subst foundOther
            simp only [fixedColumns, Prod.mk.injEq] at same
            refine Or.inr ?_
            dsimp only
            rw [applyResult_run]
            exact reported (same.1 ▸ isDiscover) returned isStage isBlocked
              runId (same.2.2.2.2.2.2.2.2 ▸ inRun)
    · refine Or.inr ?_
      dsimp only
      rw [applyResult_run]
      exact ended
  · rw [← performed] at below
    exact absurd below alone

omit wellFormed in
theorem finishUnavailable_lock
    {environment : Environment} {state' : State} {now : Time}
    {key : Nat} {execution : Execution}
    (foundExecution : state.executions.get key = some execution)
    (permitted :
      endsWithoutRun state ⟨.finishUnavailable key, now⟩ = false)
    (alone : ¬ DependsOnTransitively state'.db.task taskId
      execution.taskId)
    (taken : stepExecution environment state now key execution
      (.finishUnavailable key) = some state') :
    UnfinishedOrEnded state'.db taskId runId := by
  simp only [stepExecution] at taken
  split at taken
  case h_2 => cases taken
  split at taken
  · cases taken
  obtain rfl := Option.some.inj taken
  have performed := finishUnavailable_task state.db execution.taskId
    execution.workerId (Worker.handlerMissing execution.task.type) now
  rcases write_cases execution.taskId execution.workerId
      (.unavailable (some (Worker.handlerMissing execution.task.type)) now)
      found with
    same | ⟨⟨rootRow, foundRoot, owned⟩, isTask | below⟩
  · rw [← performed] at same
    exact Or.inl ⟨row, same, unfinished⟩
  · subst isTask
    rw [found, Option.some.injEq] at foundRoot
    subst foundRoot
    rcases holdsRun_or_runEnded isDiscover inRun
        (lockHeld.runs _ row found isDiscover runId inRun) with
      holds | ended
    · simp [endsWithoutRun, foundExecution, found, owned, holds] at permitted
    · refine Or.inr ?_
      dsimp only
      rw [finishUnavailable_run]
      exact ended
  · rw [← performed] at below
    exact absurd below alone

omit wellFormed in
/-- The cancel of a task ends a waiting discover task only with its Run. -/
theorem cancel_lock
    {cancelled : Nat} {now : Time} {after : Database}
    (isAfter : after.task = (requestCancel state.db.task cancelled now).2)
    (ends : RunsEnd state.db.run after.run)
    (alone : ¬ DependsOnTransitively after.task taskId cancelled)
    (permitted : cancelled = taskId → isWaiting row.status = true →
      holdsRun state.db row = true → RunEnded after.run runId) :
    UnfinishedOrEnded after taskId runId := by
  have cases := requestCancel_cases cancelled now found unfinished
  rw [← isAfter] at cases
  rcases cases with kept | ⟨-, ⟨isTask, notRunning⟩ | below⟩
  · exact Or.inl kept
  · have waits : isWaiting row.status = true := by
      revert unfinished notRunning
      cases row.status <;> simp [isUnfinished, isWaiting]
    rcases holdsRun_or_runEnded isDiscover inRun
        (lockHeld.runs _ row found isDiscover runId inRun) with
      holds | ended
    · exact Or.inr (permitted isTask.symm waits holds)
    · exact Or.inr (ended.of_runsEnd ends)
  · exact absurd below alone

/-- A task ends with its Run, except as the condition says. -/
theorem unfinished_or_ended
    {environment : Environment} {state' : State} {action : Action}
    (permitted : endsWithoutRun state action = false)
    (taken : step environment state action = some state') :
    UnfinishedOrEnded state'.db taskId runId := by
  have exists_run := lockHeld.runs taskId row found isDiscover runId inRun
  have alone : ∀ root,
      ¬ DependsOnTransitively state'.db.task taskId root := by
    obtain ⟨-, -, kept⟩ := wellFormed_tasks wellFormed taken
    obtain ⟨row', found', same⟩ := kept taskId row found
    simp only [fixedColumns, Prod.mk.injEq] at same
    have independent :=
      ((wellFormed.tasks taskId row found).discover isDiscover).2
    exact fun root => not_below ⟨row', found', by
      rw [same.2.2.2.2.2.1, independent]⟩
  obtain ⟨event, now⟩ := action
  have ends : event.startsDiscover = false →
      RunsEnd state.db.run state'.db.run := by
    intro notStart
    exact runsEnd_of_not_start notStart taken
  cases event with
  | settle key =>
      obtain ⟨execution, foundExecution, taken⟩ :=
        Option.bind_eq_some_iff.mp taken
      exact settle_lock wellFormed lockHeld found isDiscover inRun unfinished
        foundExecution permitted (alone _) taken
  | finishUnavailable key =>
      obtain ⟨execution, foundExecution, taken⟩ :=
        Option.bind_eq_some_iff.mp taken
      exact finishUnavailable_lock lockHeld found isDiscover inRun
        unfinished foundExecution permitted (alone _) taken
  | reap =>
      obtain rfl := Option.some.inj taken
      dsimp only [Worker.reap] at alone ⊢
      rw [reapTasks_task] at alone
      rcases recoverStale_cases
          (now - environment.config.staleThreshold) now found unfinished with
        ⟨row', found', unfinished'⟩ |
        ⟨root, rootRow, foundRoot, stale, terminal, isTask | below⟩
      · exact Or.inl ⟨row', by rw [reapTasks_task, found'], unfinished'⟩
      · subst isTask
        rw [found, Option.some.injEq] at foundRoot
        subst foundRoot
        obtain ⟨member, recovered⟩ := recoverStale_terminal
          (now - environment.config.staleThreshold) now found stale terminal
        refine Or.inr ?_
        refine @runEnded_reapTasks now _ { state.db with task := _ } taskId _
          runId member recovered ?_ isDiscover inRun exists_run
        simp [recoverValues, terminal]
      · exact absurd below (alone root)
  | webCancelTask cancelled =>
      have ends := ends rfl
      obtain ⟨_, cancels, rfl⟩ := Option.map_eq_some_iff.mp taken
      refine cancel_lock lockHeld found isDiscover inRun unfinished
        (taskCancel_reflects cancels).1 ends (alone cancelled) ?_
      rintro rfl waits holds
      simp [endsWithoutRun, found, waits, holds] at permitted
  | cliCancelTask cancelled =>
      have ends := ends rfl
      obtain ⟨_, cancels, rfl⟩ := Option.map_eq_some_iff.mp taken
      refine cancel_lock lockHeld found isDiscover inRun unfinished
        (cliTaskCancel_reflects cancels).1 ends (alone cancelled) ?_
      rintro rfl waits holds
      simp [endsWithoutRun, found, waits, holds] at permitted
  | cancelRun cancelled =>
      obtain ⟨_, cancels, rfl⟩ := Option.map_eq_some_iff.mp taken
      unfold Web.runCancel at cancels
      obtain ⟨run, foundRun, rfl⟩ := Option.map_eq_some_iff.mp cancels
      obtain ⟨row', found', sameColumns, ended⟩ :=
        requestCancelRun_cases cancelled now found unfinished
      simp only [fixedColumns, Prod.mk.injEq] at sameColumns
      rcases ended with unfinished' | ⟨-, inCancelled, reached⟩
      · refine Or.inl ⟨row', ?_, unfinished'⟩
        dsimp only
        split <;> exact found'
      · rw [sameColumns.2.2.2.2.2.2.2.2, inRun, Option.some.injEq]
          at inCancelled
        subst inCancelled
        refine Or.inr ?_
        dsimp only
        rw [if_neg reached]
        exact runEnded_finish _ _ (by decide) foundRun
  | interruptDiscover interrupted cancelled =>
      have ends := ends rfl
      simp only [step, Event.execution, stepDatabase] at taken
      split at taken
      · next together =>
          obtain rfl := Option.some.inj taken
          refine cancel_lock lockHeld found isDiscover inRun unfinished rfl
            ends (alone cancelled) ?_
          rintro rfl - -
          -- The command cancels the Run of its own task.
          simp only [startedTogether, found, Option.any_some,
            Bool.and_eq_true, beq_iff_eq, inRun, Option.some.injEq]
            at together
          obtain ⟨-, rfl⟩ := together
          obtain ⟨run, foundRun⟩ := exists_run
          exact runEnded_finish _ _ (by decide) foundRun
      · cases taken
  | _ =>
      exact Or.inl (unfinished_of_not_mayEnd rfl found unfinished taken)

end Events

/-! ## Every event -/

/-- Without the start of a Run no discover task is new. -/
theorem discover_origin
    {environment : Environment} {state state' : State} {action : Action}
    {taskId : Nat} {row' : TaskRow}
    (notStart : action.event.startsDiscover = false)
    (taken : step environment state action = some state')
    (found' : state'.db.task.get taskId = some row')
    (isDiscover : row'.type = .discover) :
    ∃ row, state.db.task.get taskId = some row ∧
      fixedColumns row' = fixedColumns row := by
  refine (task_steps taken).invariant
    (fun tasks => ∀ taskId row', tasks.get taskId = some row' →
      row'.type = .discover → ∃ row, state.db.task.get taskId = some row ∧
        fixedColumns row' = fixedColumns row)
    (fun _ row found _ => ⟨row, found, rfl⟩) ?_ taskId row' found' isDiscover
  intro tasks queueAction tasks' origin caused moved key row' found'
    isDiscover
  cases insert : Queue.isInsert queueAction with
  | false =>
      obtain ⟨row, found, chain⟩ :=
        (Queue.step_rewrites insert moved).origin found'
      have same := fixedColumns_of_chain chain
      have isDiscoverRow : row.type = .discover := by
        rw [← isDiscover]
        exact (congrArg Prod.fst same).symm
      obtain ⟨first, foundFirst, sameFirst⟩ :=
        origin key row found isDiscoverRow
      exact ⟨first, foundFirst, same.trans sameFirst⟩
  | true =>
      cases found : tasks.get key with
      | some row =>
          have kept := (Queue.step_inserts insert moved).kept found
          rw [found', Option.some.injEq] at kept
          subst kept
          exact origin key row' found isDiscover
      | none =>
          cases queueAction with
          | enqueue =>
              obtain ⟨-, -, -, starts⟩ := caused
              rw [notStart] at starts
              cases starts
          | enqueuePipeline targetId runId workId maxAttempts =>
              obtain rfl := Option.some.inj moved
              have isStep := ((enqueuePipeline_extends tasks targetId runId
                workId maxAttempts).new found found').step
              simp [isDiscover, pipelineSteps] at isStep
          | createTestTask => exact caused.elim
          | _ => cases insert

/-- What a discover handler returns ends its Run, unless it is blocked. -/
theorem reported_step
    {environment : Environment} {state state' : State} {action : Action}
    {key : Nat} {execution : Execution}
    (wellFormed : WellFormed state)
    (lockHeld : LockHeld state)
    (keeps : ∀ runId, RunEnded state.db.run runId →
      RunEnded state'.db.run runId)
    (changed :
      ExecutionChange environment state state' action key execution) :
    Reported state'.db.run execution := by
  intro isDiscover result isStage notBlocked runId inRun
  -- The Run of an execution's task exists.
  have exists_run : ∀ before,
      state.executions.get key = some before →
      before.task = execution.task →
      ∃ run, state.db.run.get runId = some run := by
    intro before foundBefore sameTask
    obtain ⟨row, foundRow, same⟩ :=
      (wellFormed.executions key before foundBefore).task
    rw [sameTask] at same
    simp only [fixedColumns, Prod.mk.injEq] at same
    exact lockHeld.runs _ row foundRow (by rw [same.1, isDiscover]) runId
      (by rw [same.2.2.2.2.2.2.2.2, inRun])
  cases changed with
  | @kept before _ foundBefore taskId task stage _ =>
      exact keeps runId (lockHeld.reported key before foundBefore
        (task ▸ isDiscover) result (stage ▸ isStage) notBlocked runId
        (task ▸ inRun))
  | @started before started _ foundBefore _ starts database =>
      simp only [startHandler] at starts
      dsimp only at isDiscover isStage inRun
      rw [isDiscover, inRun] at starts
      obtain rfl := Option.some.inj starts
      rw [database]
      refine (discoverStart_run state.db action.now _ (some runId)).2 result
        ?_ runId rfl (exists_run before foundBefore rfl)
      revert isStage
      unfold startedStage
      split
      · next isReturned =>
          intro isStage
          rw [isReturned, Stage.returned.inj isStage]
      · intro impossible
        cases impossible
      · intro impossible
        cases impossible
  | @finished before work answer finished _ foundBefore _ finishes
      database =>
      rw [database]
      cases answer with
      | discover answer =>
          simp only [finishHandler] at finishes
          dsimp only at isDiscover isStage inRun
          rw [if_pos isDiscover, inRun] at finishes
          obtain rfl := Option.some.inj finishes
          obtain rfl := Stage.returned.inj isStage
          exact (discoverFinish_run state.db action.now _ (some runId)
            answer).2 notBlocked runId rfl (exists_run before foundBefore rfl)
      | _ =>
          dsimp only at isDiscover
          simp [finishHandler, isDiscover] at finishes
  | raised => cases isStage
  | claimed => cases isStage

theorem lockHeld_step
    {environment : Environment} {state state' : State} {action : Action}
    (wellFormed : WellFormed state)
    (lockHeld : LockHeld state)
    (permitted : endsWithoutRun state action = false)
    (taken : step environment state action = some state') :
    LockHeld state' := by
  cases isStart : action.event.startsDiscover with
  | false =>
      have ends := runsEnd_of_not_start isStart taken
      constructor
      · intro taskId row' found' isDiscover runId inRun
        obtain ⟨row, found, same⟩ :=
          discover_origin isStart taken found' isDiscover
        simp only [fixedColumns, Prod.mk.injEq] at same
        obtain ⟨run, foundRun⟩ := lockHeld.runs taskId row found
          (by rw [← same.1, isDiscover]) runId
          (by rw [← same.2.2.2.2.2.2.2.2, inRun])
        obtain ⟨run', foundRun', -⟩ := ends.kept foundRun
        exact ⟨run', foundRun'⟩
      · intro key execution found
        exact reported_step wellFormed lockHeld
          (fun _ ended => ended.of_runsEnd ends) (execution_cases taken found)
      · intro runId run' found' isRunning isDiscover
        cases found : state.db.run.get runId with
        | none =>
            rw [ends.absent found] at found'
            cases found'
        | some run =>
            obtain ⟨other, foundOther, sameKind, running⟩ := ends.kept found
            rw [found', Option.some.injEq] at foundOther
            subst foundOther
            obtain ⟨taskId, task, foundTask, taskDiscover, inRun,
              unfinished⟩ := lockHeld.held runId run found
                (running isRunning) (sameKind ▸ isDiscover)
            obtain ⟨-, -, kept⟩ := wellFormed_tasks wellFormed taken
            obtain ⟨task', foundTask', same⟩ := kept taskId task foundTask
            simp only [fixedColumns, Prod.mk.injEq] at same
            rcases unfinished_or_ended wellFormed lockHeld foundTask
                taskDiscover inRun unfinished permitted taken with
              ⟨again, foundAgain, unfinished'⟩ | ⟨ended, foundEnded, notRunning⟩
            · rw [foundTask', Option.some.injEq] at foundAgain
              subst foundAgain
              exact ⟨taskId, task', foundTask', by rw [same.1, taskDiscover],
                by rw [same.2.2.2.2.2.2.2.2, inRun], unfinished'⟩
            · rw [found', Option.some.injEq] at foundEnded
              subst foundEnded
              exact absurd isRunning notRunning
  | true =>
      obtain ⟨started, row, starts⟩ := starts_of_startsDiscover isStart taken
      obtain ⟨startedRun, runs⟩ := starts.run
      have keepsRun : ∀ {runId : Nat} {run : RunRow},
          state.db.run.get runId = some run →
          state'.db.run.get runId = some run := by
        intro runId run found
        rw [runs]
        exact Table.get_insert_of_some _ found
      constructor
      · intro taskId row' found' isDiscover runId inRun
        rw [starts.task, Table.get_insert] at found'
        split at found'
        · obtain rfl := Option.some.inj found'
          rw [starts.inRun, Option.some.injEq] at inRun
          subst inRun
          exact ⟨startedRun, by
            rw [runs, starts.isNext, Table.get_insert_nextKey]⟩
        · obtain ⟨run, foundRun⟩ :=
            lockHeld.runs taskId row' found' isDiscover runId inRun
          exact ⟨run, keepsRun foundRun⟩
      · intro key execution found
        refine reported_step wellFormed lockHeld ?_
          (execution_cases taken found)
        rintro runId ⟨run, foundRun, notRunning⟩
        exact ⟨run, keepsRun foundRun, notRunning⟩
      · intro runId run found' isRunning isDiscover
        rw [runs, Table.get_insert] at found'
        split at found'
        · next isNext =>
            refine ⟨state.db.task.nextKey, row, ?_, starts.isDiscover, ?_, ?_⟩
            · rw [starts.task, Table.get_insert_nextKey]
            · rw [starts.inRun, starts.isNext, isNext]
            · rw [starts.queued]
              rfl
        · obtain ⟨taskId, task, foundTask, same⟩ :=
            lockHeld.held runId run found' isRunning isDiscover
          refine ⟨taskId, task, ?_, same⟩
          rw [starts.task]
          exact Table.get_insert_of_some _ foundTask

/-! ## The main result -/

/-- Nothing was enqueued yet, and no Run is running. -/
structure Unlocked (state : State) : Prop where
  tasks : state.db.task = .empty
  executions : state.executions = .empty
  runs : ∀ runId run, state.db.run.get runId = some run →
    run.status ≠ .running

theorem Unlocked.lockHeld {state : State} (unlocked : Unlocked state) :
    LockHeld state := by
  constructor
  · intro key row found
    simp [unlocked.tasks] at found
  · intro key execution found
    simp [unlocked.executions] at found
  · intro runId run found isRunning
    exact absurd isRunning (unlocked.runs runId run found)

/--
In every run in which no discover task ends without its Run, every running
discover Run has an unfinished task.
-/
theorem running_discover_has_task
    {environment : Environment} {start state : State}
    (unlocked : Unlocked start)
    (steps : Steps (step environment)
      (fun state action => endsWithoutRun state action = false) start state)
    {runId : Nat} {run : RunRow}
    (found : state.db.run.get runId = some run)
    (isRunning : run.status = .running)
    (isDiscover : run.kind = "discover") :
    ∃ taskId task, state.db.task.get taskId = some task ∧
      task.runId = some runId ∧ isUnfinished task.status = true := by
  obtain ⟨-, lockHeld⟩ := steps.invariant
    (fun state => WellFormed state ∧ LockHeld state)
    ⟨wellFormed_of_no_tasks unlocked.tasks unlocked.executions,
      unlocked.lockHeld⟩
    fun _ _ _ ⟨wellFormed, lockHeld⟩ permitted taken =>
      ⟨wellFormed_step wellFormed taken,
        lockHeld_step wellFormed lockHeld permitted taken⟩
  obtain ⟨taskId, task, foundTask, -, inRun, unfinished⟩ :=
    lockHeld.held runId run found isRunning isDiscover
  exact ⟨taskId, task, foundTask, inRun, unfinished⟩

theorem unlocked_onePlaylist : Unlocked onePlaylist :=
  ⟨rfl, rfl, fun _ _ found => by simp [onePlaylist] at found⟩

/-- A discover Run whose handler was blocked once. -/
def blockedDiscover : List Action :=
  [⟨.startDiscover 1 false .manual 5, 0⟩,
    ⟨.claim .network "network" none, 0⟩,
    ⟨.start 1, 0⟩,
    ⟨.finish 1 (.discover (.failed .blocked "" none)), 1⟩,
    ⟨.settle 1 0, 1⟩]

theorem running_discover_has_task_blockedDiscover :
    ∃ state, run (step oneWorker) onePlaylist blockedDiscover = some state ∧
      ∃ taskId task, state.db.task.get taskId = some task ∧
        task.runId = some 1 ∧ isUnfinished task.status = true := by
  refine ⟨_, rfl, ?_⟩
  exact @running_discover_has_task oneWorker onePlaylist _
    unlocked_onePlaylist
    (Steps.of_checked_run
      (fun state action => !endsWithoutRun state action)
      (fun _ _ passes => by simpa using passes) blockedDiscover rfl)
    1 _ rfl rfl rfl

/-- A discover task which is cancelled before a worker claims it. -/
def cancelledDiscover : List Action :=
  [⟨.startDiscover 1 false .manual 5, 0⟩, ⟨.webCancelTask 1, 1⟩]

/-- Then its Run is running without a task, and the playlist is locked. -/
theorem locked_after_cancelledDiscover :
    ∃ state,
      run (step oneWorker) onePlaylist cancelledDiscover = some state ∧
      (state.db.run.get 1).map (fun run => (run.status, run.kind)) =
        some (.running, "discover") ∧
      (state.db.task.any fun _ task =>
        task.runId == some 1 && isUnfinished task.status) = false ∧
      playlistSyncIsActive state.db 1 = true := by
  refine ⟨_, rfl, ?_, ?_, ?_⟩
  · rfl
  · rfl
  · rfl

end Sluicery.System
