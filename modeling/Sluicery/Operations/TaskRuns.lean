import Sluicery.Operations.RunsWritten

/-!
# Which Runs have tasks

A task belongs to the Run of a discover or of a download, and a call writes
the Run which it has started.  Both hold after every event of `Operations`,
because no event changes the Run of a task or the kind of a Run.
-/

namespace Sluicery.Operations

open Sluicery.Library Sluicery.Db Sluicery.Db.TaskRepository
open Sluicery.Core Sluicery.Tasks Sluicery.Tasks.Handlers

/-! ## Tasks -/

/-- The Run exists and is of a kind which has tasks. -/
def InSync (runs : Table RunRow) (runId : Nat) : Prop :=
  ∃ run, runs.get runId = some run ∧ IsSync run.kind

theorem InSync.written
    {cancels : Nat → Prop} {before after : Table RunRow} {runId : Nat}
    (inSync : InSync before runId)
    (written : RunsWritten cancels before after) : InSync after runId := by
  rcases inSync with ⟨run, found, isSync⟩
  rcases written.kept found with ⟨run', found', isWritten⟩
  exact ⟨run', found', isWritten.kind.symm ▸ isSync⟩

/-- A task with a Run belongs to one with tasks, and a discover task has one. -/
structure TaskLinked (runs : Table RunRow) (task : TaskRow) : Prop where
  sync : ∀ runId, task.runId = some runId → InSync runs runId
  discover : task.type = .discover → ∃ runId, task.runId = some runId

theorem TaskLinked.written
    {cancels : Nat → Prop} {before after : Table RunRow} {task : TaskRow}
    (linked : TaskLinked before task)
    (written : RunsWritten cancels before after) : TaskLinked after task where
  sync := fun runId inRun => (linked.sync runId inRun).written written
  discover := linked.discover

/-- Only columns which no statement changes matter. -/
theorem TaskLinked.of_fixedColumns
    {runs : Table RunRow} {task task' : TaskRow}
    (linked : TaskLinked runs task)
    (same : fixedColumns task' = fixedColumns task) :
    TaskLinked runs task' := by
  simp only [fixedColumns, Prod.mk.injEq] at same
  constructor
  · intro runId inRun
    exact linked.sync runId (by rw [← same.2.2.2.2.2.2.2.2, inRun])
  · intro isDiscover
    rw [same.2.2.2.2.2.2.2.2]
    exact linked.discover (by rw [← same.1, isDiscover])

/-- Every task of the table is linked. -/
def TasksLinked (runs : Table RunRow) (tasks : Table TaskRow) : Prop :=
  ∀ key task, tasks.get key = some task → TaskLinked runs task

theorem TasksLinked.written
    {cancels : Nat → Prop} {before after : Table RunRow}
    {tasks : Table TaskRow} (linked : TasksLinked before tasks)
    (written : RunsWritten cancels before after) : TasksLinked after tasks :=
  fun key task found => (linked key task found).written written

/-- `UPDATE` statements keep the tasks linked. -/
theorem TasksLinked.rewrites
    {runs : Table RunRow} {before after : Table TaskRow}
    {allowed : Nat → Change → TaskRow → Prop}
    (linked : TasksLinked runs before)
    (rewrites : changes.Rewrites allowed before after) :
    TasksLinked runs after := by
  intro key task found
  rcases rewrites.origin found with ⟨old, foundOld, chain⟩
  exact (linked key old foundOld).of_fixedColumns
    (fixedColumns_of_chain chain)

theorem TasksLinked.insert
    {runs : Table RunRow} {tasks : Table TaskRow} {task : TaskRow}
    (linked : TasksLinked runs tasks) (inserted : TaskLinked runs task) :
    TasksLinked runs (tasks.insert task) := by
  intro key other found
  rw [Table.get_insert] at found
  split at found
  · rw [Option.some.injEq] at found
    exact found ▸ inserted
  · exact linked key other found

/-- A pipeline for a Run with tasks. -/
theorem TasksLinked.enqueuePipeline
    {runs : Table RunRow} {tasks : Table TaskRow} {runId : Nat}
    (linked : TasksLinked runs tasks) (inSync : InSync runs runId)
    (targetId : Nat) (workId : String) (maxAttempts : Nat) :
    TasksLinked runs
      (Tasks.enqueuePipeline tasks targetId (some runId) workId
        maxAttempts).2 := by
  intro key task found'
  have extended := enqueuePipeline_extends tasks targetId (some runId) workId
    maxAttempts
  cases found : tasks.get key with
  | some old =>
      rw [extended.kept found, Option.some.injEq] at found'
      subst found'
      exact linked key old found
  | none =>
      have isStep := (extended.new found found').step
      have columns := enqueuePipeline_columns found found'
      constructor
      · intro other inRun
        rw [columns.1, Option.some.injEq] at inRun
        exact inRun ▸ inSync
      · intro isDiscover
        simp [isDiscover, pipelineSteps] at isStep

/-- Events of the system without a start insert no task. -/
theorem TasksLinked.system
    {runs : Table RunRow} {environment : System.Environment}
    {state state' : System.State} {action : System.Action}
    (linked : TasksLinked runs state.db.task)
    (notInsert : action.event.inserts = false)
    (taken : System.step environment state action = some state') :
    TasksLinked runs state'.db.task := by
  apply (System.task_steps_by taken).invariant (TasksLinked runs) linked
  intro tasks queueAction tasks' before caused moved
  cases insert : Queue.isInsert queueAction with
  | false => exact before.rewrites (Queue.step_rewrites insert moved)
  | true =>
      cases queueAction with
      | enqueue =>
          rcases caused.2 with ⟨_, _, _, isEvent⟩
          rw [isEvent] at notInsert
          cases notInsert
      | enqueuePipeline =>
          rw [caused.2] at notInsert
          cases notInsert
      | createTestTask => exact caused.1.elim
      | _ => cases insert

/-- The actions of users insert no task. -/
theorem TasksLinked.user
    {runs : Table RunRow} {environment : Environment} {db after : Database}
    {now : Time} {event : Event}
    (linked : TasksLinked runs db.task)
    (notCall : RunWriters.isCall event = false)
    (acts : stepUser environment db now event = some after) :
    TasksLinked runs after.task := by
  cases event with
  | recoverOrphanRuns => cases notCall
  | recordSkipped playlistId kind reason =>
      cases acts
      unfold Scheduler.recordSkipped
      split <;> exact linked
  | retryTask taskId =>
      cases acts
      exact linked.rewrites (@Queue.step_rewrites db.task _
        (.retry taskId now) rfl rfl)
  | _ =>
      rw [(sameTasks_stepUser notCall
        (fun _ _ _ impossible => nomatch impossible)
        (fun _ impossible => nomatch impossible) acts).1]
      exact linked

/-! ## Calls -/

/-- A download phase enqueues pipelines of its own Run. -/
theorem download_tasks
    {run : DownloadRun} {db : Database} {answer : Option String}
    {workId : String} {now : Time} {after : Option DownloadRun × Database}
    (proceeds : run.proceed db answer workId now = .ok after) :
    after.2.task = db.task ∨ ∃ targetId, after.2.task =
      (enqueuePipeline db.task targetId (some run.runId) workId
        run.retryLimit).2 := by
  unfold DownloadRun.proceed at proceeds
  split at proceeds
  case h_1 =>
    rcases ok_of_map_eq_ok proceeds with ⟨next, -, rfl⟩
    exact Or.inl rfl
  case h_3 =>
    rcases ok_of_map_eq_ok proceeds with ⟨next, checks, rfl⟩
    unfold DownloadRun.check at checks
    dsimp only at checks
    split at checks
    · rcases ok_of_map_eq_ok checks with ⟨target, -, rfl⟩
      exact Or.inl rfl
    · rcases ok_of_map_eq_ok checks with ⟨target, -, rfl⟩
      exact Or.inl rfl
  case h_5 targetId _ _ _ _ =>
    rcases ok_of_map_eq_ok proceeds with ⟨next, enqueues, rfl⟩
    unfold DownloadRun.enqueue at enqueues
    split at enqueues
    · cases enqueues
      exact Or.inl rfl
    · rcases ok_of_map_eq_ok enqueues with ⟨enqueued, raises, rfl⟩
      have enqueued := ok_of_raiseTransition raises
      unfold enqueueTargetPipeline at enqueued
      split at enqueued <;> cases enqueued
      · exact Or.inl rfl
      · exact Or.inr ⟨targetId, rfl⟩
  all_goals
    cases proceeds
    exact Or.inl rfl

/-- A step of a call leaves the tasks or enqueues a pipeline of its own Run. -/
theorem TasksLinked.operates
    {environment : Environment} {db after : Database} {operation : Operation}
    {next : Option Operation}
    (linked : TasksLinked db.run db.task)
    (known : OperationLinked db.run operation)
    (operates : Operates environment db operation after next) :
    TasksLinked after.run after.task := by
  have written :=
    (runsWritten_operates (fun _ => False) known operates).2
  have before : TasksLinked after.run db.task := linked.written written
  cases operates with
  | @download run answer workId now after proceeds =>
      rcases download_tasks proceeds with same | ⟨targetId, enqueues⟩
      · rw [same]
        exact before
      · rcases known with ⟨row, found, kind⟩
        have inSync : InSync db.run run.runId := ⟨row, found, Or.inr kind⟩
        rw [enqueues]
        exact before.enqueuePipeline (inSync.written written) _ _ _
  | raised => exact before
  | retention taken =>
      have done := runsWritten_retention (fun _ => False)
        (known.direct (by simp [IsSync, Operation.kind])) taken
      rw [done.2.1]
      exact before
  | folderMove taken =>
      have done := runsWritten_folderMove (fun _ => False)
        (known.direct (by simp [IsSync, Operation.kind])) taken
      rw [done.2.1]
      exact before
  | stopped => exact before

/-! ## Worlds -/

/-- The tasks, the executions and the calls belong to Runs of their kind. -/
structure Linked (world : World) : Prop where
  tasks : TasksLinked world.db.run world.db.task
  executions : ∀ key execution,
    world.system.executions.get key = some execution →
      TaskLinked world.db.run execution.task
  operations : ∀ key operation, world.operations.get key = some operation →
    OperationLinked world.db.run operation

/-- The world with the tasks and Runs of another database. -/
theorem Linked.withDb
    {world : World} {db : Database} {cancels : Nat → Prop}
    (linked : Linked world)
    (written : RunsWritten cancels world.db.run db.run)
    (tasks : TasksLinked db.run db.task) : Linked (world.withDb db) where
  tasks := tasks
  executions := fun key execution found =>
    (linked.executions key execution found).written written
  operations := fun key operation found =>
    (linked.operations key operation found).written written

/-- The event cancels the Run of a handler. -/
def cancelsInWorld (world : World) (event : Event) (runId : Nat) : Prop :=
  ∃ handled, event = .system handled ∧
    cancelsHandled world.system handled runId

theorem eq_stepStart
    {environment : Environment} {world world' : World} {action : Action}
    (isStart : action.event.isStart = true)
    (taken : step environment world action = some world') :
    world' = stepStart environment world action.now action.event := by
  obtain ⟨event, now⟩ := action
  cases event with
  | startDiscover | startDownload | startRetention | startFolderMove =>
      exact (Option.some.inj taken).symm
  | _ => cases isStart

theorem runsWritten_step
    {environment : Environment} {world world' : World} {action : Action}
    (linked : Linked world)
    (notCall : RunWriters.isCall action.event = false)
    (taken : step environment world action = some world') :
    RunsWritten (cancelsInWorld world action.event) world.db.run
      world'.db.run := by
  cases isStart : action.event.isStart with
  | true =>
      rw [eq_stepStart isStart taken]
      exact runsWritten_stepStart environment world action.now action.event
  | false =>
      cases step_case taken with
      | @system event system isEvent notPart steps =>
          rw [isEvent] at notCall
          apply (runsWritten_system notCall notPart steps).weaken
          exact fun runId handled => ⟨event, isEvent, handled⟩
      | refused => exact .refl _
      | discover isEvent => rw [isEvent] at isStart; cases isStart
      | start starts => rw [starts] at isStart; cases isStart
      | @operate key operation db next isEvent found operates =>
          have written := (runsWritten_operates
            (cancelsInWorld world action.event)
            (linked.operations key operation found) operates).2
          cases next <;> exact written
      | user acts => exact runsWritten_stepUser notCall acts

/-- Only events of the system move executions. -/
theorem executions_cases
    {environment : Environment} {world world' : World} {action : Action}
    (taken : step environment world action = some world') :
    (∃ event system, System.step environment.system world.system
      ⟨event, action.now⟩ = some system ∧ world'.system = system) ∨
      world'.system.executions = world.system.executions := by
  cases step_case taken with
  | @system event system isEvent notPart steps =>
      exact Or.inl ⟨event, system, steps, rfl⟩
  | @operate key operation db next => cases next <;> exact Or.inr rfl
  | _ => exact Or.inr rfl

/-- The tasks of the executions are tasks of the table. -/
theorem linked_executions
    {environment : System.Environment} {state state' : System.State}
    {action : System.Action} {runs : Table RunRow}
    (linked : ∀ key execution, state.executions.get key = some execution →
      TaskLinked runs execution.task)
    (tasks : TasksLinked runs state'.db.task)
    (taken : System.step environment state action = some state')
    {key : Nat} {execution : System.Execution}
    (found : state'.executions.get key = some execution) :
    TaskLinked runs execution.task := by
  cases System.execution_cases taken found with
  | kept foundBefore taskId task =>
      rw [task]
      exact linked key _ foundBefore
  | @started before _ isEvent foundBefore =>
      exact linked key before foundBefore
  | @finished before _ _ _ isEvent foundBefore =>
      exact linked key before foundBefore
  | @raised before _ foundBefore => exact linked key before foundBefore
  | claimed foundRow => exact tasks _ _ foundRow

/-- The tasks after a step. -/
theorem tasksLinked_step
    {environment : Environment} {world world' : World} {action : Action}
    (linked : Linked world)
    (notCall : RunWriters.isCall action.event = false)
    (taken : step environment world action = some world') :
    TasksLinked world'.db.run world'.db.task := by
  have before : TasksLinked world'.db.run world.db.task :=
    linked.tasks.written (runsWritten_step linked notCall taken)
  cases step_case taken with
  | @system event system isEvent notPart steps =>
      refine before.system ?_ steps
      cases event with
      | startDiscover | enqueueTarget => cases notPart
      | _ => rfl
  | refused => exact before
  | discover isEvent starts =>
      rcases ok_of_enqueueDiscoverRun starts with ⟨-, -, rfl⟩
      refine TasksLinked.insert before ⟨?_, fun _ => ⟨_, rfl⟩⟩
      rintro runId isRun
      rw [← Option.some.inj isRun]
      exact ⟨_, Table.get_insert_nextKey _ _, Or.inl rfl⟩
  | start => exact before
  | @operate key operation db next isEvent found operates =>
      have after := linked.tasks.operates
        (linked.operations key operation found) operates
      cases next <;> exact after
  | @user db acts => exact before.user notCall acts

/-- The calls after a step. -/
theorem operationsLinked_step
    {environment : Environment} {world world' : World} {action : Action}
    (linked : Linked world)
    (notCall : RunWriters.isCall action.event = false)
    (taken : step environment world action = some world')
    {key : Nat} {operation : Operation}
    (found' : world'.operations.get key = some operation) :
    OperationLinked world'.db.run operation := by
  have written := runsWritten_step linked notCall taken
  have before : ∀ key operation, world.operations.get key = some operation →
      OperationLinked world'.db.run operation :=
    fun key operation found =>
      (linked.operations key operation found).written written
  cases step_case taken with
  | @start playlistId begun runs run isStart begins =>
      rw [World.started, Table.get_insert] at found'
      split at found'
      · rw [Option.some.injEq] at found'
        subst found'
        exact ⟨run, by rw [begins.runId]; exact Table.get_insert_nextKey _ _,
          begins.kind⟩
      · exact before key operation found'
  | @operate moved acting db next isEvent found operates =>
      cases next with
      | none =>
          simp only [World.after, World.returned, Table.get_erase] at found'
          split at found'
          · cases found'
          · exact before key operation found'
      | some goesOn =>
          simp only [World.after, World.continued, Table.get_modify]
            at found'
          split at found'
          · next same =>
              subst same
              rw [found, Option.map_some, Option.some.injEq] at found'
              subst found'
              have kept := (runsWritten_operates (fun _ => False)
                (linked.operations key acting found) operates).1 _ rfl
              rcases before key acting found with ⟨run, foundRun, kind⟩
              exact ⟨run, by rw [kept.1]; exact foundRun,
                kind.trans kept.2.symm⟩
          · exact before key operation found'
  | _ => exact before key operation found'

theorem linked_step
    {environment : Environment} {world world' : World} {action : Action}
    (linked : Linked world)
    (notCall : RunWriters.isCall action.event = false)
    (taken : step environment world action = some world') :
    Linked world' where
  tasks := tasksLinked_step linked notCall taken
  executions := by
    intro key execution found
    have written := runsWritten_step linked notCall taken
    have before : ∀ key execution,
        world.system.executions.get key = some execution →
          TaskLinked world'.db.run execution.task :=
      fun key execution found =>
        (linked.executions key execution found).written written
    have tasks := tasksLinked_step linked notCall taken
    rcases executions_cases taken with ⟨event, system, steps, same⟩ | same
    · refine linked_executions before ?_ steps (same ▸ found)
      exact same ▸ tasks
    · rw [same] at found
      exact before key execution found
  operations := fun _ _ found =>
    operationsLinked_step linked notCall taken found

end Sluicery.Operations
