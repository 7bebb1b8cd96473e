import Sluicery.Db.TaskChanges

/-!
# Pipelines

`enqueue_pipeline` inserts the five tasks of a Target in one transaction,
each depending on the one before.  `Extends` says what an insertion does to
the task table: rows stay, and a new row has the columns of a task which was
never claimed.
-/

namespace Sluicery.Tasks

open Sluicery.Library Sluicery.Db

/-- `PIPELINE_STEPS`. -/
def pipelineSteps : List (TaskType × WorkerClass) :=
  [(.download, .network), (.verify, .compute), (.postprocess, .compute),
    (.publish, .network), (.index, .network)]

/-- The row of one step. -/
def pipelineRow (targetId : Nat) (runId : Option Nat) (workId : String)
    (maxAttempts : Nat) (dependency : Option Nat)
    (step : TaskType × WorkerClass) : TaskRow :=
  { type := step.1
    targetRefType := "target"
    targetRefId := targetId
    payloadJson :=
      some [("work_id", .str workId), ("target_id", .int targetId)]
    workerClass := step.2
    status := .queued
    dependsOnTaskId := dependency
    maxAttempts
    runId }

/-- The loop of `enqueue_pipeline`, with the keys of the new tasks. -/
def enqueueSteps (targetId : Nat) (runId : Option Nat) (workId : String)
    (maxAttempts : Nat) :
    List (TaskType × WorkerClass) → Option Nat → Table TaskRow →
      List Nat × Table TaskRow
  | [], _, tasks => ([], tasks)
  | step :: rest, dependency, tasks =>
      let row := pipelineRow targetId runId workId maxAttempts dependency step
      let later := enqueueSteps targetId runId workId maxAttempts rest
        (some tasks.nextKey) (tasks.insert row)
      (tasks.nextKey :: later.1, later.2)

/-- `enqueue_pipeline`, for the resolved work id. -/
def enqueuePipeline (tasks : Table TaskRow) (targetId : Nat)
    (runId : Option Nat) (workId : String) (maxAttempts : Nat) :
    List Nat × Table TaskRow :=
  enqueueSteps targetId runId workId maxAttempts pipelineSteps none tasks

/-! ## What an insertion does -/

/-- The columns of a task which was never claimed. -/
structure Fresh (row : TaskRow) : Prop where
  status : row.status = .queued
  cancelRequested : row.cancelRequested = false
  blockedUntil : row.blockedUntil = none
  availableAt : row.availableAt = none
  workerId : row.workerId = none
  startedAt : row.startedAt = none
  heartbeatAt : row.heartbeatAt = none
  finishedAt : row.finishedAt = none
  attempts : row.attempts = 0

/-- Rows stay, and a new row satisfies `created`. -/
structure Extends (created : Nat → TaskRow → Prop)
    (before after : Table TaskRow) : Prop where
  kept {key : Nat} {row : TaskRow} (found : before.get key = some row) :
    after.get key = some row
  new {key : Nat} {row : TaskRow} (missing : before.get key = none)
    (found : after.get key = some row) : created key row

theorem Extends.insert
    {created : Nat → TaskRow → Prop} (tasks : Table TaskRow) {row : TaskRow}
    (isCreated : created tasks.nextKey row) :
    Extends created tasks (tasks.insert row) where
  kept found := Table.get_insert_of_some row found
  new {key inserted} missing found := by
    rw [Table.get_insert, missing] at found
    split at found
    · next isNext =>
        rw [Option.some.injEq] at found
        rw [isNext, ← found]
        exact isCreated
    · cases found

theorem Extends.refl
    {created : Nat → TaskRow → Prop} (tasks : Table TaskRow) :
    Extends created tasks tasks where
  kept found := found
  new missing found := by
    rw [missing] at found
    cases found

theorem Extends.trans
    {created : Nat → TaskRow → Prop} {before middle after : Table TaskRow}
    (first : Extends created before middle)
    (second : Extends created middle after) :
    Extends created before after where
  kept found := second.kept (first.kept found)
  new {key row} missing found := by
    cases foundMiddle : middle.get key with
    | none => exact second.new foundMiddle found
    | some other =>
        have same := second.kept foundMiddle
        rw [found, Option.some.injEq] at same
        subst same
        exact first.new missing foundMiddle

/-- A new task of a pipeline: it names the Target and waits for a new task. -/
structure PipelineTask (before after : Table TaskRow) (targetId : Nat)
    (workId : String) (row : TaskRow) : Prop where
  fresh : Fresh row
  payload : row.payloadJson =
    some [("work_id", .str workId), ("target_id", .int targetId)]
  targetRefType : row.targetRefType = "target"
  targetRefId : row.targetRefId = targetId
  step : (row.type, row.workerClass) ∈ pipelineSteps
  dependency {parent : Nat} (named : row.dependsOnTaskId = some parent) :
    before.get parent = none ∧
      ∃ parentRow, after.get parent = some parentRow ∧
        parentRow.targetRefType = "target" ∧ parentRow.targetRefId = targetId

private theorem enqueueSteps_extends
    (targetId : Nat) (runId : Option Nat) (workId : String)
    (maxAttempts : Nat) {start : Table TaskRow} :
    ∀ (steps : List (TaskType × WorkerClass)) (dependency : Option Nat)
      (tasks : Table TaskRow),
      (∀ step ∈ steps, step ∈ pipelineSteps) →
      (∀ {key : Nat} {row : TaskRow}, start.get key = some row →
        tasks.get key = some row) →
      (∀ parent, dependency = some parent → start.get parent = none ∧
        ∃ parentRow, tasks.get parent = some parentRow ∧
          parentRow.targetRefType = "target" ∧
          parentRow.targetRefId = targetId) →
      let after :=
        (enqueueSteps targetId runId workId maxAttempts steps dependency
          tasks).2
      Extends (fun _ row => PipelineTask start after targetId workId row)
        tasks after
  | [], dependency, tasks => fun _ _ _ =>
      ⟨fun found => found, fun missing found => by
        rw [enqueueSteps, missing] at found
        cases found⟩
  | step :: rest, dependency, tasks => by
      intro areSteps kept isNew after
      have nextIsNew : start.get tasks.nextKey = none := by
        cases found : start.get tasks.nextKey with
        | none => rfl
        | some row =>
            have impossible := kept found
            rw [Table.get_nextKey] at impossible
            cases impossible
      have later := enqueueSteps_extends targetId runId workId maxAttempts
        rest (some tasks.nextKey)
        (tasks.insert
          (pipelineRow targetId runId workId maxAttempts dependency step))
        (fun other member => areSteps other (List.mem_cons_of_mem _ member))
        (fun found => Table.get_insert_of_some _ (kept found))
        (fun parent equal => by
          obtain rfl := Option.some.inj equal
          exact ⟨nextIsNew, _, Table.get_insert_nextKey _ _, rfl, rfl⟩)
      refine ⟨fun found => later.kept (Table.get_insert_of_some _ found), ?_⟩
      intro key row missing found
      by_cases isNext : key = tasks.nextKey
      · have kept := later.kept (Table.get_insert_nextKey tasks
          (pipelineRow targetId runId workId maxAttempts dependency step))
        subst isNext
        have same := kept.symm.trans found
        rw [Option.some.injEq] at same
        subst same
        refine ⟨⟨rfl, rfl, rfl, rfl, rfl, rfl, rfl, rfl, rfl⟩, rfl, rfl, rfl,
          areSteps step List.mem_cons_self, fun {parent} named => ?_⟩
        obtain ⟨missingParent, parentRow, foundParent, names⟩ :=
          isNew parent named
        exact ⟨missingParent, parentRow,
          later.kept (Table.get_insert_of_some _ foundParent), names⟩
      · refine later.new ?_ found
        rw [Table.get_insert, if_neg isNext, missing]

/-- The tasks of a pipeline are new and depend only on each other. -/
theorem enqueuePipeline_extends
    (tasks : Table TaskRow) (targetId : Nat) (runId : Option Nat)
    (workId : String) (maxAttempts : Nat) :
    let after := (enqueuePipeline tasks targetId runId workId maxAttempts).2
    Extends (fun _ row => PipelineTask tasks after targetId workId row)
      tasks after :=
  enqueueSteps_extends targetId runId workId maxAttempts pipelineSteps none
    tasks (fun _ member => member) (fun found => found)
    (fun _ impossible => nomatch impossible)

private theorem enqueueSteps_columns
    (targetId : Nat) (runId : Option Nat) (workId : String)
    (maxAttempts : Nat) (steps : List (TaskType × WorkerClass))
    (dependency : Option Nat) (tasks : Table TaskRow) :
    Extends
      (fun _ row => row.runId = runId ∧ row.maxAttempts = maxAttempts)
      tasks
      (enqueueSteps targetId runId workId maxAttempts steps dependency
        tasks).2 := by
  induction steps generalizing dependency tasks with
  | nil => exact .refl tasks
  | cons step rest induction =>
      exact (Extends.insert tasks ⟨rfl, rfl⟩).trans (induction _ _)

/-- The tasks of a pipeline share their Run and their number of attempts. -/
theorem enqueuePipeline_columns
    {tasks : Table TaskRow} {targetId : Nat} {runId : Option Nat}
    {workId : String} {maxAttempts key : Nat} {row : TaskRow}
    (missing : tasks.get key = none)
    (found : (enqueuePipeline tasks targetId runId workId
      maxAttempts).2.get key = some row) :
    row.runId = runId ∧ row.maxAttempts = maxAttempts :=
  (enqueueSteps_columns targetId runId workId maxAttempts pipelineSteps none
    tasks).new missing found

/-- The last task of a pipeline is its INDEX task. -/
theorem enqueuePipeline_index
    (tasks : Table TaskRow) (targetId : Nat) (runId : Option Nat)
    (workId : String) (maxAttempts : Nat) :
    ∃ key row, tasks.get key = none ∧
      (enqueuePipeline tasks targetId runId workId maxAttempts).2.get key =
        some row ∧
      row.type = .index := by
  simp only [enqueuePipeline, pipelineSteps, enqueueSteps]
  refine ⟨_, _, ?_, Table.get_insert_nextKey _ _, rfl⟩
  exact Table.get_of_get_insert (Table.get_of_get_insert
    (Table.get_of_get_insert (Table.get_of_get_insert
      (Table.get_nextKey _))))

end Sluicery.Tasks
