import Sluicery.Tasks.CancelRequests

/-!
# Executions and fencing

A claim starts an execution: a thread of the claiming worker which later
writes progress, heartbeats and a settlement for the claimed task.  The
thread may outlive its claim, when the task is recovered as stale or retried
and then claimed again.  The only guard of its writes is the worker id on
the row, so they are rejected when another worker holds the task, but not
when the new claim belongs to another thread of the same worker.
-/

namespace Sluicery.Tasks.Fencing

open Sluicery.Library Sluicery.Library.Transition
open Sluicery.Db Sluicery.Db.TaskRepository
open Sluicery.Tasks.Queue

/-- A thread which executes a claimed task. -/
structure Execution where
  taskId : Nat
  workerId : String
  live : Bool := true

/-- The task table, and the executions in the order of their claims. -/
structure System where
  tasks : Table TaskRow := .empty
  executions : Table Execution := .empty

/-- What happens to tasks and executions. -/
inductive Event where
  /-- An action of the queue which is neither a claim nor an owner's write. -/
  | queue (action : Action)
  | claim (workerClass : WorkerClass) (workerId : String) (claimedAt : Time)
      (itemConcurrency : Option Nat)
  | write (execution : Nat) (write : Write)
  | terminate (execution : Nat)

/-- The actions of users, the reaper and the code which enqueues. -/
def isExternal : Action → Bool
  | .claimNext .. | .write .. => false
  | _ => true

/-- One event. -/
def step (system : System) : Event → Option System
  | .queue action =>
      if isExternal action then
        (Queue.step system.tasks action).map fun tasks =>
          { system with tasks }
      else none
  | .claim workerClass workerId claimedAt itemConcurrency =>
      match claimNext system.tasks workerClass workerId claimedAt
          itemConcurrency with
      | .error _ => none
      | .ok (none, _) => some system
      | .ok (some taskId, tasks) =>
          some
            { tasks
              executions :=
                system.executions.insert ⟨taskId, workerId, true⟩ }
  | .write execution write =>
      match system.executions.get execution with
      | some ⟨taskId, workerId, true⟩ =>
          some { system with
            tasks := (write.perform system.tasks taskId workerId).2 }
      | _ => none
  | .terminate execution =>
      some { system with
        executions := system.executions.modify execution fun ended =>
          { ended with live := false } }

/-- No execution of the task started after this one. -/
def IsLatest (system : System) (execution taskId : Nat) : Prop :=
  ∀ later other, system.executions.get later = some other →
    other.taskId = taskId → later ≤ execution

/-- The claim which started the execution still holds. -/
def IsCurrent (system : System) (execution : Nat) : Prop :=
  ∃ started row, system.executions.get execution = some started ∧
    system.tasks.get started.taskId = some row ∧
    row.status = .running ∧ IsLatest system execution started.taskId

/-- A worker claims a task which another of its threads still executes. -/
def reclaimsOwn (system : System) : Event → Bool
  | .claim workerClass workerId claimedAt itemConcurrency =>
      match claimNext system.tasks workerClass workerId claimedAt
          itemConcurrency with
      | .ok (some taskId, _) =>
          system.executions.any fun _ execution =>
            execution.live && execution.taskId == taskId &&
              execution.workerId == workerId
      | _ => false
  | _ => false

/-! ## The invariant -/

/--
The worker on a running row started its latest execution, and no other
execution of this worker for the task is alive.
-/
structure Fenced (system : System) : Prop where
  owner {taskId : Nat} {row : TaskRow}
    (found : system.tasks.get taskId = some row)
    (running : row.status = .running) :
    ∃ execution started, system.executions.get execution = some started ∧
      started.taskId = taskId ∧ row.workerId = some started.workerId ∧
      IsLatest system execution taskId
  distinct {earlier later : Nat} {first second : Execution}
    (foundFirst : system.executions.get earlier = some first)
    (foundSecond : system.executions.get later = some second)
    (sameTask : first.taskId = second.taskId)
    (before : earlier < later) (live : first.live = true) :
    first.workerId ≠ second.workerId

/-- Under the invariant only a current execution owns its task. -/
theorem Fenced.not_owned
    {system : System} {execution : Nat} {started : Execution}
    (fenced : Fenced system)
    (found : system.executions.get execution = some started)
    (live : started.live = true)
    (notCurrent : ¬ IsCurrent system execution) :
    ∀ row, system.tasks.get started.taskId = some row →
      ownedBy started.taskId started.workerId started.taskId row = false := by
  intro row foundRow
  rw [Bool.eq_false_iff]
  intro owned
  obtain ⟨-, running, isOwner⟩ := (ownedBy_eq_true_iff _ _ _ _).mp owned
  obtain ⟨latest, other, foundOther, sameTask, otherOwner, isLatest⟩ :=
    fenced.owner foundRow running
  have sameWorker : started.workerId = other.workerId := by
    rw [isOwner, Option.some.injEq] at otherOwner
    exact otherOwner
  rcases Nat.lt_or_eq_of_le (isLatest execution started found rfl) with
    before | same
  · exact fenced.distinct found foundOther sameTask.symm before live
      sameWorker
  · subst same
    exact notCurrent ⟨started, row, found, foundRow, running, isLatest⟩

theorem Allowed.isClaim
    {tasks : Table TaskRow} {action : Action} {key : Nat} {row : TaskRow}
    {workerId : String} {claimedAt : Time}
    (allowed : Allowed tasks action key (.claim workerId claimedAt) row) :
    ∃ workerClass itemConcurrency,
      action = .claimNext workerClass workerId claimedAt itemConcurrency := by
  cases allowed with
  | @write _ _ write _ _ _ _ isChange => cases write <;> cases isChange
  | claim => exact ⟨_, _, rfl⟩

/-- A row which is running after a step without a claim was so before. -/
theorem running_before
    {tasks tasks' : Table TaskRow} {action : Action} {key : Nat}
    {row' : TaskRow}
    (taken : Queue.step tasks action = some tasks')
    (noClaim : ∀ workerClass workerId claimedAt itemConcurrency,
      action ≠ .claimNext workerClass workerId claimedAt itemConcurrency)
    (found' : tasks'.get key = some row')
    (running : row'.status = .running) :
    ∃ row, tasks.get key = some row ∧ row.status = .running ∧
      row'.workerId = row.workerId := by
  rcases step_cases taken with inserts | rewrites
  · cases found : tasks.get key with
    | none =>
        rw [(inserts.new found found').1.status] at running
        cases running
    | some row =>
        have kept := inserts.kept found
        rw [found', Option.some.injEq] at kept
        subst kept
        exact ⟨_, rfl, running, rfl⟩
  · obtain ⟨row, found, chain⟩ := rewrites.origin found'
    refine ⟨row, found, chain.invariant
      (fun other => other.status = .running →
        row.status = .running ∧ other.workerId = row.workerId)
      (fun running => ⟨running, rfl⟩) ?_ running⟩
    intro change other holds enabled allowed running
    rcases Change.running_values enabled running with
      ⟨workerId, claimedAt, rfl⟩ | ⟨before, sameWorker⟩
    · obtain ⟨workerClass, itemConcurrency, isClaim⟩ := Allowed.isClaim allowed
      exact absurd isClaim (noClaim _ _ _ _)
    · exact ⟨(holds before).1, sameWorker.trans (holds before).2⟩

/-- The task table changes without a claim. -/
theorem Fenced.of_queue_step
    {system : System} {tasks' : Table TaskRow} {action : Action}
    (fenced : Fenced system)
    (taken : Queue.step system.tasks action = some tasks')
    (noClaim : ∀ workerClass workerId claimedAt itemConcurrency,
      action ≠ .claimNext workerClass workerId claimedAt itemConcurrency) :
    Fenced { system with tasks := tasks' } where
  owner found' running := by
    obtain ⟨row, found, before, sameWorker⟩ :=
      running_before taken noClaim found' running
    rw [sameWorker]
    exact fenced.owner found before
  distinct := fenced.distinct

/-- A thread ends. -/
theorem Fenced.terminate
    {system : System} (fenced : Fenced system) (execution : Nat) :
    Fenced { system with
      executions := system.executions.modify execution fun ended =>
        { ended with live := false } } := by
  -- The ended thread keeps its task and its worker.
  have origin : ∀ {key : Nat} {ended : Execution},
      (system.executions.modify execution fun ended =>
        { ended with live := false }).get key = some ended →
      ∃ started, system.executions.get key = some started ∧
        ended.taskId = started.taskId ∧ ended.workerId = started.workerId ∧
        (ended.live = true → started.live = true) := by
    intro key ended found
    rw [Table.get_modify] at found
    split at found
    · obtain ⟨started, foundStarted, rfl⟩ := Option.map_eq_some_iff.mp found
      exact ⟨started, foundStarted, rfl, rfl, fun impossible => nomatch impossible⟩
    · exact ⟨ended, found, rfl, rfl, id⟩
  constructor
  · intro taskId row found running
    obtain ⟨latest, started, foundStarted, sameTask, owner, isLatest⟩ :=
      fenced.owner found running
    have kept : ∃ ended,
        (system.executions.modify execution fun ended =>
          { ended with live := false }).get latest = some ended ∧
        ended.taskId = started.taskId ∧
        ended.workerId = started.workerId := by
      rw [Table.get_modify, foundStarted]
      split
      · exact ⟨_, rfl, rfl, rfl⟩
      · exact ⟨_, rfl, rfl, rfl⟩
    obtain ⟨ended, foundEnded, endedTask, endedWorker⟩ := kept
    refine ⟨latest, ended, foundEnded, endedTask.trans sameTask, ?_, ?_⟩
    · rw [endedWorker, owner]
    · intro later other foundOther otherTask
      obtain ⟨before, foundBefore, beforeTask, -⟩ := origin foundOther
      exact isLatest later before foundBefore (beforeTask ▸ otherTask)
  · intro earlier later first second foundFirst foundSecond sameTask before
      live
    obtain ⟨firstStart, foundFirstStart, firstTask, firstWorker, firstLive⟩ :=
      origin foundFirst
    obtain ⟨secondStart, foundSecondStart, secondTask, secondWorker, -⟩ :=
      origin foundSecond
    rw [firstWorker, secondWorker]
    refine fenced.distinct foundFirstStart foundSecondStart ?_ before
      (firstLive live)
    rw [← firstTask, ← secondTask, sameTask]

/-- A claim starts the latest execution of its task. -/
theorem Fenced.claim
    {system : System} {tasks' : Table TaskRow} {taskId : Nat}
    {workerClass : WorkerClass} {workerId : String} {claimedAt : Time}
    {itemConcurrency : Option Nat}
    (fenced : Fenced system)
    (claims : claimNext system.tasks workerClass workerId claimedAt
      itemConcurrency = .ok (some taskId, tasks'))
    (noOwnThread : (system.executions.any fun _ execution =>
      execution.live && execution.taskId == taskId &&
        execution.workerId == workerId) = false) :
    Fenced
      { tasks := tasks'
        executions :=
          system.executions.insert ⟨taskId, workerId, true⟩ } := by
  have claimed := (claimNext_cases claims).2
  dsimp only at claimed
  subst claimed
  constructor
  · intro other row found running
    by_cases same : other = taskId
    · subst same
      rw [Table.get_modify_self, Option.map_eq_some_iff] at found
      obtain ⟨before, -, rfl⟩ := found
      refine ⟨system.executions.nextKey, ⟨other, workerId, true⟩,
        Table.get_insert_nextKey _ _, rfl, rfl, ?_⟩
      intro later execution foundLater _
      rw [Table.get_insert] at foundLater
      split at foundLater
      · next isNext => exact Nat.le_of_eq isNext
      · exact Nat.le_of_lt (Table.lt_nextKey foundLater)
    · rw [Table.get_modify_of_ne _ _ same] at found
      obtain ⟨latest, started, foundStarted, sameTask, owner, isLatest⟩ :=
        fenced.owner found running
      refine ⟨latest, started, Table.get_insert_of_some _ foundStarted,
        sameTask, owner, ?_⟩
      intro later execution foundLater laterTask
      rw [Table.get_insert] at foundLater
      split at foundLater
      · obtain rfl := Option.some.inj foundLater
        exact absurd laterTask.symm same
      · exact isLatest later execution foundLater laterTask
  · intro earlier later first second foundFirst foundSecond sameTask before
      live
    rw [Table.get_insert] at foundFirst foundSecond
    split at foundSecond
    · next isNext =>
        obtain rfl := Option.some.inj foundSecond
        rw [if_neg (by omega)] at foundFirst
        intro sameWorker
        have ownThread : (system.executions.any fun _ execution =>
            execution.live && execution.taskId == taskId &&
              execution.workerId == workerId) = true :=
          (Table.any_eq_true_iff _ _).mpr ⟨earlier, first, foundFirst, by
            simp [live, sameTask, sameWorker]⟩
        rw [noOwnThread] at ownThread
        cases ownThread
    · split at foundFirst
      · next isNext =>
          have below := Table.lt_nextKey foundSecond
          omega
      · exact fenced.distinct foundFirst foundSecond sameTask before live

theorem fenced_step
    {system system' : System} {event : Event}
    (fenced : Fenced system)
    (permitted : reclaimsOwn system event = false)
    (taken : step system event = some system') : Fenced system' := by
  cases event with
  | queue action =>
      simp only [step] at taken
      split at taken
      · next external =>
          obtain ⟨tasks', moved, rfl⟩ := Option.map_eq_some_iff.mp taken
          refine fenced.of_queue_step moved ?_
          rintro workerClass workerId claimedAt itemConcurrency rfl
          cases external
      · cases taken
  | write execution write =>
      simp only [step] at taken
      split at taken
      · next taskId workerId found =>
          obtain rfl := Option.some.inj taken
          refine @Fenced.of_queue_step _ _ (.write taskId workerId write)
            fenced rfl ?_
          intro _ _ _ _ impossible
          cases impossible
      · cases taken
  | terminate execution =>
      obtain rfl := Option.some.inj taken
      exact fenced.terminate execution
  | claim workerClass workerId claimedAt itemConcurrency =>
      simp only [step] at taken
      simp only [reclaimsOwn] at permitted
      split at taken
      · cases taken
      · obtain rfl := Option.some.inj taken
        exact fenced
      · next taskId tasks claims =>
          obtain rfl := Option.some.inj taken
          rw [claims] at permitted
          exact fenced.claim claims permitted

/-! ## The main result -/

/--
In every run in which no worker claims a task again while another of its
threads still executes it, a write of an execution whose claim does not hold
any more is rejected and leaves the task table as it was.
-/
theorem stale_execution_rejected
    {system : System} {execution : Nat} {started : Execution}
    (steps : Steps step
      (fun system event => reclaimsOwn system event = false) {} system)
    (found : system.executions.get execution = some started)
    (live : started.live = true)
    (notCurrent : ¬ IsCurrent system execution)
    (write : Write) :
    write.perform system.tasks started.taskId started.workerId =
      (false, system.tasks) := by
  have initially : Fenced {} := by
    constructor
    · intro taskId row found
      simp at found
    · intro earlier later first second found
      simp at found
  have fenced : Fenced system := steps.invariant Fenced initially
    fun _ _ _ fenced permitted taken => fenced_step fenced permitted taken
  exact write.perform_of_not_owned
    (fenced.not_owned found live notCurrent)

/-- A task which turns stale and is claimed again by the given worker. -/
def reclaimedBy (workerId : String) : List Event :=
  [.queue (.enqueue .download "target" 1 [] .network 5 none),
    .claim .network "worker" 0 (some 2),
    .queue (.recoverStale 100 200),
    .claim .network workerId 300 (some 2)]

theorem not_isCurrent_of_later
    {system : System} {execution later : Nat} {started other : Execution}
    (found : system.executions.get execution = some started)
    (foundLater : system.executions.get later = some other)
    (sameTask : other.taskId = started.taskId)
    (after : execution < later) : ¬ IsCurrent system execution := by
  rintro ⟨started', row, found', -, -, isLatest⟩
  rw [found, Option.some.injEq] at found'
  subst found'
  have notLater := isLatest later other foundLater sameTask
  omega

theorem stale_execution_rejected_reclaimedBy_other :
    ∃ system, run step {} (reclaimedBy "other") = some system ∧
      (Write.succeeded 400).perform system.tasks 1 "worker" =
        (false, system.tasks) := by
  refine ⟨_, rfl, ?_⟩
  exact @stale_execution_rejected _ 1 ⟨1, "worker", true⟩
    (Steps.of_checked_run (fun system event => !reclaimsOwn system event)
      (fun _ _ passed => by simpa using passed) (reclaimedBy "other") rfl)
    rfl rfl
    (@not_isCurrent_of_later _ 1 2 _ ⟨1, "other", true⟩ rfl rfl rfl
      (by decide))
    (.succeeded 400)

/--
When the same worker claims the recovered task again, the heartbeat and the
result of its old thread are accepted.
-/
theorem old_thread_settles_new_claim :
    ∃ system, run step {} (reclaimedBy "worker") = some system ∧
      system.executions.get 1 = some ⟨1, "worker", true⟩ ∧
      ¬ IsCurrent system 1 ∧
      ((Write.heartbeat 400).perform system.tasks 1 "worker").1 = true ∧
      ((Write.failedForRetry 60 none 400).perform
        system.tasks 1 "worker").1 = true ∧
      (((Write.failedForRetry 60 none 400).perform
        system.tasks 1 "worker").2.get 1).map TaskRow.status =
          some .pending := by
  refine ⟨_, rfl, rfl, ?_, rfl, rfl, rfl⟩
  exact @not_isCurrent_of_later _ 1 2 _ ⟨1, "worker", true⟩ rfl rfl rfl
    (by decide)

end Sluicery.Tasks.Fencing
