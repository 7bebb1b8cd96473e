import Sluicery.Db.TaskChanges
import Sluicery.Web.Cancel

/-!
# The Targets which a cancel changes

`task_cancel` looks at the status of the task after the request, and then at
every cancelled task of its Run.  Tasks which were cancelled before are among
them, and their Targets may belong to newer pipelines by now.
-/

namespace Sluicery.Web

open Sluicery.Library Sluicery.Db Sluicery.Db.TaskRepository Sluicery.Core

/-! ## The reflection of a list of tasks -/

/-- The task works on the Target. -/
def OnTarget (task : TaskRow) (targetId : Nat) : Prop :=
  task.targetRefType = "target" ∧ task.targetRefId = targetId

theorem get_syncCancelled
    (targets : Table TargetRow) (task : TaskRow) (now : Time)
    (targetId : Nat) :
    (syncCancelled targets task now).get targetId =
      (targets.get targetId).map fun row =>
        if task.targetRefType = "target" ∧ targetId = task.targetRefId ∧
            row.status ∈ activeStatuses then
          TargetRepository.statusValues .failed
            (some "Taskがキャンセルされました") none false now row
        else row := by
  simp only [syncCancelled, syncTargetAfterTask]
  by_cases isTarget : task.targetRefType = "target"
  · simp only [isTarget, ne_eq, not_true_eq_false, if_false, true_and]
    exact TargetRepository.get_compareAndSetStatus ..
  · simp [isTarget]

/-- A Target which is not active, or not of these tasks, stays. -/
theorem get_syncCancelledTasks_of_kept
    {now : Time} {tasks : List (Nat × TaskRow)} {targets : Table TargetRow}
    {targetId : Nat} {row : TargetRow}
    (found : targets.get targetId = some row)
    (kept : ∀ entry ∈ tasks, OnTarget entry.2 targetId →
      row.status ∉ activeStatuses) :
    (syncCancelledTasks now tasks targets).get targetId = some row := by
  induction tasks generalizing targets with
  | nil => exact found
  | cons first rest induction =>
      apply induction
      · rw [get_syncCancelled, found, Option.map_some, if_neg]
        rintro ⟨isTarget, same, isActive⟩
        exact kept first List.mem_cons_self ⟨isTarget, same.symm⟩ isActive
      · exact fun entry member => kept entry (List.mem_cons_of_mem _ member)

/-- An active Target of one of the tasks fails. -/
theorem failed_of_syncCancelledTasks
    {now : Time} {tasks : List (Nat × TaskRow)} {targets : Table TargetRow}
    {entry : Nat × TaskRow} {targetId : Nat} {row : TargetRow}
    (member : entry ∈ tasks) (onTarget : OnTarget entry.2 targetId)
    (found : targets.get targetId = some row)
    (isActive : row.status ∈ activeStatuses) :
    ∃ after, (syncCancelledTasks now tasks targets).get targetId =
      some after ∧ after.status = .failed := by
  induction tasks generalizing targets with
  | nil => cases member
  | cons first rest induction =>
      by_cases isFirst : OnTarget first.2 targetId
      · -- a failed Target is not active, so it stays failed
        refine ⟨TargetRepository.statusValues .failed
          (some "Taskがキャンセルされました") none false now row, ?_, rfl⟩
        show (syncCancelledTasks now rest
          (syncCancelled targets first.2 now)).get targetId = _
        apply get_syncCancelledTasks_of_kept
        · rw [get_syncCancelled, found, Option.map_some, if_pos]
          exact ⟨isFirst.1, isFirst.2.symm, isActive⟩
        · intro _ _ _
          exact (by decide : TargetStatus.failed ∉ activeStatuses)
      · have inRest : entry ∈ rest := by
          rcases List.mem_cons.mp member with rfl | inRest
          · exact absurd onTarget isFirst
          · exact inRest
        apply induction inRest
        rw [get_syncCancelled, found, Option.map_some, if_neg]
        rintro ⟨isTarget, same, _⟩
        exact isFirst ⟨isTarget, same.symm⟩

theorem get_syncCancelledTasks_of_missing
    {now : Time} {tasks : List (Nat × TaskRow)} {targets : Table TargetRow}
    {targetId : Nat} (missing : targets.get targetId = none) :
    (syncCancelledTasks now tasks targets).get targetId = none := by
  induction tasks generalizing targets with
  | nil => exact missing
  | cons first rest induction =>
      apply induction
      rw [get_syncCancelled, missing, Option.map_none]

/-- A Target changes if it is active and belongs to one of the tasks. -/
theorem changed_syncCancelledTasks_iff
    {now : Time} {tasks : List (Nat × TaskRow)} {targets : Table TargetRow}
    {targetId : Nat} :
    (syncCancelledTasks now tasks targets).get targetId ≠
        targets.get targetId ↔
      ∃ entry ∈ tasks, OnTarget entry.2 targetId ∧
        ∃ row, targets.get targetId = some row ∧
          row.status ∈ activeStatuses := by
  constructor
  · intro changed
    cases found : targets.get targetId with
    | none =>
        rw [found] at changed
        exact absurd (get_syncCancelledTasks_of_missing found) changed
    | some row =>
        by_contra none
        rw [found] at changed
        apply changed
        apply get_syncCancelledTasks_of_kept found
        intro entry member onTarget isActive
        exact none ⟨entry, member, onTarget, row, rfl, isActive⟩
  · rintro ⟨entry, member, onTarget, row, found, isActive⟩ same
    rcases @failed_of_syncCancelledTasks now _ _ _ _ _ member onTarget found
      isActive with ⟨after, isAfter, isFailed⟩
    rw [same, found] at isAfter
    cases isAfter
    rw [isFailed] at isActive
    revert isActive
    decide

/-! ## The tasks of a request -/

/-- The task, and the waiting tasks which depend on it. -/
def Reached (tasks : Table TaskRow) (taskId : Nat) (now : Time)
    (key : Nat) : Prop :=
  key = taskId ∨ (dependents now).OpenDescendant tasks [taskId] key

/-- The task waits before the request and is cancelled after it. -/
structure CancelledBy (before after : Table TaskRow) (key : Nat)
    (task : TaskRow) : Prop where
  found : before.get key = some task
  waiting : isWaiting task.status = true
  cancelled : ∃ row, after.get key = some row ∧ row.status = .cancelled ∧
    row.targetRefType = task.targetRefType ∧
    row.targetRefId = task.targetRefId ∧ row.runId = task.runId

theorem requestCancel_of_finished
    {tasks : Table TaskRow} {taskId : Nat} {task : TaskRow} (now : Time)
    (found : tasks.get taskId = some task)
    (finished : isUnfinished task.status = false) :
    requestCancel tasks taskId now = (false, tasks) := by
  have same : tasks.updateWhere
      (fun key row => key == taskId && isUnfinished row.status)
      (requestCancelValues now) = tasks := by
    apply Table.updateWhere_eq_self
    intro key row isRow
    by_cases isTask : key = taskId
    · rw [isTask, found] at isRow
      cases isRow
      simp [finished]
    · simp [isTask]
  simp [requestCancel, same, found, finished]

theorem requestCancel_of_running
    {tasks : Table TaskRow} {taskId : Nat} {task : TaskRow} (now : Time)
    (found : tasks.get taskId = some task)
    (running : task.status = .running) :
    (requestCancel tasks taskId now).1 = true ∧
      ∃ row, (requestCancel tasks taskId now).2.get taskId = some row ∧
        row.status = .running := by
  have values : requestCancelValues now task =
      { task with cancelRequested := true } := by
    rw [requestCancelValues, if_pos running]
  simp [requestCancel, found, running, isUnfinished, values,
    Table.get_updateWhere]

/-- The rows after the first update of `request_cancel`. -/
theorem get_requested
    {tasks : Table TaskRow} {taskId : Nat} {task : TaskRow} (now : Time)
    (found : tasks.get taskId = some task)
    (waiting : isWaiting task.status = true) (key : Nat) :
    (tasks.updateWhere
        (fun key row => key == taskId && isUnfinished row.status)
        (requestCancelValues now)).get key =
      if key = taskId then some (requestCancelValues now task)
      else tasks.get key := by
  rw [Table.get_updateWhere]
  by_cases same : key = taskId
  · rw [if_pos same, same, found]
    simp [unfinished_of_waiting waiting]
  · rw [if_neg same]
    cases tasks.get key with
    | none => rfl
    | some row => simp [same]

theorem not_running_of_waiting {status : TaskStatus}
    (waiting : isWaiting status = true) : status ≠ .running := by
  rintro rfl
  cases waiting

theorem status_requestCancelValues
    {task : TaskRow} (now : Time) (waiting : isWaiting task.status = true) :
    (requestCancelValues now task).status = .cancelled := by
  rw [requestCancelValues, if_neg (not_running_of_waiting waiting)]

section Waiting

variable {tasks updated : Table TaskRow} {taskId : Nat} {task row : TaskRow}
  {now : Time}

/-- The chains below the task are those of the table before the update. -/
theorem openDescendant_iff_of_requested
    (isUpdated : ∀ key, updated.get key =
      if key = taskId then some row else tasks.get key)
    (closed : isWaiting row.status = false) (key : Nat) :
    (dependents now).OpenDescendant updated [taskId] key ↔
      key ≠ taskId ∧
        (dependents now).OpenDescendant tasks [taskId] key := by
  constructor
  · intro descendant
    have isOther : ∀ {key : Nat} {other : TaskRow},
        updated.get key = some other → isWaiting other.status = true →
          key ≠ taskId ∧ tasks.get key = some other := by
      intro key other found isOpen
      rw [isUpdated] at found
      split at found
      · cases found
        rw [closed] at isOpen
        cases isOpen
      · next differs => exact ⟨differs, found⟩
    induction descendant with
    | child found isOpen named inFrontier =>
        have before := isOther found isOpen
        exact ⟨before.1, .child before.2 isOpen named inFrontier⟩
    | step found isOpen named _ induction =>
        have before := isOther found isOpen
        exact ⟨before.1, .step before.2 isOpen named induction.2⟩
  · rintro ⟨differs, descendant⟩
    induction descendant with
    | @child key parent other found isOpen named inFrontier =>
        have after : updated.get key = some other := by
          rw [isUpdated, if_neg differs, found]
        exact .child after isOpen named inFrontier
    | @step key parent other found isOpen named _ induction =>
        have after : updated.get key = some other := by
          rw [isUpdated, if_neg differs, found]
        by_cases isRoot : parent = taskId
        · exact .child after isOpen named (List.mem_singleton.mpr isRoot)
        · exact .step after isOpen named (induction isRoot)

variable (found : tasks.get taskId = some task)
  (waiting : isWaiting task.status = true)

include found waiting

theorem requestCancel_of_waiting :
    requestCancel tasks taskId now =
      (true, (cancelDescendants (tasks.updateWhere
        (fun key row => key == taskId && isUnfinished row.status)
        (requestCancelValues now)) taskId now).2) := by
  simp only [requestCancel, found, Option.filter_some,
    unfinished_of_waiting waiting, if_true, Option.map_some,
    status_requestCancelValues now waiting]

/-- A request cancels the waiting task and those below it. -/
theorem cancelledBy_of_reached {key : Nat} {other : TaskRow}
    (reached : Reached tasks taskId now key)
    (isOther : tasks.get key = some other) :
    CancelledBy tasks (requestCancel tasks taskId now).2 key other := by
  classical
  have requested := get_requested now found waiting
  have closed : isWaiting (requestCancelValues now task).status =
      false := by
    rw [status_requestCancelValues now waiting]
    rfl
  rw [requestCancel_of_waiting found waiting]
  by_cases isRoot : key = taskId
  · subst isRoot
    rw [found] at isOther
    cases isOther
    apply CancelledBy.mk found waiting
    refine ⟨requestCancelValues now task, ?_,
      status_requestCancelValues now waiting, ?_, ?_, ?_⟩
    · rw [get_cancelDescendants, requested, if_pos rfl, Option.map_some,
        if_neg]
      rw [openDescendant_iff_of_requested requested closed]
      exact fun descendant => descendant.1 rfl
    · rw [requestCancelValues, if_neg (not_running_of_waiting waiting)]
    · rw [requestCancelValues, if_neg (not_running_of_waiting waiting)]
    · rw [requestCancelValues, if_neg (not_running_of_waiting waiting)]
  · have descendant := reached.resolve_left isRoot
    rcases descendant.isOpen with ⟨row, isRow, isOpen⟩
    rw [isOther] at isRow
    cases isRow
    refine ⟨isOther, isOpen, closeValues now other, ?_, rfl, rfl, rfl, rfl⟩
    rw [get_cancelDescendants, requested, if_neg isRoot, isOther,
      Option.map_some, if_pos]
    exact (openDescendant_iff_of_requested requested closed key).mpr
      ⟨isRoot, descendant⟩

theorem get_requestCancel_of_not_reached {key : Nat}
    (outside : ¬ Reached tasks taskId now key) :
    (requestCancel tasks taskId now).2.get key = tasks.get key := by
  classical
  have requested := get_requested now found waiting
  have closed : isWaiting (requestCancelValues now task).status =
      false := by
    rw [status_requestCancelValues now waiting]
    rfl
  have other : key ≠ taskId := fun isRoot => outside (Or.inl isRoot)
  rw [requestCancel_of_waiting found waiting, get_cancelDescendants,
    requested, if_neg other]
  have notBelow : ¬ (dependents now).OpenDescendant (tasks.updateWhere
      (fun key row => key == taskId && isUnfinished row.status)
      (requestCancelValues now)) [taskId] key := by
    rw [openDescendant_iff_of_requested requested closed]
    exact fun descendant => outside (Or.inr descendant.2)
  simp [notBelow]

end Waiting

/-! ## `task_cancel` -/

/-- The tasks whose Targets `task_cancel` looks at. -/
def sweptTasks (tasks : Table TaskRow) (taskId : Nat) (task : TaskRow)
    (runId : Option Nat) : List (Nat × TaskRow) :=
  (taskId, task) ::
    match runId with
    | none => []
    | some runId => cancelledTasks tasks runId

theorem mem_sweptTasks_iff
    {tasks : Table TaskRow} {taskId : Nat} {task : TaskRow}
    {runId : Option Nat} {key : Nat} {other : TaskRow} :
    (key, other) ∈ sweptTasks tasks taskId task runId ↔
      key = taskId ∧ other = task ∨
        ∃ run, runId = some run ∧ tasks.get key = some other ∧
          other.runId = some run ∧ other.status = .cancelled := by
  cases runId with
  | none => simp [sweptTasks]
  | some run => simp [sweptTasks, cancelledTasks, Table.mem_select_iff]

theorem taskCancel_of_cancelled
    {db : Database} {taskId : Nat} {now : Time} {task row : TaskRow}
    (found : db.task.get taskId = some task)
    (isRow : (requestCancel db.task taskId now).2.get taskId = some row)
    (cancelled : row.status = .cancelled) :
    taskCancel db taskId now = some { db with
      task := (requestCancel db.task taskId now).2
      target := syncCancelledTasks now
        (sweptTasks (requestCancel db.task taskId now).2 taskId row
          task.runId) db.target } := by
  simp only [taskCancel, found, Option.map_some, isRow, cancelled, if_true]
  cases task.runId <;> rfl

theorem taskCancel_of_not_cancelled
    {db : Database} {taskId : Nat} {now : Time} {task row : TaskRow}
    (found : db.task.get taskId = some task)
    (isRow : (requestCancel db.task taskId now).2.get taskId = some row)
    (notCancelled : row.status ≠ .cancelled) :
    taskCancel db taskId now =
      some { db with task := (requestCancel db.task taskId now).2 } := by
  simp only [taskCancel, found, Option.map_some, isRow, notCancelled,
    if_false]

/-- A rejected cancel changes nothing, and an accepted one no other Target. -/
structure KeepsTargets (db after : Database) (taskId : Nat) (now : Time) :
    Prop where
  rejected : (requestCancel db.task taskId now).1 = false → after = db
  accepted : (requestCancel db.task taskId now).1 = true →
    ∀ targetId, after.target.get targetId ≠ db.target.get targetId →
      ∃ key task, CancelledBy db.task after.task key task ∧
        OnTarget task targetId

/-- The task, or another task of its Run, was cancelled before for a Target. -/
structure CancelledBefore (db : Database) (taskId : Nat) (task : TaskRow)
    (targetId : Nat) : Prop where
  looksAt : task.status = .cancelled ∨ isWaiting task.status = true
  earlier : ∃ key earlier, db.task.get key = some earlier ∧
    earlier.status = .cancelled ∧ OnTarget earlier targetId ∧
    (key = taskId ∨
      ∃ runId, task.runId = some runId ∧ earlier.runId = some runId)

/-- An active Target of an earlier cancel is one of those to be cancelled. -/
def NoneRevived (db : Database) (taskId : Nat) (now : Time) : Prop :=
  ∀ task targetId target, db.task.get taskId = some task →
    CancelledBefore db taskId task targetId →
    db.target.get targetId = some target →
    target.status ∈ activeStatuses →
      isWaiting task.status = true ∧
        ∃ key other, Reached db.task taskId now key ∧
          db.task.get key = some other ∧ OnTarget other targetId

/-- The cancel of a task which is cancelled already is rejected. -/
theorem keepsTargets_iff_of_cancelled
    {db after : Database} {taskId : Nat} {now : Time} {task : TaskRow}
    (found : db.task.get taskId = some task)
    (cancelled : task.status = .cancelled)
    (cancels : taskCancel db taskId now = some after) :
    KeepsTargets db after taskId now ↔ NoneRevived db taskId now := by
  have finished : isUnfinished task.status = false := by
    rw [cancelled]
    rfl
  have notWaiting : isWaiting task.status ≠ true := by
    rw [cancelled]
    exact Bool.false_ne_true
  have refused := requestCancel_of_finished now found finished
  have same : (requestCancel db.task taskId now).2.get taskId =
      some task := by
    rw [refused, found]
  rw [taskCancel_of_cancelled found same cancelled, refused] at cancels
  cases cancels
  constructor
  · rintro keeps other targetId target isTask before isTarget isActive
    rw [found] at isTask
    cases isTask
    have unchanged := keeps.rejected (by rw [refused])
    rcases before.earlier with
      ⟨key, earlier, isEarlier, isCancelled, onTarget, related⟩
    have member : (key, earlier) ∈ sweptTasks db.task taskId task
        task.runId := by
      rw [mem_sweptTasks_iff]
      rcases related with rfl | ⟨runId, isRun, sameRun⟩
      · rw [found] at isEarlier
        cases isEarlier
        exact Or.inl ⟨rfl, rfl⟩
      · exact Or.inr ⟨runId, isRun, isEarlier, sameRun, isCancelled⟩
    have changed := (@changed_syncCancelledTasks_iff now _ _ targetId).mpr
      ⟨(key, earlier), member, onTarget, target, isTarget, isActive⟩
    have sameTargets := congrArg Database.target unchanged
    exact absurd (congrArg (·.get targetId) sameTargets) changed
  · intro none
    constructor
    · intro _
      have unchanged : syncCancelledTasks now
          (sweptTasks db.task taskId task task.runId) db.target =
          db.target := by
        apply Table.ext_get
        intro targetId
        by_contra changed
        rcases changed_syncCancelledTasks_iff.mp changed with
          ⟨⟨key, earlier⟩, member, onTarget, target, isTarget, isActive⟩
        have before : CancelledBefore db taskId task targetId := by
          apply CancelledBefore.mk (Or.inl cancelled)
          rcases mem_sweptTasks_iff.mp member with
            ⟨rfl, rfl⟩ | ⟨runId, isRun, isEarlier, sameRun, isCancelled⟩
          · exact ⟨key, earlier, found, cancelled, onTarget, Or.inl rfl⟩
          · exact ⟨key, earlier, isEarlier, isCancelled, onTarget,
              Or.inr ⟨runId, isRun, sameRun⟩⟩
        exact notWaiting
          (none task targetId target found before isTarget isActive).1
      rw [unchanged]
    · intro impossible
      rw [refused] at impossible
      cases impossible

theorem reached_of_cancelledBy
    {tasks : Table TaskRow} {taskId key : Nat} {task other : TaskRow}
    {now : Time} (found : tasks.get taskId = some task)
    (waiting : isWaiting task.status = true)
    (cancelled : CancelledBy tasks (requestCancel tasks taskId now).2 key
      other) :
    Reached tasks taskId now key := by
  by_contra outside
  rcases cancelled.cancelled with ⟨row, isRow, isCancelled, _⟩
  rw [get_requestCancel_of_not_reached found waiting outside,
    cancelled.found] at isRow
  cases isRow
  have stillWaits := cancelled.waiting
  rw [isCancelled] at stillWaits
  cases stillWaits

/-- A reached task has a row, and its row waits. -/
theorem get_of_reached
    {tasks : Table TaskRow} {taskId key : Nat} {task : TaskRow} {now : Time}
    (found : tasks.get taskId = some task)
    (waiting : isWaiting task.status = true)
    (reached : Reached tasks taskId now key) :
    ∃ row, tasks.get key = some row ∧ isWaiting row.status = true := by
  rcases reached with rfl | descendant
  · exact ⟨task, found, waiting⟩
  · exact descendant.isOpen

/-- The cancel of a waiting task is accepted. -/
theorem keepsTargets_iff_of_waiting
    {db after : Database} {taskId : Nat} {now : Time} {task : TaskRow}
    (found : db.task.get taskId = some task)
    (waiting : isWaiting task.status = true)
    (cancels : taskCancel db taskId now = some after) :
    KeepsTargets db after taskId now ↔ NoneRevived db taskId now := by
  have accepted : (requestCancel db.task taskId now).1 = true := by
    rw [requestCancel_of_waiting found waiting]
  have root := cancelledBy_of_reached found waiting
    (Or.inl rfl : Reached db.task taskId now taskId) found
  rcases root.cancelled with ⟨row, isRow, isCancelled, sameType, sameRef, _⟩
  rw [taskCancel_of_cancelled found isRow isCancelled] at cancels
  cases cancels
  constructor
  · rintro keeps other targetId target isTask before isTarget isActive
    rw [found] at isTask
    cases isTask
    apply And.intro waiting
    rcases before.earlier with
      ⟨key, earlier, isEarlier, wasCancelled, onTarget, related⟩
    have outside : ¬ Reached db.task taskId now key := by
      intro reached
      rcases get_of_reached found waiting reached with ⟨old, isOld, waits⟩
      rw [isEarlier] at isOld
      cases isOld
      rw [wasCancelled] at waits
      cases waits
    have isSwept : (key, earlier) ∈
        sweptTasks (requestCancel db.task taskId now).2 taskId row
          task.runId := by
      rw [mem_sweptTasks_iff]
      rcases related with rfl | ⟨runId, isRun, sameRun⟩
      · exact absurd (Or.inl rfl) outside
      · right
        rw [get_requestCancel_of_not_reached found waiting outside]
        exact ⟨runId, isRun, isEarlier, sameRun, wasCancelled⟩
    have changed := (@changed_syncCancelledTasks_iff now _ _ targetId).mpr
      ⟨(key, earlier), isSwept, onTarget, target, isTarget, isActive⟩
    rcases keeps.accepted accepted targetId changed with
      ⟨key', other, cancelledNow, onTarget'⟩
    exact ⟨key', other, reached_of_cancelledBy found waiting cancelledNow,
      cancelledNow.found, onTarget'⟩
  · intro none
    constructor
    · intro refused
      rw [accepted] at refused
      cases refused
    · intro _ targetId changed
      rcases changed_syncCancelledTasks_iff.mp changed with
        ⟨⟨key, swept⟩, member, onTarget, target, isTarget, isActive⟩
      by_cases reached : Reached db.task taskId now key
      · rcases get_of_reached found waiting reached with ⟨old, isOld, _⟩
        have cancelledNow := cancelledBy_of_reached found waiting reached
          isOld
        refine ⟨key, old, cancelledNow, ?_⟩
        rcases cancelledNow.cancelled with
          ⟨new, isNew, _, newType, newRef, _⟩
        have sameRow : swept = new := by
          rcases mem_sweptTasks_iff.mp member with
            ⟨rfl, rfl⟩ | ⟨_, _, isSwept, _⟩
          · exact Option.some.inj (isRow.symm.trans isNew)
          · exact Option.some.inj (isSwept.symm.trans isNew)
        rw [OnTarget, sameRow, newType, newRef] at onTarget
        exact onTarget
      · rcases mem_sweptTasks_iff.mp member with
          ⟨rfl, rfl⟩ | ⟨runId, isRun, isSwept, sameRun, wasCancelled⟩
        · exact absurd (Or.inl rfl) reached
        · rw [get_requestCancel_of_not_reached found waiting
            reached] at isSwept
          have before : CancelledBefore db taskId task targetId :=
            ⟨Or.inr waiting, key, swept, isSwept, wasCancelled, onTarget,
              Or.inr ⟨runId, isRun, sameRun⟩⟩
          rcases (none task targetId target found before isTarget
            isActive).2 with ⟨key', other, reached', isOther, onTarget'⟩
          exact ⟨key', other, cancelledBy_of_reached found waiting reached'
            isOther, onTarget'⟩

theorem noneRevived_of_other
    {db : Database} {taskId : Nat} {now : Time} {task : TaskRow}
    (found : db.task.get taskId = some task)
    (notCancelled : task.status ≠ .cancelled)
    (notWaiting : isWaiting task.status = false) :
    NoneRevived db taskId now := by
  intro other targetId target isTask before
  rw [found] at isTask
  cases isTask
  rcases before.looksAt with isCancelled | waits
  · exact absurd isCancelled notCancelled
  · rw [notWaiting] at waits
    cases waits

/-- A cancel keeps the other Targets if and only if it revives no old one. -/
theorem task_cancel_keeps_targets_iff
    {db after : Database} {taskId : Nat} {now : Time}
    (cancels : taskCancel db taskId now = some after) :
    KeepsTargets db after taskId now ↔ NoneRevived db taskId now := by
  rcases Option.map_eq_some_iff.mp cancels with ⟨task, found, _⟩
  cases waits : isWaiting task.status with
  | true => exact keepsTargets_iff_of_waiting found waits cancels
  | false =>
      by_cases isCancelled : task.status = .cancelled
      · exact keepsTargets_iff_of_cancelled found isCancelled cancels
      · apply iff_of_true _ (noneRevived_of_other found isCancelled waits)
        by_cases running : task.status = .running
        · rcases requestCancel_of_running now found running with
            ⟨accepted, row, isRow, stillRuns⟩
          rw [taskCancel_of_not_cancelled found isRow (by
            rw [stillRuns]
            decide)] at cancels
          cases cancels
          constructor
          · intro refused
            rw [accepted] at refused
            cases refused
          · exact fun _ _ changed => absurd rfl changed
        · have finished : isUnfinished task.status = false := by
            cases isUnfinished' : isUnfinished task.status with
            | false => rfl
            | true =>
                rw [waiting_of_unfinished isUnfinished' running] at waits
                cases waits
          have refused := requestCancel_of_finished now found finished
          have same : (requestCancel db.task taskId now).2.get taskId =
              some task := by
            rw [refused, found]
          rw [taskCancel_of_not_cancelled found same isCancelled,
            refused] at cancels
          cases cancels
          constructor
          · exact fun _ => rfl
          · intro accepted
            rw [refused] at accepted
            cases accepted

/-- Task 1 was cancelled, and task 2 is a newer pipeline of its Target. -/
def requeuedTarget : Database where
  target := Table.empty.insert
    { itemId := 1, playlistProfileId := 1, status := .queued }
  task := (Table.empty.insert
    { type := .download, targetRefType := "target", targetRefId := 1,
      workerClass := .network, status := .cancelled }).insert
    { type := .download, targetRefType := "target", targetRefId := 1,
      workerClass := .network, status := .queued }

/-- The newer pipeline is cancelled, and its Target with it. -/
theorem task_cancel_keeps_targets_newer :
    taskCancel requeuedTarget 2 9 =
        some ((taskCancel requeuedTarget 2 9).getD {}) ∧
      KeepsTargets requeuedTarget ((taskCancel requeuedTarget 2 9).getD {})
        2 9 := by
  have cancels : taskCancel requeuedTarget 2 9 =
      some ((taskCancel requeuedTarget 2 9).getD {}) := by rfl
  apply And.intro cancels
  rw [task_cancel_keeps_targets_iff cancels]
  intro task targetId target isTask before _ _
  cases isTask
  rcases before.earlier with
    ⟨key, earlier, isEarlier, wasCancelled, _, rfl | ⟨runId, isRun, _⟩⟩
  · cases isEarlier
    cases wasCancelled
  · cases isRun

/-- The second request for task 1 is rejected, and its Target has failed. -/
theorem not_keepsTargets_requeued :
    (requestCancel requeuedTarget.task 1 9).1 = false ∧
      ¬ ∀ after, taskCancel requeuedTarget 1 9 = some after →
        KeepsTargets requeuedTarget after 1 9 := by
  have rejected : (requestCancel requeuedTarget.task 1 9).1 = false := by
    rfl
  apply And.intro rejected
  intro keeps
  have unchanged := (keeps _ rfl).rejected rejected
  have statuses := congrArg
    (fun db => (db.target.get 1).map TargetRow.status) unchanged
  revert statuses
  decide

end Sluicery.Web
