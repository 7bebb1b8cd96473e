import Sluicery.Db.TaskRepository
import Sluicery.Library.Rewrite

/-!
# What the statements of `TaskRepository` do to a row

Every `UPDATE` of the repository is one of the changes below.  `changes`
gives each the condition on the row under which the statement makes it, so an
invariant of task rows is one case analysis over `Change` instead of one over
the repository.  The lemmas about `updateOwned` and `cancelDescendants` are
what the methods are made of.
-/

namespace Sluicery.Db.TaskRepository

open Sluicery.Library

theorem unfinished_of_waiting {status : TaskStatus}
    (waiting : isWaiting status = true) : isUnfinished status = true := by
  revert waiting
  cases status <;> simp [isWaiting, isUnfinished]

theorem waiting_of_unfinished {status : TaskStatus}
    (unfinished : isUnfinished status = true)
    (notRunning : status ≠ .running) : isWaiting status = true := by
  revert unfinished notRunning
  cases status <;> simp [isWaiting, isUnfinished]

/-- The `UPDATE` statements. -/
inductive Change where
  | claim (workerId : String) (claimedAt : Time)
  | heartbeat (now : Time)
  | payload (fields : Json.Fields)
  | finish (status : TaskStatus) (now : Time) (errorMessage : Option String)
  | failForRetry (failedAt retryDelay : Time) (errorMessage : Option String)
  | block (blockedAt retryAfter : Time) (reason : Option String)
  | release (now : Time)
  | requestCancel (requestedAt : Time)
  | cancelRunWaiting (requestedAt : Time)
  | flag
  | close (cancelledAt : Time)
  | recover (recoveredAt : Time)
  | manualRetry (now : Time)

namespace Change

/-- The rows a statement matches, as far as one row decides it. -/
def enabled : Change → TaskRow → Prop
  | .claim .., row =>
      isWaiting row.status = true ∧ row.cancelRequested = false
  | .payload _, _ => True
  | .finish status .., row =>
      row.status = .running ∧ isUnfinished status = false
  | .requestCancel _, row => isUnfinished row.status = true
  | .cancelRunWaiting _, row => isWaiting row.status = true
  | .close _, row => isWaiting row.status = true
  | .manualRetry _, row => row.status ≠ .running
  | _, row => row.status = .running

/-- The values a statement writes. -/
def values : Change → TaskRow → TaskRow
  | .claim workerId claimedAt => claimValues workerId claimedAt
  | .heartbeat now => heartbeatValues now
  | .payload fields => payloadValues fields
  | .finish status now errorMessage => finishValues status now errorMessage
  | .failForRetry failedAt retryDelay errorMessage =>
      retryValues failedAt retryDelay errorMessage
  | .block blockedAt retryAfter reason =>
      blockValues blockedAt retryAfter reason
  | .release now => releaseValues now
  | .requestCancel requestedAt => requestCancelValues requestedAt
  | .cancelRunWaiting requestedAt => cancelRunWaitingValues requestedAt
  | .flag => flagValues
  | .close cancelledAt => closeValues cancelledAt
  | .recover recoveredAt => recoverValues recoveredAt
  | .manualRetry now => manualRetryValues now

end Change

/-- The statements of the repository. -/
def changes : Updates TaskRow Change where
  enabled := Change.enabled
  values := Change.values

/-! ## Which change leads to a status -/

/-- Only a claim makes a row running; the others keep it and its owner. -/
theorem Change.running_values
    {change : Change} {row : TaskRow} (enabled : change.enabled row)
    (running : (change.values row).status = .running) :
    (∃ workerId claimedAt, change = .claim workerId claimedAt) ∨
      (row.status = .running ∧
        (change.values row).workerId = row.workerId) := by
  cases change with
  | claim workerId claimedAt => exact Or.inl ⟨_, _, rfl⟩
  | heartbeat now => exact Or.inr ⟨enabled, rfl⟩
  | payload fields => exact Or.inr ⟨running, rfl⟩
  | flag => exact Or.inr ⟨enabled, rfl⟩
  | finish status now errorMessage =>
      have finished := enabled.2
      simp only [values, finishValues] at running
      simp [running, isUnfinished] at finished
  | failForRetry failedAt retryDelay errorMessage =>
      simp only [values, retryValues] at running
      split at running
      · cases running
      · split at running <;> cases running
  | block blockedAt retryAfter reason =>
      simp only [values, blockValues] at running
      split at running <;> cases running
  | recover recoveredAt =>
      simp only [values, recoverValues] at running
      split at running <;> cases running
  | requestCancel requestedAt =>
      by_cases isRunning : row.status = .running
      · exact Or.inr ⟨isRunning, by
          simp [values, requestCancelValues, isRunning]⟩
      · simp [values, requestCancelValues, isRunning] at running
  | release | cancelRunWaiting | close | manualRetry => cases running

/-- Only a running task becomes succeeded, when it is settled so. -/
theorem Change.succeeded_values
    {change : Change} {row : TaskRow} (enabled : change.enabled row)
    (succeeded : (change.values row).status = .succeeded) :
    row.status = .succeeded ∨
      (row.status = .running ∧
        ∃ now errorMessage, change = .finish .succeeded now errorMessage) := by
  cases change with
  | payload fields => exact Or.inl succeeded
  | heartbeat | flag => exact Or.inl succeeded
  | finish status now errorMessage =>
      obtain rfl : status = .succeeded := succeeded
      exact Or.inr ⟨enabled.1, _, _, rfl⟩
  | failForRetry failedAt retryDelay errorMessage =>
      simp only [values, retryValues] at succeeded
      split at succeeded
      · cases succeeded
      · split at succeeded <;> cases succeeded
  | block blockedAt retryAfter reason =>
      simp only [values, blockValues] at succeeded
      split at succeeded <;> cases succeeded
  | recover recoveredAt =>
      simp only [values, recoverValues] at succeeded
      split at succeeded <;> cases succeeded
  | requestCancel requestedAt =>
      by_cases isRunning : row.status = .running <;>
        simp [values, requestCancelValues, isRunning] at succeeded
  | claim | release | cancelRunWaiting | close | manualRetry =>
      cases succeeded

/-- A succeeded task stays succeeded without a manual retry. -/
theorem Change.values_of_succeeded
    {change : Change} {row : TaskRow} (enabled : change.enabled row)
    (notRetry : ∀ now, change ≠ .manualRetry now)
    (succeeded : row.status = .succeeded) :
    (change.values row).status = .succeeded := by
  cases change with
  | payload fields => exact succeeded
  | manualRetry now => exact absurd rfl (notRetry now)
  | _ => simp [succeeded, Change.enabled, isWaiting, isUnfinished]
      at enabled

/-- A finished task does not wait again without a manual retry. -/
theorem Change.waiting_values
    {change : Change} {row : TaskRow} (enabled : change.enabled row)
    (notRetry : ∀ now, change ≠ .manualRetry now)
    (waiting : isWaiting (change.values row).status = true) :
    isUnfinished row.status = true := by
  cases change with
  | payload fields =>
      revert waiting
      simp only [values, payloadValues]
      cases row.status <;> simp [isWaiting, isUnfinished]
  | requestCancel requestedAt => exact enabled
  | manualRetry now => exact absurd rfl (notRetry now)
  | cancelRunWaiting | close =>
      revert enabled
      simp only [Change.enabled]
      cases row.status <;> simp [isWaiting, isUnfinished]
  | claim =>
      have isWaitingRow := enabled.1
      revert isWaitingRow
      cases row.status <;> simp [isWaiting, isUnfinished]
  | finish =>
      rw [enabled.1]
      rfl
  | _ =>
      simp only [Change.enabled] at enabled
      rw [enabled]
      rfl

/-- An ended task is not unfinished again without a manual retry. -/
theorem Change.unfinished_values
    {change : Change} {row : TaskRow} (enabled : change.enabled row)
    (notRetry : ∀ now, change ≠ .manualRetry now)
    (unfinished : isUnfinished (change.values row).status = true) :
    isUnfinished row.status = true := by
  cases change with
  | payload fields => exact unfinished
  | requestCancel requestedAt => exact enabled
  | manualRetry now => exact absurd rfl (notRetry now)
  | cancelRunWaiting | close => cases unfinished
  | claim =>
      have isWaitingRow := enabled.1
      revert isWaitingRow
      cases row.status <;> simp [isWaiting, isUnfinished]
  | finish =>
      rw [enabled.1]
      rfl
  | _ =>
      simp only [Change.enabled] at enabled
      rw [enabled]
      rfl

/-! ## Columns no statement writes -/

/-- The columns an enqueued task keeps for ever. -/
def fixedColumns (row : TaskRow) :
    TaskType × String × Nat × WorkerClass × Int × Option Nat × Nat ×
      Option Time × Option Nat :=
  (row.type, row.targetRefType, row.targetRefId, row.workerClass,
    row.priority, row.dependsOnTaskId, row.maxAttempts, row.scheduledAt,
    row.runId)

theorem fixedColumns_values (change : Change) (row : TaskRow) :
    fixedColumns (changes.values change row) = fixedColumns row := by
  cases change with
  | requestCancel requestedAt =>
      by_cases running : row.status = .running <;>
        simp [changes, Change.values, requestCancelValues, fixedColumns,
          running]
  | _ => rfl

theorem fixedColumns_of_chain
    {allowed : Change → TaskRow → Prop} {old new : TaskRow}
    (chain : changes.Chain allowed old new) :
    fixedColumns new = fixedColumns old :=
  chain.same fixedColumns fun change row _ _ => fixedColumns_values change row

/-! ## The dependency relation -/

/-- The child waits for the parent. -/
def DependsOn (tasks : Table TaskRow) (child parent : Nat) : Prop :=
  ∃ row, tasks.get child = some row ∧ row.dependsOnTaskId = some parent

theorem dependsOn_of_fixedColumns
    {before after : Table TaskRow} {child parent : Nat}
    (same : ∀ row, before.get child = some row →
      ∃ row', after.get child = some row' ∧
        fixedColumns row' = fixedColumns row)
    (dependsOn : DependsOn before child parent) :
    DependsOn after child parent := by
  obtain ⟨row, found, named⟩ := dependsOn
  obtain ⟨row', found', equal⟩ := same row found
  simp only [fixedColumns, Prod.mk.injEq] at equal
  exact ⟨row', found', by rw [equal.2.2.2.2.2.1, named]⟩

/-- No statement changes the dependency relation. -/
theorem dependsOn_iff_of_rewrites
    {allowed : Nat → Change → TaskRow → Prop}
    {before after : Table TaskRow}
    (rewrites : changes.Rewrites allowed before after)
    (child parent : Nat) :
    DependsOn after child parent ↔ DependsOn before child parent := by
  constructor
  · apply dependsOn_of_fixedColumns
    intro row' found'
    obtain ⟨row, found, chain⟩ := rewrites.origin found'
    exact ⟨row, found, (fixedColumns_of_chain chain).symm⟩
  · apply dependsOn_of_fixedColumns
    intro row found
    obtain ⟨row', found', chain⟩ := rewrites.found found
    exact ⟨row', found', fixedColumns_of_chain chain⟩

/-- The child waits for the parent, directly or through other tasks. -/
abbrev DependsOnTransitively (tasks : Table TaskRow) : Nat → Nat → Prop :=
  Relation.TransGen (DependsOn tasks)

theorem dependsOnTransitively_iff_of_rewrites
    {allowed : Nat → Change → TaskRow → Prop}
    {before after : Table TaskRow}
    (rewrites : changes.Rewrites allowed before after)
    (child parent : Nat) :
    DependsOnTransitively after child parent ↔
      DependsOnTransitively before child parent := by
  have same : DependsOn after = DependsOn before := by
    funext child parent
    exact propext (dependsOn_iff_of_rewrites rewrites child parent)
  unfold DependsOnTransitively
  rw [same]

/-! ## Updates guarded by ownership -/

theorem ownedBy_eq_true_iff
    (taskId : Nat) (workerId : String) (key : Nat) (row : TaskRow) :
    ownedBy taskId workerId key row = true ↔
      key = taskId ∧ row.status = .running ∧ row.workerId = some workerId := by
  simp [ownedBy, and_assoc]

/-- A caller who does not own the task changes nothing. -/
theorem updateOwned_of_not_owned
    {tasks : Table TaskRow} {taskId : Nat} {workerId : String}
    (values : TaskRow → TaskRow)
    (notOwned : ∀ row, tasks.get taskId = some row →
      ownedBy taskId workerId taskId row = false) :
    updateOwned tasks taskId workerId values = (none, tasks) := by
  refine Prod.ext ?_ ?_
  · cases found : tasks.get taskId with
    | none => simp [updateOwned, found]
    | some row => simp [updateOwned, found, notOwned row found]
  · refine Table.updateWhere_eq_self values fun key row found => ?_
    by_cases same : key = taskId
    · subst same
      exact notOwned row found
    · simp [ownedBy, same]

/-- The owner of the task writes this row and no other. -/
theorem updateOwned_of_owned
    {tasks : Table TaskRow} {taskId : Nat} {workerId : String}
    {row : TaskRow} (values : TaskRow → TaskRow)
    (found : tasks.get taskId = some row)
    (owned : ownedBy taskId workerId taskId row = true) :
    updateOwned tasks taskId workerId values =
      (some (values row), tasks.modify taskId values) := by
  refine Prod.ext ?_ ?_
  · simp [updateOwned, found, owned]
  · apply Table.ext_get
    intro key
    rw [updateOwned, Table.get_updateWhere, Table.get_modify]
    by_cases same : key = taskId
    · subst same
      simp [found, owned]
    · simp [ownedBy, same]

theorem rewrites_updateOwned
    {allowed : Nat → Change → TaskRow → Prop}
    {tasks : Table TaskRow} {taskId : Nat} {workerId : String}
    {values : TaskRow → TaskRow}
    (permitted : ∀ row, tasks.get taskId = some row →
      row.status = .running → row.workerId = some workerId →
        changes.Step (allowed taskId) row (values row)) :
    changes.Rewrites allowed tasks
      (updateOwned tasks taskId workerId values).2 := by
  refine Updates.Rewrites.of_updateWhere fun key row found owned => ?_
  obtain ⟨rfl, running, isOwner⟩ :=
    (ownedBy_eq_true_iff taskId workerId key row).mp owned
  exact permitted row found running isOwner

/-! ## Closing descendants -/

/-- What a chain of waiting rows leads to is a transitive dependency. -/
theorem dependsOnTransitively_of_openDescendant
    {tasks : Table TaskRow} {cancelledAt : Time} {root key : Nat}
    (descendant :
      (dependents cancelledAt).OpenDescendant tasks [root] key) :
    DependsOnTransitively tasks key root := by
  induction descendant with
  | child found _ named inFrontier =>
      rw [List.mem_singleton] at inFrontier
      subst inFrontier
      exact .single ⟨_, found, named⟩
  | step found _ named _ induction =>
      exact .head ⟨_, found, named⟩ induction

open scoped Classical in
/-- `cancel_descendants` closes exactly the chains of waiting rows. -/
theorem get_cancelDescendants
    (tasks : Table TaskRow) (root : Nat) (cancelledAt : Time) (key : Nat) :
    (cancelDescendants tasks root cancelledAt).2.get key =
      (tasks.get key).map fun row =>
        if (dependents cancelledAt).OpenDescendant tasks [root] key then
          closeValues cancelledAt row
        else row :=
  (dependents cancelledAt).get_close
    ((dependents cancelledAt).openCount_le_length tasks) key

/-- The permission to close what depends on a row. -/
def ClosesBelow (tasks : Table TaskRow) (root : Nat) (key : Nat)
    (change : Change) (_ : TaskRow) : Prop :=
  (∃ cancelledAt, change = .close cancelledAt) ∧
    DependsOnTransitively tasks key root

theorem rewrites_cancelDescendants
    (tasks : Table TaskRow) (root : Nat) (cancelledAt : Time) :
    changes.Rewrites (ClosesBelow tasks root) tasks
      (cancelDescendants tasks root cancelledAt).2 := by
  classical
  refine Updates.Rewrites.of_map _
    (get_cancelDescendants tasks root cancelledAt) ?_
  intro key row found
  by_cases descendant :
      (dependents cancelledAt).OpenDescendant tasks [root] key
  · refine Or.inr ?_
    rw [if_pos descendant]
    obtain ⟨row', found', isOpen⟩ := descendant.isOpen
    rw [found, Option.some.injEq] at found'
    subst found'
    exact ⟨.close cancelledAt, isOpen,
      ⟨⟨cancelledAt, rfl⟩,
        dependsOnTransitively_of_openDescendant descendant⟩, rfl⟩
  · exact Or.inl (if_neg descendant)

theorem rewrites_cancelAllDescendants
    (tasks : Table TaskRow) (cancelledAt : Time) (roots : List Nat) :
    changes.Rewrites
      (fun key change row =>
        ∃ root ∈ roots, ClosesBelow tasks root key change row)
      tasks (cancelAllDescendants tasks cancelledAt roots) := by
  induction roots generalizing tasks with
  | nil => exact .refl tasks
  | cons root rest induction =>
      have first := rewrites_cancelDescendants tasks root cancelledAt
      refine (first.weaken ?_).trans ((induction _).weaken ?_)
      · intro key change row closes
        exact ⟨root, List.mem_cons_self, closes⟩
      · rintro key change row ⟨other, member, isClose, below⟩
        exact ⟨other, List.mem_cons_of_mem _ member, isClose,
          (dependsOnTransitively_iff_of_rewrites first key other).mp below⟩

end Sluicery.Db.TaskRepository
