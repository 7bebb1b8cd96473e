import Sluicery.Tasks.Queue

/-!
# Waiting tasks can be claimed

A waiting task has no cancel request, and a blocking time exactly when it is
blocked, so nothing but its dependency, its times and the download slots
stands between it and a claim.  Every statement restores these columns on
its own, apart from stale recovery: it returns a running task to `PENDING`
and keeps the cancel request which arrived before.
-/

namespace Sluicery.Tasks.Queue

open Sluicery.Library Sluicery.Library.Transition
open Sluicery.Db Sluicery.Db.TaskRepository

/-- The columns which stale recovery and the settlements have to restore. -/
structure Claimable (row : TaskRow) : Prop where
  noCancel (waiting : isWaiting row.status = true) :
    row.cancelRequested = false
  blockedUntil (waiting : isWaiting row.status = true) :
    row.blockedUntil.isSome = true ↔ row.status = .blocked
  running (running : row.status = .running) : row.blockedUntil = none

theorem Claimable.of_fresh {row : TaskRow} (fresh : Fresh row) :
    Claimable row where
  noCancel _ := fresh.cancelRequested
  blockedUntil _ := by simp [fresh.blockedUntil, fresh.status]
  running _ := fresh.blockedUntil

/-- A row which does not wait and does not run has nothing to restore. -/
theorem Claimable.of_finished {row : TaskRow}
    (finished : isUnfinished row.status = false) : Claimable row := by
  constructor <;> intro impossible <;>
    cases status : row.status <;>
      simp [status, isUnfinished, isWaiting] at finished impossible

/-- A row which waits again, neither flagged nor blocked. -/
theorem Claimable.of_pending {row : TaskRow}
    (pending : row.status = .pending)
    (noCancel : row.cancelRequested = false)
    (blockedUntil : row.blockedUntil = none) : Claimable row where
  noCancel _ := noCancel
  blockedUntil _ := by simp [blockedUntil, pending]
  running running := by simp [pending] at running

/-- A change which does not write these columns. -/
theorem Claimable.of_same_columns {old new : TaskRow}
    (claimable : Claimable old)
    (status : new.status = old.status)
    (blockedUntil : new.blockedUntil = old.blockedUntil)
    (noCancel : isWaiting old.status = true →
      new.cancelRequested = old.cancelRequested) : Claimable new where
  noCancel waiting := by
    rw [status] at waiting
    rw [noCancel waiting, claimable.noCancel waiting]
  blockedUntil waiting := by
    rw [status] at waiting ⊢
    rw [blockedUntil, claimable.blockedUntil waiting]
  running running := by
    rw [status] at running
    rw [blockedUntil, claimable.running running]

/-- Every change keeps the columns, if recovery meets no cancel request. -/
theorem Claimable.values
    {change : Change} {row : TaskRow}
    (claimable : Claimable row) (enabled : change.enabled row)
    (unflagged : ∀ recoveredAt, change = .recover recoveredAt →
      recoveryIsTerminal row = false → row.cancelRequested = false) :
    Claimable (change.values row) := by
  cases change with
  | claim workerId claimedAt =>
      constructor <;> intro holds
      · simp [Change.values, claimValues, isWaiting] at holds
      · simp [Change.values, claimValues, isWaiting] at holds
      · rfl
  | heartbeat now => exact claimable.of_same_columns rfl rfl fun _ => rfl
  | payload fields => exact claimable.of_same_columns rfl rfl fun _ => rfl
  | flag =>
      refine claimable.of_same_columns rfl rfl fun waiting => ?_
      have running : row.status = .running := enabled
      simp [running, isWaiting] at waiting
  | finish status now errorMessage => exact .of_finished enabled.2
  | failForRetry failedAt retryDelay errorMessage =>
      have blockedUntil := claimable.running enabled
      simp only [Change.values, retryValues]
      split
      · exact .of_finished rfl
      · split
        · exact .of_finished rfl
        · exact .of_pending rfl rfl blockedUntil
  | block blockedAt retryAfter reason =>
      cases flagged : row.cancelRequested with
      | true =>
          exact .of_finished (by
            simp [Change.values, blockValues, flagged, isUnfinished])
      | false =>
          constructor <;> intro holds <;>
            simp [Change.values, blockValues, flagged] at holds ⊢
  | release now => exact .of_pending rfl rfl (claimable.running enabled)
  | requestCancel requestedAt =>
      by_cases running : row.status = .running
      · simp only [Change.values, requestCancelValues, if_pos running]
        refine claimable.of_same_columns rfl rfl fun waiting => ?_
        simp [running, isWaiting] at waiting
      · exact .of_finished (by
          simp [Change.values, requestCancelValues, running, isUnfinished])
  | cancelRunWaiting requestedAt => exact .of_finished rfl
  | close cancelledAt => exact .of_finished rfl
  | recover recoveredAt =>
      cases terminal : recoveryIsTerminal row with
      | true =>
          exact .of_finished (by
            simp [Change.values, recoverValues, terminal, isUnfinished])
      | false =>
          refine .of_pending ?_ (unflagged recoveredAt rfl terminal)
            (claimable.running enabled)
          simp [Change.values, recoverValues, terminal]
  | manualRetry now => exact .of_pending rfl rfl rfl

/-- A stale recovery which returns a cancelled running task to the queue. -/
def recoversCancelled (tasks : Table TaskRow) : Action → Bool
  | .recoverStale staleBefore _ =>
      tasks.any fun _ row =>
        isStale staleBefore row && !recoveryIsTerminal row &&
          row.cancelRequested
  | _ => false

theorem claimable_step
    {tasks tasks' : Table TaskRow} {action : Action}
    (claimable : ∀ key row, tasks.get key = some row → Claimable row)
    (unflagged : recoversCancelled tasks action = false)
    (taken : step tasks action = some tasks') :
    ∀ key row, tasks'.get key = some row → Claimable row := by
  intro key row' found'
  rcases step_cases taken with inserts | rewrites
  · cases found : tasks.get key with
    | none => exact .of_fresh (inserts.new found found').1
    | some row =>
        have kept := inserts.kept found
        rw [found', Option.some.injEq] at kept
        exact kept ▸ claimable key row found
  · obtain ⟨row, found, chain⟩ := rewrites.origin found'
    refine chain.invariant Claimable (claimable key row found) ?_
    intro change other holds enabled permitted
    refine holds.values enabled ?_
    rintro recoveredAt rfl terminal
    obtain ⟨staleBefore, rfl, foundOther, stale⟩ := permitted.of_recover
    by_contra flagged
    have reached : recoversCancelled tasks
        (.recoverStale staleBefore recoveredAt) = true := by
      unfold recoversCancelled
      exact (Table.any_eq_true_iff _ _).mpr
        ⟨key, other, foundOther, by simp [stale, terminal, flagged]⟩
    rw [unflagged] at reached
    cases reached

/-- The eligibility of a task whose dependency and time have come. -/
theorem Claimable.eligible
    {tasks : Table TaskRow} {row : TaskRow} {claimedAt : Time}
    {itemConcurrency : Option Nat}
    (claimable : Claimable row)
    (waiting : isWaiting row.status = true)
    (dependency : dependencySucceeded tasks row = true)
    (available : ∀ time, row.availableAt = some time → time ≤ claimedAt)
    (unblocked : ∀ time, row.blockedUntil = some time → time ≤ claimedAt)
    (slot : itemSlotAvailable tasks row.workerClass itemConcurrency row =
      true) :
    eligible tasks row.workerClass claimedAt itemConcurrency row = true := by
  refine (eligible_eq_true_iff _ _ _ _ _).mpr
    ⟨waiting, rfl, claimable.noCancel waiting, ?_, dependency, slot⟩
  have blocked := claimable.blockedUntil waiting
  unfold timeEligible
  rw [Bool.and_eq_true]
  constructor
  · cases isAvailable : row.availableAt with
    | none => rfl
    | some time => simpa using available time isAvailable
  · cases isBlocked : row.blockedUntil with
    | none => simpa [isBlocked] using blocked
    | some time => simpa using unblocked time isBlocked

/--
In every run in which no stale recovery returns a cancelled task to the
queue, a waiting task has the columns a claim needs.
-/
theorem waiting_task_claimable
    {tasks : Table TaskRow} {key : Nat} {row : TaskRow}
    (steps : Steps step
      (fun tasks action => recoversCancelled tasks action = false)
      .empty tasks)
    (found : tasks.get key = some row)
    (waiting : isWaiting row.status = true) :
    row.cancelRequested = false ∧
      (row.blockedUntil.isSome = true ↔ row.status = .blocked) ∧
      ∀ claimedAt itemConcurrency,
        dependencySucceeded tasks row = true →
        (∀ time, row.availableAt = some time → time ≤ claimedAt) →
        (∀ time, row.blockedUntil = some time → time ≤ claimedAt) →
        itemSlotAvailable tasks row.workerClass itemConcurrency row = true →
        eligible tasks row.workerClass claimedAt itemConcurrency row =
          true := by
  have claimable : Claimable row := by
    refine steps.invariant
      (fun tasks => ∀ key row, tasks.get key = some row → Claimable row)
      ?_ ?_ key row found
    · intro key row found
      simp at found
    · intro state action next holds unflagged taken
      exact claimable_step holds unflagged taken
  exact ⟨claimable.noCancel waiting, claimable.blockedUntil waiting,
    fun _ _ dependency available unblocked slot =>
      claimable.eligible waiting dependency available unblocked slot⟩

/-- A download which turns stale, is recovered and waits again. -/
def staleDownload : List Action :=
  [.enqueue .download "target" 1 [] .network 5 none,
    .claimNext .network "worker" 0 (some 1),
    .recoverStale 100 200]

theorem waiting_task_claimable_staleDownload :
    ∃ tasks row, run step .empty staleDownload = some tasks ∧
      tasks.get 1 = some row ∧ row.status = .pending ∧
      row.cancelRequested = false ∧
      eligible tasks row.workerClass 200 (some 1) row = true := by
  refine ⟨_, _, rfl, rfl, rfl, ?_⟩
  have claimable := @waiting_task_claimable _ 1 _
    (Steps.of_checked_run
      (fun tasks action => !recoversCancelled tasks action)
      (fun _ _ passed => by simpa using passed) staleDownload rfl)
    rfl rfl
  exact ⟨claimable.1, claimable.2.2 200 (some 1) rfl (by decide) (by decide)
    rfl⟩

/--
A cancel request which arrives just before the task turns stale leaves a
pending task which no claim can ever take.
-/
theorem recovered_cancel_not_claimable :
    ∃ tasks row,
      run step .empty
        [.enqueue .download "target" 1 [] .network 5 none,
          .claimNext .network "worker" 0 (some 1),
          .requestCancel 1 50,
          .recoverStale 100 200] = some tasks ∧
      tasks.get 1 = some row ∧ row.status = .pending ∧
      row.cancelRequested = true ∧
      ∀ claimedAt itemConcurrency,
        eligible tasks row.workerClass claimedAt itemConcurrency row =
          false := by
  refine ⟨_, _, rfl, rfl, rfl, rfl, fun claimedAt itemConcurrency => ?_⟩
  rw [Bool.eq_false_iff]
  intro meets
  exact absurd ((eligible_eq_true_iff _ _ _ _ _).mp meets).2.2.1
    (by decide)

end Sluicery.Tasks.Queue
