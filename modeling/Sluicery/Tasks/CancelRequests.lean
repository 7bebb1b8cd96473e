import Sluicery.Tasks.Queue

/-!
# Accepted cancel requests

A cancel of a running task is a flag on its row.  Every settlement and stale
recovery honours it, so the task is not claimed again; two endings do not: a
shutdown release clears the flag, and a success keeps the result.  What
depends on the task waits for its success, so nothing below it is claimed as
long as the task does not succeed.
-/

namespace Sluicery.Tasks.Queue

open Sluicery.Library Sluicery.Library.Transition
open Sluicery.Db Sluicery.Db.TaskRepository

/-! ## The events -/

/-- Some worker can claim the task. -/
def Claims (tasks : Table TaskRow) (key : Nat) : Prop :=
  ∃ workerClass workerId claimedAt itemConcurrency tasks',
    claimNext tasks workerClass workerId claimedAt itemConcurrency =
      .ok (some key, tasks')

/-- A cancel of the task or of its Run, while the task is running. -/
def acceptsCancel (tasks : Table TaskRow) (taskId : Nat)
    (action : Action) : Bool :=
  (tasks.get taskId).any fun row =>
    row.status == .running &&
      match action with
      | .requestCancel cancelled _ => cancelled == taskId
      | .requestCancelRun runId _ => row.runId == some runId
      | _ => false

/-- A manual retry. -/
def isRetry : Action → Bool
  | .retry .. => true
  | _ => false

/-- The owner of the task returns it to the queue at shutdown. -/
def releases (tasks : Table TaskRow) (taskId : Nat) : Action → Bool
  | .write released workerId (.release _) =>
      released == taskId &&
        (tasks.get taskId).any (ownedBy taskId workerId taskId)
  | _ => false

/-- The owner of the task settles it as succeeded. -/
def succeeds (tasks : Table TaskRow) (taskId : Nat) : Action → Bool
  | .write settled workerId (.succeeded _) =>
      settled == taskId &&
        (tasks.get taskId).any (ownedBy taskId workerId taskId)
  | _ => false

theorem eligible_of_claims
    {tasks : Table TaskRow} {key : Nat} (claims : Claims tasks key) :
    ∃ row, tasks.get key = some row ∧
      ∃ workerClass claimedAt itemConcurrency,
        eligible tasks workerClass claimedAt itemConcurrency row = true := by
  obtain ⟨workerClass, workerId, claimedAt, itemConcurrency, tasks',
    claimed⟩ := claims
  obtain ⟨row, found, meets⟩ :=
    eligible_of_claimCandidate (claimNext_cases claimed).1.symm
  exact ⟨row, found, workerClass, claimedAt, itemConcurrency, meets⟩

theorem Allowed.of_manualRetry
    {tasks : Table TaskRow} {action : Action} {key : Nat} {row : TaskRow}
    {now : Time} (allowed : Allowed tasks action key (.manualRetry now) row) :
    isRetry action = true := by
  cases allowed with
  | @write _ _ write _ _ _ _ isChange => cases write <;> cases isChange
  | retry => rfl

theorem Allowed.of_release
    {tasks : Table TaskRow} {action : Action} {key : Nat} {row : TaskRow}
    {now : Time} (allowed : Allowed tasks action key (.release now) row)
    (running : row.status = .running) :
    releases tasks key action = true := by
  cases allowed with
  | @write _ _ write _ _ found owner isChange =>
      cases write <;> cases isChange
      simp [releases, found, ownedBy, running, owner]

theorem Allowed.of_succeeded
    {tasks : Table TaskRow} {action : Action} {key : Nat} {row : TaskRow}
    {now : Time} {errorMessage : Option String}
    (allowed :
      Allowed tasks action key (.finish .succeeded now errorMessage) row)
    (running : row.status = .running) :
    succeeds tasks key action = true := by
  cases allowed with
  | @write _ _ write _ _ found owner isChange =>
      cases write <;> cases isChange
      simp [succeeds, found, ownedBy, running, owner]

theorem Allowed.of_claim
    {tasks : Table TaskRow} {action : Action} {key : Nat} {row : TaskRow}
    {workerId : String} {claimedAt : Time}
    (allowed : Allowed tasks action key (.claim workerId claimedAt) row) :
    Claims tasks key := by
  cases allowed with
  | @write _ _ write _ _ _ _ isChange => cases write <;> cases isChange
  | claim claims => exact ⟨_, _, _, _, _, claims⟩

/-! ## The cancelled task -/

/-- The task has ended, or carries the request. -/
def CancelPending (row : TaskRow) : Prop :=
  isUnfinished row.status = true → row.cancelRequested = true

theorem CancelPending.values
    {change : Change} {row : TaskRow}
    (pending : CancelPending row) (enabled : change.enabled row)
    (notRetry : ∀ now, change ≠ .manualRetry now)
    (notReleased : ∀ now, change ≠ .release now) :
    CancelPending (change.values row) := by
  cases change with
  | claim workerId claimedAt =>
      have unfinished : isUnfinished row.status = true := by
        have waiting := enabled.1
        revert waiting
        cases row.status <;> simp [isWaiting, isUnfinished]
      rw [Change.enabled, pending unfinished] at enabled
      cases enabled.2
  | heartbeat now => exact pending
  | payload fields => exact pending
  | flag => exact fun _ => rfl
  | finish status now errorMessage =>
      intro unfinished
      rw [Change.values, finishValues, enabled.2] at unfinished
      cases unfinished
  | failForRetry failedAt retryDelay errorMessage =>
      have flagged := pending (by rw [enabled]; rfl)
      intro unfinished
      simp [Change.values, retryValues, flagged, isUnfinished] at unfinished
  | block blockedAt retryAfter reason =>
      have flagged := pending (by rw [enabled]; rfl)
      intro unfinished
      simp [Change.values, blockValues, flagged, isUnfinished] at unfinished
  | release now => exact absurd rfl (notReleased now)
  | manualRetry now => exact absurd rfl (notRetry now)
  | requestCancel requestedAt =>
      intro unfinished
      by_cases running : row.status = .running
      · simp [Change.values, requestCancelValues, running]
      · simp [Change.values, requestCancelValues, running, isUnfinished]
          at unfinished
  | cancelRunWaiting requestedAt => intro unfinished; cases unfinished
  | close cancelledAt => intro unfinished; cases unfinished
  | recover recoveredAt => exact fun _ => pending (by rw [enabled]; rfl)

/-- No worker can claim a task with a pending cancel. -/
theorem not_claims_of_cancelPending
    {tasks : Table TaskRow} {key : Nat} {row : TaskRow}
    (found : tasks.get key = some row) (pending : CancelPending row) :
    ¬ Claims tasks key := by
  intro claims
  obtain ⟨row', found', workerClass, claimedAt, itemConcurrency, meets⟩ :=
    eligible_of_claims claims
  rw [found, Option.some.injEq] at found'
  subst found'
  have holds := (eligible_eq_true_iff _ _ _ _ _).mp meets
  have flagged := pending (by
    have waiting := holds.1
    revert waiting
    cases row.status <;> simp [isWaiting, isUnfinished])
  rw [holds.2.2.1] at flagged
  cases flagged

theorem cancelPending_step
    {tasks tasks' : Table TaskRow} {action : Action} {key : Nat}
    (pending : ∃ row, tasks.get key = some row ∧ CancelPending row)
    (notRetry : isRetry action = false)
    (notReleased : releases tasks key action = false)
    (taken : step tasks action = some tasks') :
    ∃ row, tasks'.get key = some row ∧ CancelPending row := by
  obtain ⟨row, found, pending⟩ := pending
  rcases step_cases taken with inserts | rewrites
  · exact ⟨row, inserts.kept found, pending⟩
  · obtain ⟨row', found', chain⟩ := rewrites.found found
    refine ⟨row', found', chain.invariant CancelPending pending ?_⟩
    intro change other holds enabled allowed
    refine holds.values enabled ?_ ?_
    · rintro now rfl
      rw [allowed.of_manualRetry] at notRetry
      cases notRetry
    · rintro now rfl
      rw [allowed.of_release enabled] at notReleased
      cases notReleased

/-- The request meets a running task, and settles nothing itself. -/
theorem acceptsCancel_cases
    {tasks : Table TaskRow} {action : Action} {taskId : Nat}
    (accepted : acceptsCancel tasks taskId action = true) :
    ∃ row, tasks.get taskId = some row ∧ row.status = .running ∧
      isRetry action = false ∧ succeeds tasks taskId action = false := by
  rw [acceptsCancel, Option.any_eq_true] at accepted
  obtain ⟨row, found, accepted⟩ := accepted
  rw [Bool.and_eq_true, beq_iff_eq] at accepted
  refine ⟨row, found, accepted.1, ?_⟩
  have named := accepted.2
  cases action with
  | requestCancel | requestCancelRun => exact ⟨rfl, rfl⟩
  | _ => cases named

/-- The accepted request is on the row. -/
theorem cancelPending_of_accepted
    {tasks tasks' : Table TaskRow} {action : Action} {taskId : Nat}
    (accepted : acceptsCancel tasks taskId action = true)
    (taken : step tasks action = some tasks') :
    ∃ row, tasks'.get taskId = some row ∧ row.status = .running ∧
      row.cancelRequested = true := by
  rw [acceptsCancel, Option.any_eq_true] at accepted
  obtain ⟨row, found, accepted⟩ := accepted
  rw [Bool.and_eq_true, beq_iff_eq] at accepted
  obtain ⟨running, named⟩ := accepted
  cases action with
  | requestCancel cancelled requestedAt =>
      rw [beq_iff_eq] at named
      subst named
      obtain rfl := Option.some.inj taken
      refine ⟨{ row with cancelRequested := true }, ?_, running, rfl⟩
      simp [TaskRepository.requestCancel, found, running, isUnfinished,
        requestCancelValues, Table.get_updateWhere]
  | requestCancelRun runId requestedAt =>
      rw [beq_iff_eq] at named
      obtain rfl := Option.some.inj taken
      refine ⟨{ row with cancelRequested := true }, ?_, running, rfl⟩
      simp [TaskRepository.requestCancelRun, found, running, named,
        isWaiting, flagValues, Table.get_updateWhere]
  | _ => cases named

/-! ## What depends on the cancelled task -/

/-- Nothing below the task is running or waits behind a finished success. -/
def DependentsWait (tasks : Table TaskRow) (taskId : Nat) : Prop :=
  ∀ key row, DependsOnTransitively tasks key taskId →
    tasks.get key = some row →
      row.status ≠ .running ∧
        (isWaiting row.status = true →
          dependencySucceeded tasks row = false)

theorem not_claims_of_dependentsWait
    {tasks : Table TaskRow} {taskId key : Nat}
    (wait : DependentsWait tasks taskId)
    (below : DependsOnTransitively tasks key taskId) :
    ¬ Claims tasks key := by
  intro claims
  obtain ⟨row, found, workerClass, claimedAt, itemConcurrency, meets⟩ :=
    eligible_of_claims claims
  have holds := (eligible_eq_true_iff _ _ _ _ _).mp meets
  have waits := (wait key row below found).2 holds.1
  rw [holds.2.2.2.2.1] at waits
  cases waits

theorem dependencySucceeded_eq_false_iff
    {tasks : Table TaskRow} {row : TaskRow} {parent : Nat}
    (named : row.dependsOnTaskId = some parent) :
    dependencySucceeded tasks row = false ↔
      ∀ parentRow, tasks.get parent = some parentRow →
        parentRow.status ≠ .succeeded := by
  simp only [dependencySucceeded, named]
  cases tasks.get parent with
  | none => simp
  | some parentRow => simp

/-- Every row of a chain of dependencies names its parent. -/
theorem exists_parent_of_dependsOnTransitively
    {tasks : Table TaskRow} {key taskId : Nat} {row : TaskRow}
    (below : DependsOnTransitively tasks key taskId)
    (found : tasks.get key = some row) :
    ∃ parent, row.dependsOnTaskId = some parent ∧
      (parent = taskId ∨ DependsOnTransitively tasks parent taskId) := by
  obtain ⟨parent, ⟨row', found', named⟩, above⟩ :=
    Relation.TransGen.head'_iff.mp below
  rw [found, Option.some.injEq] at found'
  subst found'
  exact ⟨parent, named,
    (Relation.reflTransGen_iff_eq_or_transGen.mp above).imp_left Eq.symm⟩

/-- New tasks are not below an old one. -/
theorem dependsOnTransitively_of_inserts
    {before after : Table TaskRow} {key taskId : Nat} {row : TaskRow}
    (inserts : Inserts before after)
    (found : before.get taskId = some row)
    (below : DependsOnTransitively after key taskId) :
    DependsOnTransitively before key taskId ∧
      ∃ row, before.get key = some row := by
  have old : ∀ {child parent : Nat} {parentRow : TaskRow},
      before.get parent = some parentRow → DependsOn after child parent →
        DependsOn before child parent ∧
          ∃ row, before.get child = some row := by
    rintro child parent parentRow foundParent ⟨row', found', named⟩
    cases foundChild : before.get child with
    | none =>
        have missing := (inserts.new foundChild found').2 parent named
        rw [foundParent] at missing
        cases missing
    | some row =>
        have kept := inserts.kept foundChild
        rw [found', Option.some.injEq] at kept
        subst kept
        exact ⟨⟨_, foundChild, named⟩, _, rfl⟩
  induction below using Relation.TransGen.head_induction_on with
  | single first =>
      obtain ⟨dependsOn, exists_row⟩ := old found first
      exact ⟨.single dependsOn, exists_row⟩
  | head first _ induction =>
      obtain ⟨above, parentRow, foundParent⟩ := induction
      obtain ⟨dependsOn, exists_row⟩ := old foundParent first
      exact ⟨.head dependsOn above, exists_row⟩

/-- A row which is not running does not succeed. -/
theorem not_succeeded_of_rewrites
    {tasks tasks' : Table TaskRow} {action : Action} {key : Nat}
    {row row' : TaskRow}
    (rewrites : changes.Rewrites (Allowed tasks action) tasks tasks')
    (found : tasks.get key = some row)
    (found' : tasks'.get key = some row')
    (notSettled : succeeds tasks key action = false)
    (notSucceeded : row.status ≠ .succeeded) :
    row'.status ≠ .succeeded := by
  obtain ⟨new, foundNew, chain⟩ := rewrites.found found
  rw [found', Option.some.injEq] at foundNew
  subst foundNew
  refine chain.invariant (fun other => other.status ≠ .succeeded)
    notSucceeded ?_
  intro change other holds enabled allowed succeeded
  rcases Change.succeeded_values enabled succeeded with
    before | ⟨running, now, errorMessage, rfl⟩
  · exact holds before
  · rw [allowed.of_succeeded running] at notSettled
    cases notSettled

/-- An accepted success is a success of a running row. -/
theorem running_of_succeeds
    {tasks : Table TaskRow} {action : Action} {key : Nat} {row : TaskRow}
    (found : tasks.get key = some row)
    (settled : succeeds tasks key action = true) :
    row.status = .running := by
  unfold succeeds at settled
  split at settled
  · rw [found, Bool.and_eq_true, Option.any_some] at settled
    exact ((ownedBy_eq_true_iff _ _ _ _).mp settled.2).2.1
  · cases settled

theorem dependentsWait_step
    {tasks tasks' : Table TaskRow} {action : Action} {taskId : Nat}
    (wait : DependentsWait tasks taskId ∧
      ∃ row, tasks.get taskId = some row ∧ row.status ≠ .succeeded)
    (notRetry : isRetry action = false)
    (notSettled : succeeds tasks taskId action = false)
    (taken : step tasks action = some tasks') :
    DependentsWait tasks' taskId ∧
      ∃ row, tasks'.get taskId = some row ∧ row.status ≠ .succeeded := by
  obtain ⟨wait, taskRow, foundTask, notSucceeded⟩ := wait
  rcases step_cases taken with inserts | rewrites
  · refine ⟨?_, taskRow, inserts.kept foundTask, notSucceeded⟩
    intro key row below found
    obtain ⟨below, oldRow, foundOld⟩ :=
      dependsOnTransitively_of_inserts inserts foundTask below
    have kept := inserts.kept foundOld
    rw [found, Option.some.injEq] at kept
    subst kept
    refine ⟨(wait key _ below foundOld).1, fun waiting => ?_⟩
    obtain ⟨parent, named, above⟩ :=
      exists_parent_of_dependsOnTransitively below foundOld
    rw [dependencySucceeded_eq_false_iff named]
    intro parentRow foundParent
    -- The parent is an old row, too.
    have exists_old : ∃ old, tasks.get parent = some old := by
      rcases above with rfl | above
      · exact ⟨_, foundTask⟩
      · obtain ⟨_, ⟨old, foundOld, _⟩, _⟩ :=
          Relation.TransGen.head'_iff.mp above
        exact ⟨old, foundOld⟩
    obtain ⟨old, foundOldParent⟩ := exists_old
    have same := inserts.kept foundOldParent
    rw [foundParent, Option.some.injEq] at same
    subst same
    exact (dependencySucceeded_eq_false_iff named).mp
      ((wait key _ below foundOld).2 waiting) _ foundOldParent
  · obtain ⟨taskRow', foundTask', -⟩ := rewrites.found foundTask
    refine ⟨?_, taskRow', foundTask', not_succeeded_of_rewrites rewrites
      foundTask foundTask' notSettled notSucceeded⟩
    intro key row' below found'
    rw [dependsOnTransitively_iff_of_rewrites rewrites] at below
    obtain ⟨row, found, chain⟩ := rewrites.origin found'
    obtain ⟨notRunning, waits⟩ := wait key row below found
    have kept := chain.invariant
      (fun other => other.status ≠ .running ∧
        (isWaiting other.status = true → isWaiting row.status = true))
      ⟨notRunning, id⟩ (fun change other holds enabled allowed => by
        refine ⟨fun running => ?_, fun waiting => ?_⟩
        · rcases Change.running_values enabled running with
            ⟨workerId, claimedAt, rfl⟩ | ⟨running, -⟩
          · exact not_claims_of_dependentsWait wait below allowed.of_claim
          · exact holds.1 running
        · apply holds.2
          have unfinished := Change.waiting_values enabled
            (fun now isRetryChange => by
              subst isRetryChange
              rw [allowed.of_manualRetry] at notRetry
              cases notRetry) waiting
          revert unfinished
          have notRunning := holds.1
          revert notRunning
          cases other.status <;> simp [isUnfinished, isWaiting])
    refine ⟨kept.1, fun waiting => ?_⟩
    obtain ⟨parent, named, above⟩ :=
      exists_parent_of_dependsOnTransitively below found
    have named' : row'.dependsOnTaskId = some parent := by
      have same := fixedColumns_of_chain chain
      simp only [fixedColumns, Prod.mk.injEq] at same
      rw [same.2.2.2.2.2.1, named]
    rw [dependencySucceeded_eq_false_iff named']
    intro parentRow' foundParent'
    obtain ⟨parentRow, foundParent, -⟩ := rewrites.origin foundParent'
    refine not_succeeded_of_rewrites rewrites foundParent foundParent' ?_
      ((dependencySucceeded_eq_false_iff named).mp
        (waits (kept.2 waiting)) parentRow foundParent)
    rcases above with rfl | above
    · exact notSettled
    · by_contra settled
      rw [Bool.not_eq_false] at settled
      exact (wait parent parentRow above foundParent).1
        (running_of_succeeds foundParent settled)

/-! ## Histories without manual retry -/

/-- A task which runs or has succeeded comes after its dependency. -/
def StartsInOrder (tasks : Table TaskRow) : Prop :=
  ∀ key row, tasks.get key = some row →
    row.status = .running ∨ row.status = .succeeded →
      dependencySucceeded tasks row = true

/-- Without manual retry a succeeded dependency stays succeeded. -/
theorem dependencySucceeded_step
    {tasks tasks' : Table TaskRow} {action : Action} {row row' : TaskRow}
    (notRetry : isRetry action = false)
    (taken : step tasks action = some tasks')
    (same : row'.dependsOnTaskId = row.dependsOnTaskId)
    (succeeded : dependencySucceeded tasks row = true) :
    dependencySucceeded tasks' row' = true := by
  unfold dependencySucceeded at succeeded ⊢
  rw [same]
  cases named : row.dependsOnTaskId with
  | none => rfl
  | some parent =>
      simp only [named] at succeeded
      cases found : tasks.get parent with
      | none => simp [found] at succeeded
      | some parentRow =>
          simp only [found, beq_iff_eq] at succeeded
          rcases step_cases taken with inserts | rewrites
          · simp [inserts.kept found, succeeded]
          · obtain ⟨parentRow', found', chain⟩ := rewrites.found found
            simp only [found', beq_iff_eq]
            refine chain.invariant (fun other => other.status = .succeeded)
              succeeded ?_
            intro change other holds enabled allowed
            refine Change.values_of_succeeded enabled ?_ holds
            rintro now rfl
            rw [allowed.of_manualRetry] at notRetry
            cases notRetry

theorem startsInOrder_step
    {tasks tasks' : Table TaskRow} {action : Action}
    (inOrder : StartsInOrder tasks)
    (notRetry : isRetry action = false)
    (taken : step tasks action = some tasks') : StartsInOrder tasks' := by
  intro key row' found' started
  rcases step_cases taken with inserts | rewrites
  · cases found : tasks.get key with
    | none =>
        have queued := (inserts.new found found').1.status
        rw [queued] at started
        rcases started with impossible | impossible <;> cases impossible
    | some row =>
        have kept := inserts.kept found
        rw [found', Option.some.injEq] at kept
        subst kept
        exact dependencySucceeded_step notRetry taken rfl
          (inOrder key _ found started)
  · obtain ⟨row, found, chain⟩ := rewrites.origin found'
    have same : row'.dependsOnTaskId = row.dependsOnTaskId := by
      have same := fixedColumns_of_chain chain
      simp only [fixedColumns, Prod.mk.injEq] at same
      exact same.2.2.2.2.2.1
    refine dependencySucceeded_step notRetry taken same ?_
    -- Before the step the row had started, or it is claimed by the step.
    refine chain.invariant
      (fun other => other.status = .running ∨ other.status = .succeeded →
        dependencySucceeded tasks row = true)
      (inOrder key row found) ?_ started
    intro change other holds enabled allowed started
    rcases started with running | succeeded
    · rcases Change.running_values enabled running with
        ⟨workerId, claimedAt, rfl⟩ | ⟨running, -⟩
      · obtain ⟨claimed, foundClaimed, workerClass, claimedAt,
          itemConcurrency, meets⟩ := eligible_of_claims allowed.of_claim
        rw [found, Option.some.injEq] at foundClaimed
        subst foundClaimed
        exact ((eligible_eq_true_iff _ _ _ _ _).mp meets).2.2.2.2.1
      · exact holds (Or.inl running)
    · rcases Change.succeeded_values enabled succeeded with
        before | ⟨running, -⟩
      · exact holds (Or.inr before)
      · exact holds (Or.inl running)

theorem dependentsWait_of_startsInOrder
    {tasks : Table TaskRow} {taskId : Nat} {taskRow : TaskRow}
    (inOrder : StartsInOrder tasks)
    (foundTask : tasks.get taskId = some taskRow)
    (notSucceeded : taskRow.status ≠ .succeeded) :
    DependentsWait tasks taskId := by
  -- The first task of a chain which started would follow a success.
  have started : ∀ {key : Nat}, DependsOnTransitively tasks key taskId →
      ∀ row, tasks.get key = some row →
        dependencySucceeded tasks row = false := by
    intro key below
    induction below using Relation.TransGen.head_induction_on with
    | single first =>
        intro row found
        obtain ⟨row', found', named⟩ := first
        rw [found, Option.some.injEq] at found'
        subst found'
        rw [dependencySucceeded_eq_false_iff named]
        intro parentRow foundParent
        rw [foundTask, Option.some.injEq] at foundParent
        exact foundParent ▸ notSucceeded
    | head first _ induction =>
        intro row found
        obtain ⟨row', found', named⟩ := first
        rw [found, Option.some.injEq] at found'
        subst found'
        rw [dependencySucceeded_eq_false_iff named]
        intro parentRow foundParent succeeded
        have waits := induction parentRow foundParent
        rw [inOrder _ parentRow foundParent (Or.inr succeeded)] at waits
        cases waits
  intro key row below found
  have waits := started below row found
  refine ⟨fun running => ?_, fun _ => waits⟩
  rw [inOrder key row found (Or.inl running)] at waits
  cases waits

/-! ## The main result -/

/--
After a cancel of a running task was accepted, and without manual retry, the
task is never claimed again unless its owner releases it at shutdown; nothing
which depends on it is ever claimed unless it is settled as succeeded.
-/
theorem cancelled_task_not_claimed
    {tasks tasks' : Table TaskRow} {taskId : Nat} {action : Action}
    (accepted : acceptsCancel tasks taskId action = true)
    (taken : step tasks action = some tasks') :
    (∀ final,
      Steps step
        (fun state action => isRetry action = false ∧
          releases state taskId action = false) tasks' final →
      ¬ Claims final taskId) ∧
    (DependentsWait tasks taskId → ∀ final,
      Steps step
        (fun state action => isRetry action = false ∧
          succeeds state taskId action = false) tasks' final →
      ∀ key, DependsOnTransitively final key taskId → ¬ Claims final key) ∧
    (Steps step (fun _ action => isRetry action = false) .empty tasks →
      DependentsWait tasks taskId) := by
  obtain ⟨row, found, running, flagged⟩ :=
    cancelPending_of_accepted accepted taken
  refine ⟨?_, ?_, ?_⟩
  · intro final continued
    obtain ⟨row, found, pending⟩ := continued.invariant
      (fun tasks => ∃ row, tasks.get taskId = some row ∧ CancelPending row)
      ⟨row, found, fun _ => flagged⟩
      (fun _ _ _ pending permitted taken =>
        cancelPending_step pending permitted.1 permitted.2 taken)
    exact not_claims_of_cancelPending found pending
  · intro wait final continued key below
    obtain ⟨before, foundBefore, isRunning, notRetry, notSettled⟩ :=
      acceptsCancel_cases accepted
    have initially := dependentsWait_step
      ⟨wait, before, foundBefore, by simp [isRunning]⟩
      notRetry notSettled taken
    have atEnd := continued.invariant
      (fun tasks => DependentsWait tasks taskId ∧
        ∃ row, tasks.get taskId = some row ∧ row.status ≠ .succeeded)
      initially
      (fun _ _ _ holds permitted taken =>
        dependentsWait_step holds permitted.1 permitted.2 taken)
    exact not_claims_of_dependentsWait atEnd.1 below
  · intro history
    have inOrder := history.invariant StartsInOrder
      (fun key row found => by simp at found)
      (fun _ _ _ holds notRetry taken =>
        startsInOrder_step holds notRetry taken)
    obtain ⟨before, foundBefore, isRunning, -⟩ :=
      acceptsCancel_cases accepted
    exact dependentsWait_of_startsInOrder inOrder foundBefore
      (by simp [isRunning])

/-- A pipeline whose first task is running when its cancel is accepted. -/
def cancelledDownload : List Action :=
  [.enqueuePipeline 1 none "work" 5,
    .claimNext .network "worker" 0 (some 1)]

/-- The queue in which the first task is running. -/
def runningDownload : Table TaskRow :=
  (run step .empty cancelledDownload).getD .empty

theorem cancelled_task_not_claimed_runningDownload :
    ∃ tasks', step runningDownload (.requestCancel 1 10) = some tasks' ∧
      DependentsWait runningDownload 1 ∧
      ∀ staleBefore recoveredAt final,
        step tasks' (.recoverStale staleBefore recoveredAt) = some final →
          ¬ Claims final 1 ∧
          ∀ key, DependsOnTransitively final key 1 → ¬ Claims final key := by
  obtain ⟨tasks', taken⟩ :
      ∃ tasks', step runningDownload (.requestCancel 1 10) = some tasks' :=
    ⟨_, rfl⟩
  have accepted :
      acceptsCancel runningDownload 1 (.requestCancel 1 10) = true := rfl
  obtain ⟨notClaimed, notBelow, waits⟩ :=
    cancelled_task_not_claimed accepted taken
  have wait := waits (Steps.of_checked_run
    (fun _ action => !isRetry action)
    (fun _ _ passed => by simpa using passed) cancelledDownload rfl)
  refine ⟨tasks', taken, wait, fun staleBefore recoveredAt final recovered =>
    ⟨?_, ?_⟩⟩
  · exact notClaimed final (.single ⟨rfl, rfl⟩ recovered)
  · exact notBelow wait final (.single ⟨rfl, rfl⟩ recovered)

/-- The running task of a cancelled pipeline, after three more events. -/
def afterCancel (events : List Action) : Option (Table TaskRow) :=
  run step .empty (cancelledDownload ++ .requestCancel 1 10 :: events)

/--
An accepted cancel is lost when the worker shuts down and releases the task,
and when the task succeeds and the next one starts.  After an earlier manual
retry of the task, a failed attempt of its child is enough for a task below
the child to start again.
-/
theorem accepted_cancel_lost :
    (∃ final, afterCancel [.write 1 "worker" (.release 20)] = some final ∧
      Claims final 1) ∧
    (∃ final, afterCancel [.write 1 "worker" (.succeeded 20)] = some final ∧
      DependsOnTransitively final 2 1 ∧ Claims final 2) ∧
    ∃ tasks tasks' final,
      run step .empty
        (cancelledDownload ++
          [.write 1 "worker" (.succeeded 1),
            .claimNext .compute "compute" 2 none,
            .write 2 "compute" (.succeeded 3),
            .claimNext .compute "compute" 4 none,
            .retry 1 5,
            .claimNext .network "worker" 6 (some 1)]) = some tasks ∧
      acceptsCancel tasks 1 (.requestCancel 1 10) = true ∧
      step tasks (.requestCancel 1 10) = some tasks' ∧
      step tasks' (.write 3 "compute" (.failedForRetry 1 none 11)) =
        some final ∧
      DependsOnTransitively final 3 1 ∧ Claims final 3 := by
  refine ⟨?_, ?_, ?_⟩
  · exact ⟨_, rfl, .network, "other", 30, some 1, _, rfl⟩
  · exact ⟨_, rfl, .single ⟨_, rfl, rfl⟩, .compute, "compute", 30, none, _,
      rfl⟩
  · exact ⟨_, _, _, rfl, rfl, rfl, rfl,
      .head ⟨_, rfl, rfl⟩ (.single ⟨_, rfl, rfl⟩),
      .compute, "compute", 30, none, _, rfl⟩

end Sluicery.Tasks.Queue
