import Mathlib
import Sluicery.Tasks.CancelRequests

/-!
# The dependency relation stays closed

Every way a task ends without success closes the waiting tasks below it.  The
walk of `cancel_descendants` goes through waiting children only, so it reaches
all of them because a task below a waiting one waits itself or is dead.

The invariant is about single edges: a waiting task has no dead dependency
outside the list of tasks whose descendants are still to be closed, and a
task which was started has a succeeded one.  What it says about whole chains
follows by induction along the chain.
-/

namespace Sluicery.Tasks.Queue

open Sluicery.Library Sluicery.Library.Transition
open Sluicery.Db Sluicery.Db.TaskRepository

/-! ## The invariant -/

/-- The task was claimed and did not end without success. -/
def hasStarted : TaskStatus → Bool
  | .running | .succeeded => true
  | _ => false

theorem status_cases (status : TaskStatus) :
    isWaiting status = true ∨ hasStarted status = true ∨
      isDead status = true := by
  cases status <;> simp [isWaiting, hasStarted, isDead]

theorem not_dead_of_started {status : TaskStatus}
    (started : hasStarted status = true) : isDead status = false := by
  cases status <;> simp [hasStarted, isDead] at started ⊢

/-- What holds between a task and its dependency. -/
structure Edge (roots : List Nat) (row : TaskRow) (parent : Nat)
    (parentRow : TaskRow) : Prop where
  sameRun : parentRow.runId = row.runId
  ran (started : hasStarted row.status = true) :
    parentRow.status = .succeeded
  waits (waiting : isWaiting row.status = true)
    (dead : isDead parentRow.status = true) : parent ∈ roots

/-- Only the descendants of the roots are still to be closed. -/
def Closed (roots : List Nat) (tasks : Table TaskRow) : Prop :=
  ∀ child parent row, tasks.get child = some row →
    row.dependsOnTaskId = some parent →
      ∃ parentRow, tasks.get parent = some parentRow ∧
        Edge roots row parent parentRow

/-- Nothing above a task which is not dead is dead. -/
theorem Closed.not_dead_above
    {tasks : Table TaskRow} {child ancestor : Nat} {row : TaskRow}
    (closed : Closed [] tasks)
    (below : DependsOnTransitively tasks child ancestor)
    (found : tasks.get child = some row)
    (alive : isDead row.status = false) :
    ∃ ancestorRow, tasks.get ancestor = some ancestorRow ∧
      isDead ancestorRow.status = false := by
  -- One edge first; a chain is then an induction from its lower end.
  have above : ∀ {child parent : Nat} {row : TaskRow},
      tasks.get child = some row → isDead row.status = false →
        row.dependsOnTaskId = some parent →
          ∃ parentRow, tasks.get parent = some parentRow ∧
            isDead parentRow.status = false := by
    intro child parent row found alive named
    rcases closed child parent row found named with ⟨parentRow, foundParent, edge⟩
    refine ⟨parentRow, foundParent, ?_⟩
    rcases status_cases row.status with waiting | started | dead
    · rw [Bool.eq_false_iff]
      intro dead
      cases edge.waits waiting dead
    · exact not_dead_of_started (by rw [edge.ran started]; rfl)
    · rw [alive] at dead
      cases dead
  induction below using Relation.TransGen.head_induction_on generalizing row
    with
  | single dependsOn =>
      rcases dependsOn with ⟨other, foundOther, named⟩
      rw [found, Option.some.injEq] at foundOther
      subst foundOther
      exact above found alive named
  | head dependsOn _ induction =>
      rcases dependsOn with ⟨other, foundOther, named⟩
      rw [found, Option.some.injEq] at foundOther
      subst foundOther
      rcases above found alive named with ⟨parentRow, foundParent, next⟩
      exact induction foundParent next

/-! ## Statements which change rows -/

/-- A dependency matters to a claim only through the column which names it. -/
theorem dependencySucceeded_congr
    {tasks : Table TaskRow} {left right : TaskRow}
    (same : left.dependsOnTaskId = right.dependsOnTaskId) :
    dependencySucceeded tasks left = dependencySucceeded tasks right := by
  simp only [dependencySucceeded, same]

theorem dependsOnTaskId_values (change : Change) (row : TaskRow) :
    (change.values row).dependsOnTaskId = row.dependsOnTaskId := by
  have same := fixedColumns_values change row
  simp only [fixedColumns, Prod.mk.injEq] at same
  exact same.2.2.2.2.2.1

/-- What a chain of changes without a manual retry says about the old row. -/
structure Follows (tasks : Table TaskRow) (old new : TaskRow) : Prop where
  dependency : new.dependsOnTaskId = old.dependsOnTaskId
  runId : new.runId = old.runId
  started (started : hasStarted new.status = true) :
    hasStarted old.status = true ∨ dependencySucceeded tasks old = true
  unfinished (unfinished : isUnfinished new.status = true) :
    isUnfinished old.status = true
  succeeded (succeeded : old.status = .succeeded) : new.status = .succeeded

theorem Follows.refl (tasks : Table TaskRow) (row : TaskRow) :
    Follows tasks row row :=
  ⟨rfl, rfl, Or.inl, id, id⟩

/-- One more change. -/
theorem Follows.values
    {tasks : Table TaskRow} {old row : TaskRow} {change : Change}
    (follows : Follows tasks old row) (enabled : change.enabled row)
    (notRetry : ∀ now, change ≠ .manualRetry now)
    (claims : ∀ workerId claimedAt, change = .claim workerId claimedAt →
      dependencySucceeded tasks row = true) :
    Follows tasks old (change.values row) where
  dependency := (dependsOnTaskId_values change row).trans follows.dependency
  runId := by
    have same := fixedColumns_values change row
    simp only [fixedColumns, Prod.mk.injEq] at same
    exact same.2.2.2.2.2.2.2.2.trans follows.runId
  started started := by
    have running : row.status = .running →
        hasStarted old.status = true ∨
          dependencySucceeded tasks old = true := by
      intro running
      exact follows.started (by rw [running]; rfl)
    cases status : (change.values row).status with
    | running =>
        rcases Change.running_values enabled status with
          ⟨workerId, claimedAt, isClaim⟩ | ⟨wasRunning, -⟩
        · right
          rw [← dependencySucceeded_congr follows.dependency]
          exact claims workerId claimedAt isClaim
        · exact running wasRunning
    | succeeded =>
        rcases Change.succeeded_values enabled status with
          succeeded | ⟨wasRunning, -⟩
        · exact follows.started (by rw [succeeded]; rfl)
        · exact running wasRunning
    | _ => simp [status, hasStarted] at started
  unfinished unfinished := by
    apply follows.unfinished
    cases status : (change.values row).status with
    | running =>
        rcases Change.running_values enabled status with
          ⟨workerId, claimedAt, rfl⟩ | ⟨wasRunning, -⟩
        · have waiting := enabled.1
          revert waiting
          cases row.status <;> simp [isWaiting, isUnfinished]
        · rw [wasRunning]
          rfl
    | pending | queued | blocked =>
        exact Change.waiting_values enabled notRetry (by rw [status]; rfl)
    | _ => simp [status, isUnfinished] at unfinished
  succeeded succeeded :=
    Change.values_of_succeeded enabled notRetry (follows.succeeded succeeded)

/--
A statement keeps the relation closed if a claim looks at the dependency and
every task the statement kills is a root.
-/
theorem Closed.of_rewrites
    {allowed : Nat → Change → TaskRow → Prop}
    {before after : Table TaskRow} {roots : List Nat}
    (closed : Closed [] before)
    (rewrites : changes.Rewrites allowed before after)
    (notRetry : ∀ key now row, ¬ allowed key (.manualRetry now) row)
    (claims : ∀ key workerId claimedAt row,
      allowed key (.claim workerId claimedAt) row →
        dependencySucceeded before row = true)
    (killed : ∀ child row parent parentRow, after.get child = some row →
      row.dependsOnTaskId = some parent → isWaiting row.status = true →
        before.get parent = some parentRow →
          isDead parentRow.status = false →
            (∃ dead, after.get parent = some dead ∧
              isDead dead.status = true) →
              parent ∈ roots) :
    Closed roots after := by
  have follow : ∀ {key : Nat} {old new : TaskRow},
      changes.Chain (allowed key) old new → Follows before old new := by
    intro key old new chain
    refine chain.invariant (Follows before old) (.refl before old) ?_
    intro change row follows enabled permitted
    refine follows.values enabled ?_ ?_
    · rintro now rfl
      exact notRetry key now row permitted
    · rintro workerId claimedAt rfl
      exact claims key workerId claimedAt row permitted
  intro child parent row found named
  rcases rewrites.origin found with ⟨old, foundOld, chain⟩
  have follows := follow chain
  have namedOld : old.dependsOnTaskId = some parent := by
    rw [← follows.dependency, named]
  rcases closed child parent old foundOld namedOld with ⟨parentOld, foundParentOld, edge⟩
  rcases rewrites.found foundParentOld with
    ⟨parentRow, foundParent, parentChain⟩
  have parentFollows := follow parentChain
  refine ⟨parentRow, foundParent, ?_, ?_, ?_⟩
  · rw [parentFollows.runId, follows.runId, edge.sameRun]
  · intro started
    apply parentFollows.succeeded
    rcases follows.started started with startedOld | succeeded
    · exact edge.ran startedOld
    · simpa [dependencySucceeded, namedOld, foundParentOld] using succeeded
  · intro waiting dead
    cases deadOld : isDead parentOld.status with
    | false =>
        exact killed child row parent parentOld found named waiting
          foundParentOld deadOld ⟨parentRow, foundParent, dead⟩
    | true =>
        -- The task did not wait for a dead one before, so it was running;
        -- then its dependency had succeeded.
        have unfinished : isUnfinished old.status = true := by
          apply follows.unfinished
          revert waiting
          cases row.status <;> simp [isWaiting, isUnfinished]
        rcases status_cases old.status with
          waitingOld | startedOld | deadChild
        · cases edge.waits waitingOld deadOld
        · have succeeded := edge.ran startedOld
          simp [succeeded, isDead] at deadOld
        · revert unfinished deadChild
          cases old.status <;> simp [isUnfinished, isDead]

/-! ## Closing the descendants of the roots -/

/-- The descendants of one root are closed. -/
theorem Closed.cancelDescendants
    {tasks : Table TaskRow} {root : Nat} {roots : List Nat}
    (closed : Closed (root :: roots) tasks) (cancelledAt : Time) :
    Closed roots
      (TaskRepository.cancelDescendants tasks root cancelledAt).2 := by
  classical
  intro child parent row' found' named'
  rw [get_cancelDescendants, Option.map_eq_some_iff] at found'
  rcases found' with ⟨row, found, rfl⟩
  have named : row.dependsOnTaskId = some parent := by
    revert named'
    split <;> exact id
  rcases closed child parent row found named with ⟨parentRow, foundParent, edge⟩
  refine ⟨_, by rw [get_cancelDescendants, foundParent, Option.map_some],
    ?_, ?_, ?_⟩
  · have sameRun := edge.sameRun
    split <;> split <;> exact sameRun
  · intro started
    have notClosed : ¬ (dependents cancelledAt).OpenDescendant tasks [root]
        child := by
      intro descendant
      rw [if_pos descendant] at started
      cases started
    rw [if_neg notClosed] at started
    have succeeded := edge.ran started
    have kept : ¬ (dependents cancelledAt).OpenDescendant tasks [root]
        parent := by
      intro descendant
      rcases descendant.isOpen with ⟨other, foundOther, isOpen⟩
      rw [foundParent, Option.some.injEq] at foundOther
      subst foundOther
      simp [dependents, succeeded, isWaiting] at isOpen
    simpa [kept] using succeeded
  · intro waiting dead
    have notClosed : ¬ (dependents cancelledAt).OpenDescendant tasks [root]
        child := by
      intro descendant
      rw [if_pos descendant] at waiting
      cases waiting
    rw [if_neg notClosed] at waiting
    by_cases descendant :
        (dependents cancelledAt).OpenDescendant tasks [root] parent
    · exact absurd (.step found waiting named descendant) notClosed
    · simp only [if_neg descendant] at dead
      rcases List.mem_cons.mp (edge.waits waiting dead) with isRoot | isOther
      · exact absurd (.child found waiting named
          (List.mem_singleton.mpr isRoot)) notClosed
      · exact isOther

theorem Closed.cancelAllDescendants
    {tasks : Table TaskRow} {roots : List Nat}
    (closed : Closed roots tasks) (cancelledAt : Time) :
    Closed [] (TaskRepository.cancelAllDescendants tasks cancelledAt roots)
    := by
  induction roots generalizing tasks with
  | nil => exact closed
  | cons root rest induction =>
      exact induction (closed.cancelDescendants cancelledAt)

/-! ## The actions -/

/-- The change of one row, with the root it may leave. -/
theorem Closed.modify
    {tasks : Table TaskRow} {key : Nat} {row : TaskRow} {change : Change}
    (closed : Closed [] tasks) (found : tasks.get key = some row)
    (enabled : change.enabled row)
    (notRetry : ∀ now, change ≠ .manualRetry now)
    (claims : ∀ workerId claimedAt, change = .claim workerId claimedAt →
      dependencySucceeded tasks row = true) :
    Closed
      (if isDead (change.values row).status && !isDead row.status then [key]
        else [])
      (tasks.modify key change.values) := by
  have rewrites : changes.Rewrites
      (fun other kind before =>
        other = key ∧ kind = change ∧ before = row)
      tasks (tasks.modify key change.values) := by
    refine .of_updateWhere fun other before foundOther same => ?_
    rw [beq_iff_eq] at same
    subst same
    rw [found, Option.some.injEq] at foundOther
    subst foundOther
    exact ⟨change, enabled, ⟨rfl, rfl, rfl⟩, rfl⟩
  refine closed.of_rewrites rewrites ?_ ?_ ?_
  · rintro other now before ⟨-, isRetry, -⟩
    exact notRetry now isRetry.symm
  · rintro other workerId claimedAt before ⟨-, isClaim, rfl⟩
    exact claims workerId claimedAt isClaim.symm
  · rintro child childRow parent parentRow - - - foundParent alive
      ⟨after, foundAfter, dead⟩
    by_cases same : parent = key
    · subst same
      rw [found, Option.some.injEq] at foundParent
      subst foundParent
      rw [Table.get_modify_self, found, Option.map_some,
        Option.some.injEq] at foundAfter
      subst foundAfter
      rw [dead, alive, Bool.not_false, Bool.and_self, if_pos rfl]
      exact List.mem_singleton.mpr rfl
    · rw [Table.get_modify_of_ne _ _ same, foundParent,
        Option.some.injEq] at foundAfter
      subst foundAfter
      rw [alive] at dead
      cases dead

/-! ## Every action -/

theorem Closed.write
    {tasks : Table TaskRow} (closed : Closed [] tasks) (taskId : Nat)
    (workerId : String) (write : Write) :
    Closed [] (write.perform tasks taskId workerId).2 := by
  by_cases owned : ∃ row, tasks.get taskId = some row ∧
      ownedBy taskId workerId taskId row = true
  · rcases owned with ⟨row, found, owned⟩
    have running := ((ownedBy_eq_true_iff _ _ _ _).mp owned).2.1
    have updated := closed.modify found (write.enabled_change running)
      (by rintro now isRetry; cases write <;> cases isRetry)
      (by rintro _ _ isClaim; cases write <;> cases isClaim)
    rw [show isDead row.status = false by rw [running]; rfl] at updated
    rcases write.perform_of_owned found owned with
      ⟨performed, alive⟩ | ⟨dead, cancelledAt, performed⟩
    · rw [alive, Bool.false_and, if_neg Bool.false_ne_true] at updated
      rw [performed]
      exact updated
    · rw [dead, Bool.not_false, Bool.and_self, if_pos rfl] at updated
      rw [performed]
      exact updated.cancelDescendants cancelledAt
  · have rejected := write.perform_of_not_owned fun row found =>
      Bool.eq_false_iff.mpr fun isOwner => owned ⟨row, found, isOwner⟩
    rw [rejected]
    exact closed

theorem Closed.requestCancel
    {tasks : Table TaskRow} (closed : Closed [] tasks) (taskId : Nat)
    (requestedAt : Time) :
    Closed [] (TaskRepository.requestCancel tasks taskId requestedAt).2 := by
  have rewrites : changes.Rewrites
      (fun _ change _ => change = .requestCancel requestedAt) tasks
      (tasks.updateWhere
        (fun key row => key == taskId && isUnfinished row.status)
        (requestCancelValues requestedAt)) := by
    refine .of_updateWhere fun key row _ matched => ?_
    rw [Bool.and_eq_true] at matched
    exact ⟨.requestCancel requestedAt, matched.2, rfl, rfl⟩
  have updated := fun (roots : List Nat) =>
    @Closed.of_rewrites _ _ _ roots closed rewrites
      (by rintro key now row ⟨⟩) (by rintro key workerId claimedAt row ⟨⟩)
  simp only [TaskRepository.requestCancel]
  split
  · apply Closed.cancelDescendants
    apply updated
    rintro child row parent parentRow - - - foundParent alive
      ⟨dead, foundDead, isDeadNow⟩
    rw [Table.get_updateWhere, foundParent, Option.map_some,
      Option.some.injEq] at foundDead
    subst foundDead
    by_cases isTask : parent = taskId
    · exact List.mem_singleton.mpr isTask
    · simp [isTask, alive] at isDeadNow
  · next notCancelled =>
      apply updated
      rintro child row parent parentRow - - - foundParent alive
        ⟨dead, foundDead, isDeadNow⟩
      rw [Table.get_updateWhere, foundParent, Option.map_some,
        Option.some.injEq] at foundDead
      subst foundDead
      -- A task which is dead now was waiting, and `CANCELLED` is returned.
      split at isDeadNow
      · next matched =>
          simp only [Bool.and_eq_true, beq_iff_eq] at matched
          rcases matched with ⟨rfl, unfinished⟩
          refine absurd ?_ notCancelled
          simp only [foundParent, Option.filter_some, unfinished, if_true,
            Option.map_some, Option.some.injEq]
          by_cases running : parentRow.status = .running
          · simp [requestCancelValues, running, isDead] at isDeadNow
          · simp [requestCancelValues, running]
      · rw [alive] at isDeadNow
        cases isDeadNow

/-- What `request_cancel_run` does to one row. -/
theorem status_requestCancelRun
    {tasks : Table TaskRow} {runId key : Nat} {requestedAt : Time}
    {row row' : TaskRow} (found : tasks.get key = some row)
    (found' : (TaskRepository.requestCancelRun tasks runId
      requestedAt).2.get key = some row') :
    row'.status =
      if row.runId = some runId ∧ isWaiting row.status = true then .cancelled
      else row.status := by
  simp only [TaskRepository.requestCancelRun, Table.get_updateWhere, found,
    Option.map_some, Option.some.injEq] at found'
  subst found'
  by_cases waiting : row.runId = some runId ∧ isWaiting row.status = true
  · simp [waiting, cancelRunWaitingValues]
  · have unmatched :
        (row.runId == some runId && isWaiting row.status) = false := by
      simpa using waiting
    rw [if_neg waiting, unmatched, if_neg Bool.false_ne_true]
    split <;> rfl

/-- A Run and the tasks below its tasks are cancelled together. -/
theorem Closed.requestCancelRun
    {tasks : Table TaskRow} (closed : Closed [] tasks) (runId : Nat)
    (requestedAt : Time) :
    Closed [] (TaskRepository.requestCancelRun tasks runId requestedAt).2 := by
  have rewrites := rewrites_requestCancelRun tasks runId requestedAt
  refine closed.of_rewrites rewrites ?_ ?_ ?_
  · rintro key now row impossible
    cases impossible
  · rintro key workerId claimedAt row impossible
    cases impossible
  · rintro child row' parent parentRow found' named waiting foundParent alive
      ⟨dead, foundDead, isDeadNow⟩
    rcases rewrites.origin found' with ⟨row, found, chain⟩
    have same := fixedColumns_of_chain chain
    simp only [fixedColumns, Prod.mk.injEq] at same
    rcases closed child parent row found (by rw [← same.2.2.2.2.2.1, named])
      with ⟨other, foundOther, edge⟩
    rw [foundParent, Option.some.injEq] at foundOther
    subst foundOther
    rw [status_requestCancelRun foundParent foundDead] at isDeadNow
    rw [status_requestCancelRun found found'] at waiting
    split at isDeadNow
    · next cancelled =>
        rw [edge.sameRun] at cancelled
        split at waiting
        · cases waiting
        · next unmatched => exact absurd ⟨cancelled.1, waiting⟩ unmatched
    · rw [alive] at isDeadNow
      cases isDeadNow

theorem Closed.recoverStale
    {tasks : Table TaskRow} (closed : Closed [] tasks)
    (staleBefore recoveredAt : Time) :
    Closed [] (TaskRepository.recoverStale tasks staleBefore recoveredAt).2
    := by
  simp only [TaskRepository.recoverStale]
  refine Closed.cancelAllDescendants ?_ recoveredAt
  have rewrites : changes.Rewrites
      (fun _ change _ => change = .recover recoveredAt) tasks
      (tasks.updateWhere (fun _ row => isStale staleBefore row)
        (recoverValues recoveredAt)) := by
    refine .of_updateWhere fun key row _ stale => ?_
    simp only [isStale, Bool.and_eq_true, beq_iff_eq] at stale
    exact ⟨.recover recoveredAt, stale.1, rfl, rfl⟩
  refine closed.of_rewrites rewrites ?_ ?_ ?_
  · rintro key now row ⟨⟩
  · rintro key workerId claimedAt row ⟨⟩
  · rintro child row parent parentRow - - - foundParent alive
      ⟨dead, foundDead, isDeadNow⟩
    rw [Table.get_updateWhere, foundParent, Option.map_some,
      Option.some.injEq] at foundDead
    subst foundDead
    simp only [List.mem_map, List.mem_filter, Prod.exists,
      Table.mem_select_iff]
    by_cases stale : isStale staleBefore parentRow = true
    · rw [if_pos stale] at isDeadNow
      refine ⟨parent, parentRow, ⟨⟨foundParent, stale⟩, ?_⟩, rfl⟩
      by_contra notTerminal
      simp [recoverValues, notTerminal, isDead] at isDeadNow
    · rw [if_neg stale, alive] at isDeadNow
      cases isDeadNow

/-- A claim takes a task whose dependency has succeeded. -/
theorem Closed.claimNext
    {tasks tasks' : Table TaskRow} {workerClass : WorkerClass}
    {workerId : String} {claimedAt : Time} {itemConcurrency : Option Nat}
    {claimed : Option Nat} (closed : Closed [] tasks)
    (claims : TaskRepository.claimNext tasks workerClass workerId claimedAt
      itemConcurrency = .ok (claimed, tasks')) :
    Closed [] tasks' := by
  rcases claimNext_cases claims with ⟨candidate, after⟩
  cases claimed with
  | none =>
      rw [after]
      exact closed
  | some key =>
      rcases eligible_of_claimCandidate candidate.symm with
        ⟨row, found, meets⟩
      rcases (eligible_eq_true_iff _ _ _ _ _).mp meets with
        ⟨waiting, -, noCancel, -, succeeded, -⟩
      have updated := closed.modify found
        (show (Change.claim workerId claimedAt).enabled row from
          ⟨waiting, noCancel⟩)
        (by rintro now ⟨⟩) (by rintro _ _ -; exact succeeded)
      rw [after]
      exact updated

/-- New tasks depend on new tasks of the same Run, which wait as well. -/
theorem Closed.inserts
    {tasks tasks' : Table TaskRow} (closed : Closed [] tasks)
    (kept : ∀ {key : Nat} {row : TaskRow}, tasks.get key = some row →
      tasks'.get key = some row)
    (new : ∀ {key : Nat} {row : TaskRow}, tasks.get key = none →
      tasks'.get key = some row → row.status = .queued ∧
        ∀ parent, row.dependsOnTaskId = some parent →
          ∃ parentRow, tasks'.get parent = some parentRow ∧
            parentRow.status = .queued ∧ parentRow.runId = row.runId) :
    Closed [] tasks' := by
  intro child parent row found named
  cases foundBefore : tasks.get child with
  | some old =>
      have same := kept foundBefore
      rw [found, Option.some.injEq] at same
      subst same
      rcases closed child parent row foundBefore named with
        ⟨parentRow, foundParent, edge⟩
      exact ⟨parentRow, kept foundParent, edge⟩
  | none =>
      rcases new foundBefore found with ⟨queued, dependency⟩
      rcases dependency parent named with
        ⟨parentRow, foundParent, parentQueued, sameRun⟩
      refine ⟨parentRow, foundParent, sameRun, ?_, ?_⟩
      · simp [queued, hasStarted]
      · simp [parentQueued, isDead]

theorem Closed.insert
    {tasks : Table TaskRow} {row : TaskRow} (closed : Closed [] tasks)
    (queued : row.status = .queued) (free : row.dependsOnTaskId = none) :
    Closed [] (tasks.insert row) := by
  have extended : Extends
      (fun _ row => row.status = .queued ∧ row.dependsOnTaskId = none)
      tasks (tasks.insert row) := .insert tasks ⟨queued, free⟩
  apply closed.inserts extended.kept
  intro key row missing found
  rcases extended.new missing found with ⟨queued, free⟩
  refine ⟨queued, fun parent named => ?_⟩
  rw [free] at named
  cases named

theorem Closed.enqueuePipeline
    {tasks : Table TaskRow} (closed : Closed [] tasks) (targetId : Nat)
    (runId : Option Nat) (workId : String) (maxAttempts : Nat) :
    Closed [] (Tasks.enqueuePipeline tasks targetId runId workId
      maxAttempts).2 := by
  have extended :=
    enqueuePipeline_extends tasks targetId runId workId maxAttempts
  apply closed.inserts extended.kept
  intro key row missing found
  have isTask := extended.new missing found
  refine ⟨isTask.fresh.status, fun parent named => ?_⟩
  rcases isTask.dependency named with ⟨parentMissing, parentRow, foundParent, -⟩
  refine ⟨parentRow, foundParent,
    (extended.new parentMissing foundParent).fresh.status, ?_⟩
  rw [(enqueuePipeline_columns parentMissing foundParent).1,
    (enqueuePipeline_columns missing found).1]

/-- Every method but the manual retry keeps the relation closed. -/
theorem closed_step
    {tasks tasks' : Table TaskRow} {action : Action}
    (closed : Closed [] tasks)
    (notRetry : ∀ taskId now, action ≠ .retry taskId now)
    (taken : step tasks action = some tasks') :
    Closed [] tasks' := by
  cases action with
  | retry taskId now => exact absurd rfl (notRetry taskId now)
  | claimNext workerClass workerId claimedAt itemConcurrency =>
      rcases claims_of_step taken with ⟨claimed, claims⟩
      exact closed.claimNext claims
  | enqueuePipeline targetId runId workId maxAttempts =>
      rcases taken
      exact closed.enqueuePipeline targetId runId workId maxAttempts
  | write taskId workerId write =>
      rcases taken
      exact closed.write taskId workerId write
  | requestCancel taskId requestedAt =>
      rcases taken
      exact closed.requestCancel taskId requestedAt
  | requestCancelRun runId requestedAt =>
      rcases taken
      exact closed.requestCancelRun runId requestedAt
  | recoverStale staleBefore recoveredAt =>
      rcases taken
      exact closed.recoverStale staleBefore recoveredAt
  | enqueue =>
      rcases taken
      exact closed.insert rfl rfl
  | createTestTask =>
      rcases taken
      exact closed.insert rfl rfl
  | writeProgress taskId progress =>
      rcases taken
      cases found : tasks.get taskId with
      | none =>
          have unchanged : ∀ values, tasks.modify taskId values = tasks := by
            intro values
            refine Table.updateWhere_eq_self values fun key row other => ?_
            rw [beq_eq_false_iff_ne]
            rintro rfl
            rw [found] at other
            cases other
          simp only [TaskRepository.writeProgress, unchanged]
          exact closed
      | some row =>
          have updated := @Closed.modify _ taskId row
            (.payload (patchedFields (row.payloadJson.getD [])
              [("progress", .obj progress)]))
            closed found trivial (by rintro now ⟨⟩) (by rintro _ _ ⟨⟩)
          rw [show isDead ((Change.payload _).values row).status =
            isDead row.status from rfl, Bool.and_not_self,
            if_neg Bool.false_ne_true] at updated
          have written :
              (TaskRepository.writeProgress tasks taskId progress none).2 =
                tasks.modify taskId
                  (Change.payload (patchedFields (row.payloadJson.getD [])
                    [("progress", .obj progress)])).values := by
            simp only [TaskRepository.writeProgress]
            apply Table.modify_congr found
            rfl
          rw [written]
          exact updated

/-! ## Every run -/

/-- Waiting tasks in chains and trees of any shape, each tree in one Run. -/
structure Enqueued (tasks : Table TaskRow) : Prop where
  waiting {key : Nat} {row : TaskRow} (found : tasks.get key = some row) :
    isWaiting row.status = true
  dependency {child parent : Nat} {row : TaskRow}
    (found : tasks.get child = some row)
    (named : row.dependsOnTaskId = some parent) :
    ∃ parentRow, tasks.get parent = some parentRow ∧
      parentRow.runId = row.runId

theorem Enqueued.closed {tasks : Table TaskRow}
    (enqueued : Enqueued tasks) : Closed [] tasks := by
  intro child parent row found named
  rcases enqueued.dependency found named with
    ⟨parentRow, foundParent, sameRun⟩
  refine ⟨parentRow, foundParent, sameRun, ?_, ?_⟩
  · intro started
    have waiting := enqueued.waiting found
    revert started waiting
    cases row.status <;> simp [isWaiting, hasStarted]
  · intro _ dead
    have waiting := enqueued.waiting foundParent
    revert dead waiting
    cases parentRow.status <;> simp [isWaiting, isDead]

/--
After every run without a manual retry no waiting task has a dead task above
it, and a task which runs or succeeded has a succeeded dependency.
-/
theorem dependency_relation_closed
    {start tasks : Table TaskRow} (enqueued : Enqueued start)
    (steps : Steps step
      (fun _ action => ∀ taskId now, action ≠ .retry taskId now)
      start tasks) :
    (∀ key row ancestor ancestorRow, tasks.get key = some row →
      isWaiting row.status = true →
        DependsOnTransitively tasks key ancestor →
          tasks.get ancestor = some ancestorRow →
            isDead ancestorRow.status = false) ∧
    ∀ key row parent, tasks.get key = some row →
      row.status = .running ∨ row.status = .succeeded →
        row.dependsOnTaskId = some parent →
          ∃ parentRow, tasks.get parent = some parentRow ∧
            parentRow.status = .succeeded := by
  have closed : Closed [] tasks :=
    steps.invariant (Closed []) enqueued.closed
      fun _ _ _ closed notRetry taken => closed_step closed notRetry taken
  constructor
  · intro key row ancestor ancestorRow found waiting below foundAncestor
    have alive : isDead row.status = false := by
      revert waiting
      cases row.status <;> simp [isWaiting, isDead]
    rcases closed.not_dead_above below found alive with
      ⟨other, foundOther, aliveAncestor⟩
    rw [foundAncestor, Option.some.injEq] at foundOther
    subst foundOther
    exact aliveAncestor
  · intro key row parent found status named
    rcases closed key parent row found named with
      ⟨parentRow, foundParent, edge⟩
    refine ⟨parentRow, foundParent, edge.ran ?_⟩
    rcases status with running | succeeded
    · rw [running]
      rfl
    · rw [succeeded]
      rfl

/-- A tree of three levels: one task, two below it and one below these. -/
def waitingTree : Table TaskRow :=
  let row (dependsOnTaskId : Option Nat) : TaskRow :=
    { type := .noop, targetRefType := "phase6_test", targetRefId := 0
      workerClass := .compute, dependsOnTaskId }
  (((Table.empty.insert (row none)).insert (row (some 1))).insert
    (row (some 1))).insert (row (some 2))

/-- The top task fails for good, and nothing waits below it. -/
theorem dependency_relation_closed_waitingTree :
    ∃ tasks row, run step waitingTree
        [.claimNext .compute "worker" 0 none,
          .write 1 "worker" (.failed none 1)] = some tasks ∧
      tasks.get 4 = some row ∧ row.status = .cancelled ∧
      ∀ key row ancestor ancestorRow, tasks.get key = some row →
        isWaiting row.status = true →
          DependsOnTransitively tasks key ancestor →
            tasks.get ancestor = some ancestorRow →
              isDead ancestorRow.status = false := by
  have enqueued : Enqueued waitingTree := by
    constructor
    · intro key row found
      rw [Table.get_eq_some_iff] at found
      simp only [waitingTree, Table.insert, Table.empty, List.nil_append, List.cons_append,
        List.mem_cons, Prod.mk.injEq, List.not_mem_nil, or_false] at found
      rcases found with ⟨-, rfl⟩ | ⟨-, rfl⟩ | ⟨-, rfl⟩ | ⟨-, rfl⟩ <;> rfl
    · intro child parent row found named
      rw [Table.get_eq_some_iff] at found
      simp only [waitingTree, Table.insert, Table.empty, List.nil_append, List.cons_append,
        List.mem_cons, Prod.mk.injEq, List.not_mem_nil, or_false] at found
      rcases found with ⟨-, rfl⟩ | ⟨-, rfl⟩ | ⟨-, rfl⟩ | ⟨-, rfl⟩ <;>
        rcases named <;> exact ⟨_, rfl, rfl⟩
  refine ⟨_, _, rfl, rfl, rfl, ?_⟩
  exact (dependency_relation_closed enqueued
    (Steps.of_checked_run
      (fun _ action => !isRetry action)
      (fun _ action passed taskId now same => by
        rw [same] at passed
        cases passed)
      [.claimNext .compute "worker" 0 none,
        .write 1 "worker" (.failed none 1)] rfl)).1

end Sluicery.Tasks.Queue
