import Sluicery.Library.RowsMove
import Sluicery.System.Endings
import Sluicery.System.Unfinished

/-!
# What an event does to the row of a Target

A start takes a Target up or blocks it, the second part of a handler reports
a failure on it, a settlement, a recovery or a cancel reflects the end of a
task on it.  No event takes a Target back to a status before the pipeline,
and the item and the Profile of a Target never change.
-/

namespace Sluicery.System

open Sluicery.Library Sluicery.Library.Transition
open Sluicery.Db Sluicery.Db.TaskRepository
open Sluicery.Core Sluicery.Tasks Sluicery.Tasks.Handlers

/-! ## Rows of Targets -/

/-- The same Target with a status and a number of retries. -/
structure Becomes (row row' : TargetRow) (status : TargetStatus)
    (retryCount : Nat) : Prop where
  itemId : row'.itemId = row.itemId
  playlistProfileId : row'.playlistProfileId = row.playlistProfileId
  status : row'.status = status
  retryCount : row'.retryCount = retryCount

/-- The same Target with the same status and retries. -/
abbrev Kept (row row' : TargetRow) : Prop :=
  Becomes row row' row.status row.retryCount

theorem Becomes.refl (row : TargetRow) : Kept row row :=
  ⟨rfl, rfl, rfl, rfl⟩

theorem Becomes.kept
    {row row' row'' : TargetRow} {status : TargetStatus} {retryCount : Nat}
    (becomes : Becomes row row' status retryCount)
    (kept : Kept row' row'') : Becomes row row'' status retryCount :=
  ⟨kept.itemId.trans becomes.itemId,
    kept.playlistProfileId.trans becomes.playlistProfileId,
    kept.status.trans becomes.status,
    kept.retryCount.trans becomes.retryCount⟩

theorem becomes_statusValues
    (row : TargetRow) (status : TargetStatus)
    (error blockedReason : Option String) (incrementRetry : Bool)
    (now : Time) :
    Becomes row (TargetRepository.statusValues status error blockedReason
        incrementRetry now row)
      status (row.retryCount + if incrementRetry then 1 else 0) := by
  constructor
  · rfl
  · rfl
  · rfl
  · simp only [TargetRepository.statusValues]
    split <;> rfl

/-- A Target which has moved, and nothing else. -/
theorem rowsMove_of_moved
    {change : Nat → TargetRow → TargetRow → Prop}
    {before after : Table TargetRow} {targetId : Nat} {row : TargetRow}
    {status : TargetStatus}
    (reflexive : ∀ targetId row, change targetId row row)
    (moved : Moved targetId row status before after)
    (found : before.get targetId = some row)
    (changes : ∀ row', Becomes row row' status row.retryCount →
      change targetId row row') :
    RowsMove change before after where
  kept {key other} foundOther := by
    by_cases same : key = targetId
    · subst same
      rw [found, Option.some.injEq] at foundOther
      subst foundOther
      rcases moved.target with
        ⟨row', found', isStatus, itemId, profile, retries, -⟩
      exact ⟨row', found', changes row' ⟨itemId, profile, isStatus, retries⟩⟩
    · rw [moved.others same]
      exact ⟨other, foundOther, reflexive _ _⟩
  absent {key} missing := by
    by_cases same : key = targetId
    · subst same
      rw [found] at missing
      cases missing
    · rw [moved.others same, missing]

/-! ## The sync after a task -/

/-- The status which the sync leaves. -/
def syncedStatus (taskStatus : TaskStatus) (failedAttempt : Bool)
    (status : TargetStatus) : TargetStatus :=
  match taskStatus with
  | .unavailable =>
      if (failedAttempt ∧ status = .failed) ∨ status ∈ activeStatuses then
        .unavailable
      else status
  | .cancelled => if status ∈ activeStatuses then .failed else status
  | .blocked =>
      if status ∈ activeStatuses.erase .blocked then .blocked else status
  | .pending =>
      if failedAttempt ∧ status ∈ activeStatuses.erase .blocked then .failed
      else status
  | _ => status

/-- The retries which the sync adds. -/
def syncedRetries (taskStatus : TaskStatus) (failedAttempt : Bool)
    (status : TargetStatus) : Nat :=
  match taskStatus with
  | .unavailable =>
      if failedAttempt ∧ status ∈ activeStatuses then 1 else 0
  | .pending =>
      if failedAttempt ∧ status ∈ activeStatuses.erase .blocked then 1
      else 0
  | _ => 0

/-- What the sync does to its Target. -/
def Synced (taskStatus : TaskStatus) (failedAttempt : Bool)
    (row row' : TargetRow) : Prop :=
  Becomes row row' (syncedStatus taskStatus failedAttempt row.status)
    (row.retryCount + syncedRetries taskStatus failedAttempt row.status)

/-- The task works on the Target. -/
def namesTarget (targetId : Nat) (row : TaskRow) : Bool :=
  row.targetRefType == "target" && row.targetRefId == targetId

theorem namesTarget_iff (targetId : Nat) (row : TaskRow) :
    namesTarget targetId row = true ↔
      row.targetRefType = "target" ∧ row.targetRefId = targetId := by
  rw [namesTarget, Bool.and_eq_true, beq_iff_eq, beq_iff_eq]

/-- The compare-and-set, row by row. -/
private theorem rowsMove_update
    (targets : Table TargetRow) (targetId : Nat)
    (expected : List TargetStatus) (status : TargetStatus)
    (error blockedReason : Option String) (incrementRetry : Bool)
    (now : Time) :
    RowsMove (fun key row row' =>
        if key = targetId then
          Becomes row row'
            (if row.status ∈ expected then status else row.status)
            (row.retryCount +
              if incrementRetry = true ∧ row.status ∈ expected then 1 else 0)
        else row' = row)
      targets (TargetRepository.compareAndSetStatus targets targetId
        expected status error blockedReason incrementRetry now).2 where
  kept {key row} found := by
    rw [TargetRepository.get_compareAndSetStatus, found, Option.map_some]
    refine ⟨_, rfl, ?_⟩
    by_cases isTarget : key = targetId
    · rw [if_pos isTarget]
      by_cases isExpected : row.status ∈ expected
      · simpa [isTarget, isExpected] using becomes_statusValues row status
          error blockedReason incrementRetry now
      · simpa [isTarget, isExpected] using Becomes.refl row
    · rw [if_neg isTarget, if_neg fun matched => isTarget matched.1]
  absent {key} missing := by
    rw [TargetRepository.get_compareAndSetStatus, missing, Option.map_none]

/-- The sync, exactly. -/
theorem rowsMove_sync
    (targets : Table TargetRow) (task : TaskRow) (taskStatus : TaskStatus)
    (error : Option String) (failedAttempt : Bool) (now : Time) :
    RowsMove (fun targetId row row' =>
        if namesTarget targetId task then
          Synced taskStatus failedAttempt row row'
        else row' = row)
      targets (syncTargetAfterTask targets task taskStatus error
        failedAttempt now).2 := by
  have unsynced : (∀ status, syncedStatus taskStatus failedAttempt status =
        status ∧ syncedRetries taskStatus failedAttempt status = 0) →
      RowsMove (fun targetId row row' =>
        if namesTarget targetId task then
          Synced taskStatus failedAttempt row row'
        else row' = row) targets targets := by
    intro same
    apply RowsMove.refl
    intro key row
    split
    · rw [Synced, (same _).1, (same _).2]
      exact .refl row
    · rfl
  by_cases isTarget : task.targetRefType = "target"
  case neg =>
    simp only [syncTargetAfterTask, isTarget, ne_eq, not_false_eq_true,
      if_true]
    exact .refl (fun key row => by simp [namesTarget, isTarget]) _
  have isNamed : ∀ key, namesTarget key task = true ↔
      key = task.targetRefId := by
    intro key
    rw [namesTarget_iff, and_iff_right isTarget, eq_comm]
  have updated : ∀ {after : Table TargetRow} {expected status lastError
      blockedReason incrementRetry},
      after = (TargetRepository.compareAndSetStatus targets
        task.targetRefId expected status lastError blockedReason
        incrementRetry now).2 →
      (∀ row, targets.get task.targetRefId = some row →
        syncedStatus taskStatus failedAttempt row.status =
            (if row.status ∈ expected then status else row.status) ∧
          syncedRetries taskStatus failedAttempt row.status =
            if incrementRetry = true ∧ row.status ∈ expected then 1
            else 0) →
      RowsMove (fun targetId row row' =>
        if namesTarget targetId task then
          Synced taskStatus failedAttempt row row'
        else row' = row) targets after := by
    rintro _ expected status lastError blockedReason incrementRetry rfl agrees
    apply (rowsMove_update targets task.targetRefId expected status
      lastError blockedReason incrementRetry now).weaken
    intro key row row' found changes
    rw [if_congr (isNamed key) rfl rfl]
    split at changes
    · next same =>
        subst same
        rw [if_pos rfl, Synced, (agrees row found).1, (agrees row found).2]
        exact changes
    · next other =>
        rw [if_neg other]
        exact changes
  simp only [syncTargetAfterTask, isTarget, ne_eq, not_true_eq_false,
    if_false]
  cases taskStatus with
  | unavailable =>
      dsimp only
      split
      · next failed =>
          apply updated rfl
          intro row found
          obtain ⟨other, foundOther, isFailed⟩ :=
            (TargetRepository.compareAndSetStatus_accepted _ _ _ _ _ _ _
              _).mp failed.2
          rw [found, Option.some.injEq] at foundOther
          subst foundOther
          rw [List.mem_singleton] at isFailed
          simp [syncedStatus, syncedRetries, isFailed, failed.1,
            activeStatuses]
      · next notFailed =>
          apply updated rfl
          intro row found
          have unfailed : ¬ (failedAttempt = true ∧ row.status = .failed) := by
            rintro ⟨attempt, isFailed⟩
            refine notFailed ⟨attempt, ?_⟩
            rw [TargetRepository.compareAndSetStatus_accepted]
            exact ⟨row, found, List.mem_singleton.mpr isFailed⟩
          simp [syncedStatus, syncedRetries, unfailed]
  | cancelled => exact updated rfl fun row _ => ⟨rfl, by simp [syncedRetries]⟩
  | blocked => exact updated rfl fun row _ => ⟨rfl, by simp [syncedRetries]⟩
  | pending =>
      dsimp only
      split
      · next attempt =>
          exact updated rfl fun row _ => by
            simp [syncedStatus, syncedRetries, attempt]
      · next attempt =>
          exact unsynced fun status => by
            simp [syncedStatus, syncedRetries, attempt]
  | _ => exact unsynced fun _ => ⟨rfl, rfl⟩

/-! ## Handlers -/

/-- A start takes the Target to a stage, or blocks it. -/
def Advances (row row' : TargetRow) : Prop :=
  ∃ status, Becomes row row' status row.retryCount ∧
    (status = row.status ∨ status = .blocked ∨
      canAdvance row.status status = true ∧
        (isInProgress status = true ∨ status = .downloaded) ∧
        status ≠ .queued)

theorem Advances.refl (row : TargetRow) : Advances row row :=
  ⟨row.status, .refl row, Or.inl rfl⟩

section Handlers

variable (db : Database) (now : Time)

theorem rowsMove_advanceFor
    (targetId : Nat) {status : TargetStatus} (failure : String)
    (work : Work)
    (isStage : status = .downloading ∨ status = .processing ∨
      status = .downloaded) :
    RowsMove (fun _ => Advances) db.target
      (advanceFor db targetId status now failure work).2.target := by
  have known : advanceOrder.contains status = true := by
    rcases isStage with rfl | rfl | rfl <;> rfl
  rcases advanceFor_cases db now targetId failure work known with
    ⟨row, found, advances, -, moved⟩ | ⟨-, same⟩
  · apply rowsMove_of_moved (fun _ => Advances.refl) moved found
    intro row' becomes
    refine ⟨status, becomes, Or.inr (Or.inr ⟨advances, ?_⟩)⟩
    rcases isStage with rfl | rfl | rfl <;> decide
  · exact .of_eq (fun _ => Advances.refl) same

/-- A transition at the end of a handler, of one Target. -/
theorem rowsMove_transitionThen
    {change : Nat → TargetRow → TargetRow → Prop}
    (targetId : Nat) (status : TargetStatus)
    (error blockedReason : Option String) (incrementRetry : Bool)
    (result : TaskResult)
    (reflexive : ∀ key row, change key row row)
    (changes : ∀ row row', Becomes row row' status
        (row.retryCount + if incrementRetry then 1 else 0) →
      change targetId row row') :
    RowsMove change db.target (transitionThen db targetId status error
      blockedReason incrementRetry now result).2.target := by
  unfold transitionThen
  split
  · exact .refl reflexive _
  · next transition =>
      rcases transitionTarget_ok transition with ⟨row, found, -, rfl⟩
      exact .modify _ reflexive fun row _ =>
        changes _ _ (becomes_statusValues _ _ _ _ _ _)

omit db in
theorem rowsMove_setDownloadedAt
    (targets : Table TargetRow) (targetId : Nat) :
    RowsMove (fun _ => Kept) targets
      (setDownloadedAt targets targetId now) :=
  .updateWhere _ (fun _ => .refl) fun _ _ _ _ => ⟨rfl, rfl, rfl, rfl⟩

/-- An INDEX handler downloads its Target and sets the time. -/
theorem rowsMove_indexAdvance (artifact : ArtifactRow) (work : Work) :
    RowsMove (fun _ => Advances) db.target
      (indexAdvance db artifact work now).2.target := by
  have advanced := rowsMove_advanceFor
    { db with
      artifact :=
        (ArtifactRepository.createSourceIfMissing db.artifact artifact).2 }
    now work.targetId "Targetをdownloadedへ遷移できません"
    { work with
      artifactId :=
        (ArtifactRepository.createSourceIfMissing db.artifact artifact).1 }
    (Or.inr (Or.inr rfl))
  unfold indexAdvance
  dsimp only
  split
  · dsimp only [setDownloadedAt]
    refine .trans ?_ advanced (rowsMove_setDownloadedAt now _ _)
    rintro key row row' row'' ⟨status, becomes, reached⟩ same
    exact ⟨status, becomes.kept same, reached⟩
  · exact advanced

theorem rowsMove_startHandler
    {execution : Execution} {parseDatetime : String → Option Time}
    {started : Started × Database}
    (starts : startHandler db execution parseDatetime now = some started) :
    RowsMove (fun _ => Advances) db.target started.2.target := by
  have same : RowsMove (fun _ => Advances) db.target db.target :=
    .refl (fun _ => .refl) _
  unfold startHandler at starts
  dsimp only at starts
  split at starts
  · obtain rfl := Option.some.inj starts
    unfold discoverStart discoverFailed
    dsimp only
    split
    · split
      · simp only [finishRun_target]
        exact same
      · exact same
    · simp only [finishRun_target]
      exact same
  · obtain rfl := Option.some.inj starts
    unfold downloadStart
    split
    · dsimp only
      split
      · exact same
      · split
        · exact rowsMove_advanceFor _ _ _ _ _ (Or.inl rfl)
        · exact same
    · exact same
  · obtain rfl := Option.some.inj starts
    unfold verifyStart
    split
    · exact same
    · dsimp only
      split
      · exact same
      · exact rowsMove_advanceFor _ _ _ _ _ (Or.inr (Or.inl rfl))
  · obtain rfl := Option.some.inj starts
    exact same
  · obtain rfl := Option.some.inj starts
    unfold publishStart
    split
    · dsimp only
      split
      · exact same
      · split
        · -- Without a usable Storage the Target is blocked.
          rw [ended_target]
          exact rowsMove_transitionThen _ _ _ _ _ _ _ _
            (fun _ => Advances.refl)
            fun row row' becomes => ⟨.blocked, becomes, Or.inr (Or.inl rfl)⟩
        · exact rowsMove_advanceFor _ _ _ _ _ (Or.inr (Or.inl rfl))
    · exact same
  · obtain rfl := Option.some.inj starts
    unfold indexStart
    split
    · dsimp only
      split
      · exact same
      · split
        · exact rowsMove_indexAdvance _ _ _ _
        · exact same
    · exact same
  · cases starts

/-- The second part of a handler reports a failure on its Target. -/
def Reports (work : Work) (targetId : Nat) (row row' : TargetRow) : Prop :=
  Kept row row' ∨
    targetId = work.targetId ∧
      (Becomes row row' .failed (row.retryCount + 1) ∨
        Becomes row row' .unavailable row.retryCount ∨
        Becomes row row' .blocked row.retryCount)

theorem rowsMove_finishHandler
    {execution : Execution} {work : Work} {answer : Answer}
    {finished : Except String TaskResult × Database}
    (finishes :
      finishHandler db execution work now answer = some finished) :
    RowsMove (Reports work) db.target finished.2.target := by
  have reflexive : ∀ key row, Reports work key row row :=
    fun _ _ => Or.inl (.refl _)
  have same : RowsMove (Reports work) db.target db.target :=
    .refl reflexive _
  have failed : ∀ error result, RowsMove (Reports work) db.target
      (transitionThen db work.targetId .failed error none true now
        result).2.target := by
    intro error result
    exact rowsMove_transitionThen _ _ _ _ _ _ _ _ reflexive
      fun _ _ becomes => Or.inr ⟨rfl, Or.inl becomes⟩
  have downloadFailed : ∀ classification message reasonCode,
      RowsMove (Reports work) db.target (downloadFailure db work.targetId
        classification message reasonCode now).2.target := by
    intro classification message reasonCode
    cases classification with
    | ok => exact same
    | failed => exact failed _ _
    | unavailable =>
        exact rowsMove_transitionThen _ _ _ _ _ _ _ _ reflexive
          fun _ _ becomes => Or.inr ⟨rfl, Or.inr (Or.inl becomes)⟩
    | blocked =>
        exact rowsMove_transitionThen _ _ _ _ _ _ _ _ reflexive
          fun _ _ becomes => Or.inr ⟨rfl, Or.inr (Or.inr becomes)⟩
  have publishFailed : ∀ classification message,
      RowsMove (Reports work) db.target (publishFailure db work.targetId
        classification message now).2.target := by
    intro classification message
    cases classification with
    | failed => exact failed _ _
    | _ =>
        exact rowsMove_transitionThen _ _ _ _ _ _ _ _ reflexive
          fun _ _ becomes => Or.inr ⟨rfl, Or.inr (Or.inr becomes)⟩
  cases answer with
  | download answer =>
      simp only [finishHandler] at finishes
      split at finishes
      · obtain rfl := Option.some.inj finishes
        cases answer with
        | cancelled | file => exact same
        | _ => exact downloadFailed _ _ _
      · cases finishes
  | verify answer =>
      simp only [finishHandler] at finishes
      split at finishes
      · obtain rfl := Option.some.inj finishes
        unfold verifyFinish
        split
        · exact failed _ _
        · cases answer with
          | failed => exact failed _ _
          | _ => exact same
      · cases finishes
  | publish answer =>
      simp only [finishHandler] at finishes
      split at finishes
      · obtain rfl := Option.some.inj finishes
        unfold publishFinish
        split
        · exact publishFailed _ _
        · cases answer with
          | failed => exact publishFailed _ _
          | _ => exact same
      · cases finishes
  | index =>
      simp only [finishHandler] at finishes
      split at finishes
      · obtain rfl := Option.some.inj finishes
        exact same
      · cases finishes
  | discover answer =>
      simp only [finishHandler] at finishes
      split at finishes
      · obtain rfl := Option.some.inj finishes
        refine .of_eq reflexive ?_
        cases answer with
        | failed classification =>
            cases classification <;>
              simp [discoverFinish, discoverFailed, finishRun_target]
        | applied =>
            dsimp only [discoverFinish]
            split <;> rfl
        | _ => simp [discoverFinish, discoverFailed, finishRun_target]
      · cases finishes

end Handlers

/-! ## Recoveries and cancels -/

/-- Targets which have a reason leave the pipeline with a status. -/
def Leaves (reason : Nat → Prop) (status : TargetStatus) (targetId : Nat)
    (row row' : TargetRow) : Prop :=
  Kept row row' ∨
    reason targetId ∧ row.status ∈ activeStatuses ∧
      Becomes row row' status row.retryCount

section Leaves

variable {reason : Nat → Prop} {status : TargetStatus}

theorem Leaves.refl (targetId : Nat) (row : TargetRow) :
    Leaves reason status targetId row row :=
  Or.inl (.refl row)

theorem Leaves.trans
    (outside : status ∉ activeStatuses) (targetId : Nat)
    (row row' row'' : TargetRow)
    (first : Leaves reason status targetId row row')
    (second : Leaves reason status targetId row' row'') :
    Leaves reason status targetId row row'' := by
  rcases first with kept | ⟨isReason, active, becomes⟩
  · rcases second with kept' | ⟨isReason, active, becomes'⟩
    · exact Or.inl (kept.kept kept')
    · rw [kept.status] at active
      rw [kept.retryCount] at becomes'
      exact Or.inr ⟨isReason, active, becomes'.itemId.trans kept.itemId,
        becomes'.playlistProfileId.trans kept.playlistProfileId,
        becomes'.status, becomes'.retryCount⟩
  · rcases second with kept' | ⟨-, active', -⟩
    · exact Or.inr ⟨isReason, active, becomes.kept kept'⟩
    · exact absurd (becomes.status ▸ active') outside

theorem rowsMove_leaves_sync
    {taskStatus : TaskStatus}
    (leads : ∀ current, syncedStatus taskStatus false current =
        (if current ∈ activeStatuses then status else current) ∧
      syncedRetries taskStatus false current = 0)
    (targets : Table TargetRow) (task : TaskRow)
    (error : Option String) (now : Time)
    (isReason : ∀ targetId, namesTarget targetId task = true →
      reason targetId) :
    RowsMove (Leaves reason status) targets
      (syncTargetAfterTask targets task taskStatus error false now).2 := by
  apply (rowsMove_sync targets task taskStatus error false now).weaken
  intro targetId row row' _ synced
  split at synced
  · next names =>
      rw [Synced, (leads _).1, (leads _).2, Nat.add_zero] at synced
      split at synced
      · next active => exact Or.inr ⟨isReason _ names, active, synced⟩
      · exact Or.inl synced
  · rw [synced]
    exact .refl _ _

end Leaves

theorem rowsMove_syncUnavailable
    (targets : Table TargetRow) (task : TaskRow) (error : Option String)
    (now : Time) :
    RowsMove (Leaves (fun _ => True) .unavailable) targets
      (syncTargetAfterTask targets task .unavailable error false now).2 :=
  rowsMove_leaves_sync
    (fun _ => by simp [syncedStatus, syncedRetries]) _ _ _ _
    fun _ _ => trivial

theorem rowsMove_reapTasks
    (now : Time) (recovered : List Nat) (db : Database) :
    RowsMove (Leaves (fun _ => True) .unavailable) db.target
      (Worker.reapTasks now recovered db).target := by
  induction recovered generalizing db with
  | nil => exact .refl .refl _
  | cons taskId rest induction =>
      refine .trans (Leaves.trans (by decide)) ?_ (induction _)
      unfold Worker.reapTask
      split
      · exact .refl .refl _
      · split
        · exact rowsMove_syncUnavailable _ _ _ _
        · exact .refl .refl _

theorem rowsMove_syncCancelled
    {reason : Nat → Prop} (targets : Table TargetRow) (task : TaskRow)
    (now : Time)
    (isReason : ∀ targetId, namesTarget targetId task = true →
      reason targetId) :
    RowsMove (Leaves reason .failed) targets
      (Web.syncCancelled targets task now) :=
  rowsMove_leaves_sync
    (fun _ => by simp [syncedStatus, syncedRetries]) _ _ _ _ isReason

theorem rowsMove_syncCancelledTasks
    {reason : Nat → Prop} (now : Time) (tasks : List (Nat × TaskRow))
    (targets : Table TargetRow)
    (isReason : ∀ task ∈ tasks, ∀ targetId,
      namesTarget targetId task.2 = true → reason targetId) :
    RowsMove (Leaves reason .failed) targets
      (Web.syncCancelledTasks now tasks targets) := by
  induction tasks generalizing targets with
  | nil => exact .refl .refl _
  | cons task rest induction =>
      rw [List.forall_mem_cons] at isReason
      exact .trans (Leaves.trans (by decide))
        (rowsMove_syncCancelled targets task.2 now isReason.1)
        (induction _ isReason.2)

/-- The cancel reflects a cancelled task on the Target. -/
inductive Reflects (state : State) (targetId : Nat) : Event → Prop where
  | web {taskId : Nat} {task : TaskRow}
      (found : state.db.task.get taskId = some task)
      (ends : isWaiting task.status = true ∨ task.status = .cancelled)
      (names : namesTarget targetId task = true) :
      Reflects state targetId (.webCancelTask taskId)
  /-- With the cancelled tasks of its Run. -/
  | webRun {taskId other : Nat} {task otherTask : TaskRow}
      (found : state.db.task.get taskId = some task)
      (ends : isWaiting task.status = true ∨ task.status = .cancelled)
      (foundOther : state.db.task.get other = some otherTask)
      (sameRun : otherTask.runId = task.runId)
      (cancelled : otherTask.status = .cancelled)
      (names : namesTarget targetId otherTask = true) :
      Reflects state targetId (.webCancelTask taskId)
  | cli {taskId : Nat} {task : TaskRow}
      (found : state.db.task.get taskId = some task)
      (waits : isWaiting task.status = true)
      (names : namesTarget targetId task = true) :
      Reflects state targetId (.cliCancelTask taskId)
  | run {runId taskId : Nat} {task : TaskRow}
      (found : state.db.task.get taskId = some task)
      (inRun : task.runId = some runId)
      (ends : isWaiting task.status = true ∨ task.status = .cancelled)
      (names : namesTarget targetId task = true) :
      Reflects state targetId (.cancelRun runId)

/-- A task which a cancel has ended waited, for the task or below it. -/
theorem requestCancel_origin
    {tasks : Table TaskRow} {taskId key : Nat} {requestedAt : Time}
    {row' : TaskRow}
    (found' : (requestCancel tasks taskId requestedAt).2.get key =
      some row')
    (cancelled : row'.status = .cancelled) :
    ∃ row, tasks.get key = some row ∧
      fixedColumns row' = fixedColumns row ∧
      (row.status = .cancelled ∨
        isWaiting row.status = true ∧
          (key = taskId ∨ DependsOnTransitively tasks key taskId)) := by
  rcases (Queue.rewrites_requestCancel tasks taskId requestedAt).origin
      found' with ⟨row, found, chain⟩
  refine ⟨row, found, fixedColumns_of_chain chain, ?_⟩
  have traced := chain.invariant
    (fun other => other.status = row.status ∨
      other.status = .cancelled ∧ isWaiting row.status = true ∧
        (key = taskId ∨ DependsOnTransitively tasks key taskId))
    (Or.inl rfl) fun change other before enabled allowed => by
      -- A row which an earlier change has cancelled is not changed again.
      have same : isUnfinished other.status = true →
          other.status = row.status := by
        intro unfinished
        rcases before with same | ⟨isCancelled, -⟩
        · exact same
        · rw [isCancelled] at unfinished
          cases unfinished
      cases allowed with
      | requestCancel =>
          by_cases running : other.status = .running
          · refine Or.inl ?_
            simp [changes, Change.values, requestCancelValues, running,
              ← same (running ▸ rfl)]
          · refine Or.inr ⟨?_, ?_, Or.inl rfl⟩
            · simp [changes, Change.values, requestCancelValues, running]
            · rw [← same enabled]
              exact waiting_of_unfinished enabled running
      | cancelClose below =>
          refine Or.inr ⟨rfl, ?_, Or.inr below⟩
          rw [← same (unfinished_of_waiting enabled)]
          exact enabled
  rcases traced with same | ⟨-, waited⟩
  · exact Or.inl (same ▸ cancelled)
  · exact Or.inr waited

/-- So has the cancel of a Run, for the tasks of the Run. -/
theorem requestCancelRun_origin
    {tasks : Table TaskRow} {runId key : Nat} {requestedAt : Time}
    {row' : TaskRow}
    (found' : (requestCancelRun tasks runId requestedAt).2.get key =
      some row')
    (cancelled : row'.status = .cancelled) :
    ∃ row, tasks.get key = some row ∧
      fixedColumns row' = fixedColumns row ∧
      (row.status = .cancelled ∨ isWaiting row.status = true) := by
  rcases (Queue.rewrites_requestCancelRun tasks runId requestedAt).origin
      found' with ⟨row, found, chain⟩
  refine ⟨row, found, fixedColumns_of_chain chain, ?_⟩
  have traced := chain.invariant
    (fun other => other.status = row.status ∨
      other.status = .cancelled ∧ isWaiting row.status = true)
    (Or.inl rfl) fun change other before enabled allowed => by
      cases allowed with
      | cancelRunWaiting =>
          refine Or.inr ⟨rfl, ?_⟩
          rcases before with same | ⟨-, waited⟩
          · exact same ▸ enabled
          · exact waited
      | flag => exact before
  rcases traced with same | ⟨-, waited⟩
  · exact Or.inl (same ▸ cancelled)
  · exact Or.inr waited

end Sluicery.System
