import Sluicery.Db.TargetRepository

/-!
# The states of a Target

`transition_target` checks one transition against the table of allowed
transitions; `advance_target` walks a Target to the stage a handler works
in; `sync_target_after_task` reflects the end of a task on its Target.
-/

namespace Sluicery.Core

open Sluicery.Library Sluicery.Db

/-! ## Transitions -/

/-- The statuses in which a pipeline works on a Target. -/
def isInProgress : TargetStatus → Bool
  | .queued | .downloading | .processing => true
  | _ => false

/-- `TargetStatus.value`. -/
def targetStatusValue : TargetStatus → String
  | .pending => "pending"
  | .queued => "queued"
  | .downloading => "downloading"
  | .processing => "processing"
  | .downloaded => "downloaded"
  | .failed => "failed"
  | .unavailable => "unavailable"
  | .blocked => "blocked"
  | .missing => "missing"
  | .ignored => "ignored"

/-- The exceptions of this module; all but the last are caught by handlers. -/
inductive TransitionError where
  /-- A `LookupError`. -/
  | notFound (targetId : Nat)
  /-- An `InvalidStateTransition`, which is a `ValueError`. -/
  | invalid (message : String)
  /-- A `StateTransitionConflict`. -/
  | conflict (targetId : Nat)
deriving DecidableEq

/-- `_TARGET_NORMAL_TRANSITIONS`. -/
def normalTransitions : TargetStatus → List TargetStatus
  | .pending => [.queued]
  | .queued => [.downloading]
  | .downloading => [.processing]
  | .processing => [.downloaded]
  | .failed => [.pending]
  | .blocked => [.pending]
  | .downloaded => [.missing]
  | .unavailable => []
  | .missing => [.pending]
  | .ignored => []

/-- `_TARGET_ANY_TRANSITIONS`. -/
def anyTransitions : List TargetStatus :=
  [.failed, .unavailable, .blocked, .ignored]

/-- `transition_target`. -/
def transitionTarget (targets : Table TargetRow) (targetId : Nat)
    (status : TargetStatus) (error blockedReason : Option String)
    (incrementRetry : Bool) (now : Time) :
    Except TransitionError (Table TargetRow) :=
  match targets.get targetId with
  | none => .error (.notFound targetId)
  | some target =>
      if (normalTransitions target.status ++ anyTransitions).contains
          status then
        let updated := TargetRepository.compareAndSetStatus targets targetId
          [target.status] status error blockedReason incrementRetry now
        if updated.1 then .ok updated.2
        else .error (.conflict targetId)
      else
        .error (.invalid ("Target: " ++ targetStatusValue target.status ++
          " -> " ++ targetStatusValue status))

/-- The order in which `advance_target` walks. -/
def advanceOrder : List TargetStatus :=
  [.pending, .queued, .downloading, .processing, .downloaded]

/-- One committed transition after the other, until one raises. -/
def advanceThrough (targetId : Nat) (now : Time) :
    List TargetStatus → Table TargetRow →
      Except TransitionError Unit × Table TargetRow
  | [], targets => (.ok (), targets)
  | status :: rest, targets =>
      match transitionTarget targets targetId status none none false now with
      | .error error => (.error error, targets)
      | .ok moved => advanceThrough targetId now rest moved

/-- The transitions from the current to the wanted status. -/
def advanceSteps (current status : TargetStatus) : List TargetStatus :=
  (advanceOrder.take (advanceOrder.idxOf status + 1)).drop
    (advanceOrder.idxOf current + 1)

/-- The message of an advance which is out of order. -/
def invalidAdvance (current status : TargetStatus) : TransitionError :=
  .invalid ("Target advance: " ++ targetStatusValue current ++ " -> " ++
    targetStatusValue status)

/-- The part of `advance_target` after a failed Target is reopened. -/
def advanceFrom (targets : Table TargetRow) (targetId : Nat)
    (current status : TargetStatus) (now : Time) :
    Except TransitionError Bool × Table TargetRow :=
  if ¬ advanceOrder.contains current then
    (.error (invalidAdvance current status), targets)
  else if advanceOrder.idxOf status < advanceOrder.idxOf current then
    (.error (invalidAdvance current status), targets)
  else
    let moved :=
      advanceThrough targetId now (advanceSteps current status) targets
    (moved.1.map fun _ => true, moved.2)

/-- `advance_target`: whether it moved, and the Targets after its commits. -/
def advanceTarget (targets : Table TargetRow) (targetId : Nat)
    (status : TargetStatus) (now : Time) :
    Except TransitionError Bool × Table TargetRow :=
  match targets.get targetId with
  | none => (.error (.notFound targetId), targets)
  | some target =>
      if target.status = status then (.ok false, targets)
      else if ¬ advanceOrder.contains status then
        (.error (invalidAdvance target.status status), targets)
      else if target.status = .failed ∨ target.status = .blocked then
        match transitionTarget targets targetId .pending none none false
            now with
        | .error error => (.error error, targets)
        | .ok reopened => advanceFrom reopened targetId .pending status now
      else advanceFrom targets targetId target.status status now

/-! ## What an advance does -/

/-- The Target has a new status; nothing else of the table has changed. -/
structure Moved (targetId : Nat) (row : TargetRow) (status : TargetStatus)
    (before after : Table TargetRow) : Prop where
  others {key : Nat} (other : key ≠ targetId) :
    after.get key = before.get key
  target : ∃ row', after.get targetId = some row' ∧
    row'.status = status ∧ row'.itemId = row.itemId ∧
    row'.playlistProfileId = row.playlistProfileId ∧
    row'.retryCount = row.retryCount ∧ row'.downloadedAt = row.downloadedAt

theorem Moved.refl {targets : Table TargetRow} {targetId : Nat}
    {row : TargetRow} (found : targets.get targetId = some row) :
    Moved targetId row row.status targets targets :=
  ⟨fun _ => rfl, row, found, rfl, rfl, rfl, rfl, rfl⟩

/-- An allowed transition succeeds: nobody moves the Target in between. -/
theorem transitionTarget_of_allowed
    {targets : Table TargetRow} {targetId : Nat} {row : TargetRow}
    {status : TargetStatus} (error blockedReason : Option String)
    (incrementRetry : Bool) (now : Time)
    (found : targets.get targetId = some row)
    (allowed : status ∈ normalTransitions row.status ++ anyTransitions) :
    transitionTarget targets targetId status error blockedReason
        incrementRetry now =
      .ok (targets.modify targetId (TargetRepository.statusValues status
        error blockedReason incrementRetry now)) := by
  have accepted := (TargetRepository.compareAndSetStatus_accepted targets
    targetId [row.status] status error blockedReason incrementRetry now).mpr
      ⟨row, found, List.mem_singleton.mpr rfl⟩
  simp only [transitionTarget, found]
  rw [if_pos (List.contains_iff_mem.mpr allowed), if_pos accepted]
  congr 1
  apply Table.ext_get
  intro key
  rw [TargetRepository.get_compareAndSetStatus, Table.get_modify]
  by_cases same : key = targetId
  · subst same
    simp [found]
  · simp [same]

theorem transitionTarget_of_missing
    {targets : Table TargetRow} {targetId : Nat}
    (status : TargetStatus) (error blockedReason : Option String)
    (incrementRetry : Bool) (now : Time)
    (missing : targets.get targetId = none) :
    transitionTarget targets targetId status error blockedReason
      incrementRetry now = .error (.notFound targetId) := by
  simp [transitionTarget, missing]

/-- Every status of the list is a normal transition from the one before. -/
def walks : TargetStatus → List TargetStatus → Bool
  | _, [] => true
  | current, status :: rest =>
      (normalTransitions current).contains status && walks status rest

theorem advanceThrough_of_walks
    {targetId : Nat} (now : Time) {statuses : List TargetStatus}
    {targets : Table TargetRow} {row : TargetRow}
    (found : targets.get targetId = some row)
    (walk : walks row.status statuses = true) :
    ∃ after, advanceThrough targetId now statuses targets =
        (.ok (), after) ∧
      Moved targetId row (statuses.getLastD row.status) targets after := by
  induction statuses generalizing targets row with
  | nil => exact ⟨targets, rfl, .refl found⟩
  | cons status rest induction =>
      rw [walks, Bool.and_eq_true, List.contains_iff_mem] at walk
      have transition := transitionTarget_of_allowed none none false now
        found (List.mem_append_left anyTransitions walk.1)
      have foundMoved :
          (targets.modify targetId (TargetRepository.statusValues status
            none none false now)).get targetId =
              some (TargetRepository.statusValues status none none false now
                row) := by
        rw [Table.get_modify_self, found, Option.map_some]
      obtain ⟨after, walked, moved⟩ := induction foundMoved walk.2
      refine ⟨after, ?_, ?_, ?_⟩
      · simp only [advanceThrough, transition, walked]
      · intro key other
        rw [moved.others other, Table.get_modify_of_ne _ _ other]
      · obtain ⟨row', found', last, same⟩ := moved.target
        refine ⟨row', found', ?_, same⟩
        rw [last, List.getLastD_cons]
        rfl

/-- The statuses from which a handler can take a Target to its stage. -/
def canAdvance (current status : TargetStatus) : Bool :=
  current == .failed || current == .blocked ||
    (advanceOrder.contains current &&
      advanceOrder.idxOf current ≤ advanceOrder.idxOf status)

theorem walks_advanceSteps
    {current status : TargetStatus}
    (known : advanceOrder.contains status = true)
    (inOrder : advanceOrder.contains current = true)
    (below : advanceOrder.idxOf current ≤ advanceOrder.idxOf status) :
    walks current (advanceSteps current status) = true ∧
      (advanceSteps current status).getLastD current = status := by
  revert known inOrder below
  cases current <;> cases status <;> decide

theorem advanceFrom_of_below
    {targets : Table TargetRow} {targetId : Nat} {row : TargetRow}
    {status : TargetStatus} (now : Time)
    (found : targets.get targetId = some row)
    (known : advanceOrder.contains status = true)
    (inOrder : advanceOrder.contains row.status = true)
    (below : advanceOrder.idxOf row.status ≤ advanceOrder.idxOf status) :
    ∃ after, advanceFrom targets targetId row.status status now =
        (.ok true, after) ∧
      Moved targetId row status targets after := by
  obtain ⟨walk, last⟩ := walks_advanceSteps known inOrder below
  obtain ⟨after, walked, moved⟩ := advanceThrough_of_walks now found walk
  rw [last] at moved
  refine ⟨after, ?_, moved⟩
  rw [advanceFrom, if_neg (not_not_intro inOrder),
    if_neg (Nat.not_lt_of_le below), walked]
  rfl

/-- `advance_target` reaches the stage, or raises and changes nothing. -/
theorem advanceTarget_cases
    {targets : Table TargetRow} {targetId : Nat} {row : TargetRow}
    {status : TargetStatus} (now : Time)
    (found : targets.get targetId = some row)
    (known : advanceOrder.contains status = true) :
    (canAdvance row.status status = true ∧
      ∃ changed after,
        advanceTarget targets targetId status now = (.ok changed, after) ∧
        Moved targetId row status targets after) ∨
    (canAdvance row.status status = false ∧
      ∃ error,
        advanceTarget targets targetId status now =
          (.error error, targets)) := by
  simp only [advanceTarget, found]
  by_cases same : row.status = status
  · subst same
    refine Or.inl ⟨?_, false, targets, by simp, .refl found⟩
    simp [canAdvance, List.contains_iff_mem.mp known]
  rw [if_neg same, if_neg (not_not_intro known)]
  by_cases reopens : row.status = .failed ∨ row.status = .blocked
  · -- A failed or blocked Target walks from `PENDING`.
    have allowed : TargetStatus.pending ∈
        normalTransitions row.status ++ anyTransitions := by
      rcases reopens with isFailed | isBlocked
      · rw [isFailed]; decide
      · rw [isBlocked]; decide
    rw [if_pos reopens,
      transitionTarget_of_allowed none none false now found allowed]
    have foundReopened :
        (targets.modify targetId (TargetRepository.statusValues .pending
          none none false now)).get targetId =
            some (TargetRepository.statusValues .pending none none false now
              row) := by
      rw [Table.get_modify_self, found, Option.map_some]
    obtain ⟨after, advanced, moved⟩ :=
      advanceFrom_of_below now foundReopened known rfl (Nat.zero_le _)
    refine Or.inl ⟨by simpa [canAdvance] using Or.inl reopens,
      true, after, advanced, ?_, moved.target⟩
    intro key other
    rw [moved.others other, Table.get_modify_of_ne _ _ other]
  · rw [if_neg reopens]
    rw [not_or] at reopens
    by_cases inOrder : advanceOrder.contains row.status = true
    · by_cases below :
          advanceOrder.idxOf row.status ≤ advanceOrder.idxOf status
      · obtain ⟨after, advanced, moved⟩ :=
          advanceFrom_of_below now found known inOrder below
        refine Or.inl ⟨?_, true, after, advanced, moved⟩
        simp [canAdvance, List.contains_iff_mem.mp inOrder, below]
      · refine Or.inr ⟨?_, invalidAdvance row.status status, ?_⟩
        · simp [canAdvance, reopens, below]
        · rw [advanceFrom, if_neg (not_not_intro inOrder),
            if_pos (Nat.lt_of_not_le below)]
    · refine Or.inr ⟨?_, invalidAdvance row.status status, ?_⟩
      · rw [List.contains_iff_mem] at inOrder
        simp [canAdvance, reopens, inOrder]
      · rw [advanceFrom, if_pos inOrder]

/-! ## After the end of a task -/

/-- `_ACTIVE_TARGET_STATUSES`. -/
def activeStatuses : List TargetStatus :=
  [.pending, .queued, .downloading, .processing, .blocked]

/-- `sync_target_after_task`. -/
def syncTargetAfterTask (targets : Table TargetRow) (task : TaskRow)
    (taskStatus : TaskStatus) (error : Option String) (failedAttempt : Bool)
    (now : Time) : Bool × Table TargetRow :=
  let update := fun expected status error blockedReason incrementRetry =>
    TargetRepository.compareAndSetStatus targets task.targetRefId expected
      status error blockedReason incrementRetry now
  let unavailableError := some
    ((error.filter (· ≠ "")).getD "Taskが再試行不能になりました")
  if task.targetRefType ≠ "target" then (false, targets)
  else
    match taskStatus with
    | .unavailable =>
        let failed :=
          update [.failed] .unavailable unavailableError none false
        if failedAttempt ∧ failed.1 then failed
        else
          update activeStatuses .unavailable unavailableError none
            failedAttempt
    | .cancelled =>
        update activeStatuses .failed
          (some ((error.filter (· ≠ "")).getD "Taskがキャンセルされました"))
          none false
    | .blocked =>
        update (activeStatuses.erase .blocked) .blocked error error false
    | .pending =>
        if failedAttempt then
          update (activeStatuses.erase .blocked) .failed error none true
        else (false, targets)
    | _ => (false, targets)

/-- The ends of a task which move an active Target. -/
def reflects (taskStatus : TaskStatus) (failedAttempt : Bool) : Bool :=
  match taskStatus with
  | .unavailable | .cancelled | .blocked => true
  | .pending => failedAttempt
  | _ => false

/-- The sync is at most one update, and leads out of the pipeline. -/
theorem syncTargetAfterTask_cases
    (targets : Table TargetRow) (task : TaskRow) (taskStatus : TaskStatus)
    (error : Option String) (failedAttempt : Bool) (now : Time) :
    (syncTargetAfterTask targets task taskStatus error failedAttempt
        now).2 = targets ∨
      ∃ expected status lastError blockedReason incrementRetry,
        status ∈ anyTransitions ∧
        (syncTargetAfterTask targets task taskStatus error failedAttempt
            now).2 =
          (TargetRepository.compareAndSetStatus targets task.targetRefId
            expected status lastError blockedReason incrementRetry now).2 := by
  unfold syncTargetAfterTask
  dsimp only
  split
  · exact Or.inl rfl
  · cases taskStatus with
    | unavailable =>
        right
        dsimp only
        split <;> exact ⟨_, .unavailable, _, _, _, by decide, rfl⟩
    | cancelled => exact Or.inr ⟨_, .failed, _, _, _, by decide, rfl⟩
    | blocked => exact Or.inr ⟨_, .blocked, _, _, _, by decide, rfl⟩
    | pending =>
        dsimp only
        split
        · exact Or.inr ⟨_, .failed, _, _, _, by decide, rfl⟩
        · exact Or.inl rfl
    | _ => exact Or.inl rfl

theorem not_isInProgress_of_anyTransitions {status : TargetStatus}
    (member : status ∈ anyTransitions) : isInProgress status = false := by
  revert member
  cases status <;> decide

/-- A sync never takes a Target into the pipeline. -/
theorem inProgress_of_sync
    {targets : Table TargetRow} {task : TaskRow} {taskStatus : TaskStatus}
    {error : Option String} {failedAttempt : Bool} {now : Time}
    {key : Nat} {row' : TargetRow}
    (found' : (syncTargetAfterTask targets task taskStatus error
      failedAttempt now).2.get key = some row')
    (inProgress : isInProgress row'.status = true) :
    targets.get key = some row' := by
  rcases syncTargetAfterTask_cases targets task taskStatus error
      failedAttempt now with
    same | ⟨expected, status, lastError, blockedReason, incrementRetry,
      leads, updated⟩
  · rwa [same] at found'
  · rw [updated, TargetRepository.get_compareAndSetStatus,
      Option.map_eq_some_iff] at found'
    obtain ⟨row, found, changed⟩ := found'
    split at changed
    · subst changed
      rw [TargetRepository.statusValues,
        not_isInProgress_of_anyTransitions leads] at inProgress
      cases inProgress
    · rwa [changed] at found

/-- A compare-and-set which expects the pipeline statuses ends them. -/
private theorem not_inProgress_of_update
    {targets : Table TargetRow} {targetId : Nat}
    {expected : List TargetStatus} {status : TargetStatus}
    {error blockedReason : Option String} {incrementRetry : Bool}
    {now : Time} {row' : TargetRow}
    (covers : ∀ status, isInProgress status = true → status ∈ expected)
    (leads : isInProgress status = false)
    (found' : (TargetRepository.compareAndSetStatus targets targetId
      expected status error blockedReason incrementRetry now).2.get
        targetId = some row') :
    isInProgress row'.status = false := by
  rw [TargetRepository.get_compareAndSetStatus,
    Option.map_eq_some_iff] at found'
  obtain ⟨row, -, changed⟩ := found'
  split at changed
  · subst changed
    exact leads
  · next unexpected =>
      subst changed
      by_contra inProgress
      exact unexpected ⟨rfl, covers _ (by simpa using inProgress)⟩

/-- After the sync of an ended task its Target is not in the pipeline. -/
theorem not_inProgress_of_sync
    {targets : Table TargetRow} {task : TaskRow} {taskStatus : TaskStatus}
    {error : Option String} {failedAttempt : Bool} {now : Time}
    {row' : TargetRow}
    (isTarget : task.targetRefType = "target")
    (ended : reflects taskStatus failedAttempt = true)
    (found' : (syncTargetAfterTask targets task taskStatus error
      failedAttempt now).2.get task.targetRefId = some row') :
    isInProgress row'.status = false := by
  have coversActive : ∀ status, isInProgress status = true →
      status ∈ activeStatuses := by
    intro status
    cases status <;> decide
  have coversUnblocked : ∀ status, isInProgress status = true →
      status ∈ activeStatuses.erase .blocked := by
    intro status
    cases status <;> decide
  simp only [syncTargetAfterTask, isTarget, ne_eq, not_true_eq_false,
    if_false] at found'
  cases taskStatus with
  | unavailable =>
      dsimp only at found'
      split at found'
      · next failed =>
          -- The Target was failed before, so the update matched it.
          obtain ⟨row, found, isFailed⟩ :=
            (TargetRepository.compareAndSetStatus_accepted _ _ _ _ _ _ _
              _).mp failed.2
          rw [TargetRepository.get_compareAndSetStatus, found,
            Option.map_some, if_pos ⟨rfl, isFailed⟩,
            Option.some.injEq] at found'
          subst found'
          rfl
      · exact not_inProgress_of_update coversActive rfl found'
  | cancelled => exact not_inProgress_of_update coversActive rfl found'
  | blocked => exact not_inProgress_of_update coversUnblocked rfl found'
  | pending =>
      rw [reflects] at ended
      simp only [ended, if_true] at found'
      exact not_inProgress_of_update coversUnblocked rfl found'
  | _ => cases ended

end Sluicery.Core
