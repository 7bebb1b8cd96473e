import Sluicery.Library.Transition
import Sluicery.Tasks.Pipeline

/-!
# The task queue as a transition system

The state is the task table and an action is one repository method, or one
insertion, with arbitrary arguments.  Whatever workers, handlers, users and
the reaper do to tasks is a run of these actions, so what holds after every
run holds for every number of workers and every interleaving of whole
methods.

`step_cases` is the one inversion lemma: an action either inserts fresh tasks
or rewrites rows by the changes which `Allowed` lists for it.
-/

namespace Sluicery.Tasks.Queue

open Sluicery.Library Sluicery.Library.Transition
open Sluicery.Db Sluicery.Db.TaskRepository

/-! ## Actions -/

/-- The methods which only the owner of a running task can use. -/
inductive Write where
  | heartbeat (now : Time)
  | resultPayload (values : Json.Fields)
  | progress (fields : Json.Fields)
  | succeeded (now : Time)
  | unavailable (errorMessage : Option String) (now : Time)
  | failed (errorMessage : Option String) (now : Time)
  | cancelled (now : Time)
  | failedForRetry (retryDelay : Time) (errorMessage : Option String)
      (failedAt : Time)
  | blocked (retryAfter : Time) (reason : Option String) (blockedAt : Time)
  | release (now : Time)

/-- The method, with its answer whether the write was accepted. -/
def Write.perform (tasks : Table TaskRow) (taskId : Nat)
    (workerId : String) : Write → Bool × Table TaskRow
  | .heartbeat now =>
      let result := TaskRepository.heartbeat tasks taskId workerId now
      (result.1.isSome, result.2)
  | .resultPayload values => writeResultPayload tasks taskId workerId values
  | .progress fields => writeProgress tasks taskId fields (some workerId)
  | .succeeded now => markSucceeded tasks taskId workerId now
  | .unavailable errorMessage now =>
      markUnavailable tasks taskId workerId errorMessage now
  | .failed errorMessage now =>
      markFailed tasks taskId workerId errorMessage now
  | .cancelled now => markCancelled tasks taskId workerId now
  | .failedForRetry retryDelay errorMessage failedAt =>
      let result := markFailedForRetry tasks taskId workerId retryDelay
        errorMessage failedAt
      (result.1.isSome, result.2)
  | .blocked retryAfter reason blockedAt =>
      markBlocked tasks taskId workerId retryAfter reason blockedAt
  | .release now => releaseForShutdown tasks taskId workerId now

/-- The change of the row which an accepted write makes. -/
def Write.change (row : TaskRow) : Write → Change
  | .heartbeat now => .heartbeat now
  | .resultPayload values =>
      .payload (Json.update (row.payloadJson.getD []) values)
  | .progress fields =>
      .payload (patchedFields (row.payloadJson.getD [])
        [("progress", .obj fields)])
  | .succeeded now => .finish .succeeded now none
  | .unavailable errorMessage now => .finish .unavailable now errorMessage
  | .failed errorMessage now => .finish .failed now errorMessage
  | .cancelled now => .finish .cancelled now none
  | .failedForRetry retryDelay errorMessage failedAt =>
      .failForRetry failedAt retryDelay errorMessage
  | .blocked retryAfter reason blockedAt =>
      .block blockedAt retryAfter reason
  | .release now => .release now

/-- What can happen to the queue. -/
inductive Action where
  | enqueue (type : TaskType) (targetRefType : String) (targetRefId : Nat)
      (payload : Json.Fields) (workerClass : WorkerClass) (maxAttempts : Nat)
      (runId : Option Nat)
  | createTestTask (type : TaskType) (payload : Json.Fields)
      (workerClass : WorkerClass) (priority : Int) (maxAttempts : Nat)
  | enqueuePipeline (targetId : Nat) (runId : Option Nat) (workId : String)
      (maxAttempts : Nat)
  | claimNext (workerClass : WorkerClass) (workerId : String)
      (claimedAt : Time) (itemConcurrency : Option Nat)
  | write (taskId : Nat) (workerId : String) (write : Write)
  | writeProgress (taskId : Nat) (progress : Json.Fields)
  | requestCancel (taskId : Nat) (requestedAt : Time)
  | requestCancelRun (runId : Nat) (requestedAt : Time)
  | retry (taskId : Nat) (now : Time)
  | recoverStale (staleBefore recoveredAt : Time)

/-- One transaction on the task table. -/
def step (tasks : Table TaskRow) : Action → Option (Table TaskRow)
  | .enqueue type targetRefType targetRefId payload workerClass maxAttempts
      runId =>
      some (TaskRepository.enqueue tasks type targetRefType targetRefId
        payload workerClass maxAttempts runId).2
  | .createTestTask type payload workerClass priority maxAttempts =>
      some (TaskRepository.createTestTask tasks type payload workerClass
        priority maxAttempts).2
  | .enqueuePipeline targetId runId workId maxAttempts =>
      some (Tasks.enqueuePipeline tasks targetId runId workId maxAttempts).2
  | .claimNext workerClass workerId claimedAt itemConcurrency =>
      (TaskRepository.claimNext tasks workerClass workerId claimedAt
        itemConcurrency).toOption.map Prod.snd
  | .write taskId workerId write =>
      some (write.perform tasks taskId workerId).2
  | .writeProgress taskId progress =>
      some (TaskRepository.writeProgress tasks taskId progress none).2
  | .requestCancel taskId requestedAt =>
      some (TaskRepository.requestCancel tasks taskId requestedAt).2
  | .requestCancelRun runId requestedAt =>
      some (TaskRepository.requestCancelRun tasks runId requestedAt).2
  | .retry taskId now => some (TaskRepository.retry tasks taskId now).2
  | .recoverStale staleBefore recoveredAt =>
      some (TaskRepository.recoverStale tasks staleBefore recoveredAt).2

/-! ## The writes of an owner -/

theorem Write.enabled_change
    (write : Write) {row : TaskRow} (running : row.status = .running) :
    (write.change row).enabled row := by
  cases write <;>
    simp [Write.change, Change.enabled, running, isUnfinished]

/-- A write of anyone else is rejected and changes nothing. -/
theorem Write.perform_of_not_owned
    {tasks : Table TaskRow} {taskId : Nat} {workerId : String}
    (write : Write)
    (notOwned : ∀ row, tasks.get taskId = some row →
      ownedBy taskId workerId taskId row = false) :
    write.perform tasks taskId workerId = (false, tasks) := by
  have rejected := fun values => updateOwned_of_not_owned values notOwned
  cases write <;>
    simp [Write.perform, TaskRepository.heartbeat, writeResultPayload,
      TaskRepository.writeProgress, markSucceeded, markUnavailable,
      markFailed, markCancelled, finishAndClose, finish, markFailedForRetry,
      markBlocked, releaseForShutdown, rejected]

/-- The task ended without success. -/
def isDead : TaskStatus → Bool
  | .failed | .unavailable | .cancelled => true
  | _ => false

/-- A settlement which kills its task closes what depends on it. -/
theorem Write.perform_of_owned
    {tasks : Table TaskRow} {taskId : Nat} {workerId : String}
    {row : TaskRow} (write : Write)
    (found : tasks.get taskId = some row)
    (owned : ownedBy taskId workerId taskId row = true) :
    ((write.perform tasks taskId workerId).2 =
        tasks.modify taskId (write.change row).values ∧
      isDead ((write.change row).values row).status = false) ∨
    (isDead ((write.change row).values row).status = true ∧
      ∃ cancelledAt, (write.perform tasks taskId workerId).2 =
        (cancelDescendants
          (tasks.modify taskId (write.change row).values)
          taskId cancelledAt).2) := by
  have updated := fun values => updateOwned_of_owned values found owned
  have running := ((ownedBy_eq_true_iff _ _ _ _).mp owned).2.1
  have alive : isDead row.status = false := by rw [running]; rfl
  cases write with
  | heartbeat now =>
      refine Or.inl ⟨?_, alive⟩
      simp only [Write.perform, TaskRepository.heartbeat, updated]
      rfl
  | resultPayload values =>
      refine Or.inl ⟨?_, alive⟩
      simp only [Write.perform, writeResultPayload, updated]
      exact Table.modify_congr found rfl
  | progress fields =>
      refine Or.inl ⟨?_, alive⟩
      simp only [Write.perform, TaskRepository.writeProgress, updated]
      exact Table.modify_congr found rfl
  | succeeded now =>
      refine Or.inl ⟨?_, rfl⟩
      simp only [Write.perform, markSucceeded, finish, updated]
      rfl
  | unavailable errorMessage now =>
      refine Or.inr ⟨rfl, now, ?_⟩
      simp only [Write.perform, markUnavailable, finishAndClose, finish,
        updated, Option.isSome_some, if_true]
      rfl
  | failed errorMessage now =>
      refine Or.inr ⟨rfl, now, ?_⟩
      simp only [Write.perform, markFailed, finishAndClose, finish,
        updated, Option.isSome_some, if_true]
      rfl
  | cancelled now =>
      refine Or.inr ⟨rfl, now, ?_⟩
      simp only [Write.perform, markCancelled, finishAndClose, finish,
        updated, Option.isSome_some, if_true]
      rfl
  | failedForRetry retryDelay errorMessage failedAt =>
      simp only [Write.perform, markFailedForRetry, updated,
        Option.map_some, Option.some.injEq]
      split
      · next dead =>
          refine Or.inr ⟨?_, failedAt, rfl⟩
          simp only [Write.change, Change.values]
          rcases dead with dead | dead <;> rw [dead] <;> rfl
      · next alive =>
          refine Or.inl ⟨rfl, ?_⟩
          revert alive
          simp only [Write.change, Change.values, retryValues]
          split
          · simp
          · split <;> simp [isDead]
  | blocked retryAfter reason blockedAt =>
      simp only [Write.perform, markBlocked, updated,
        Option.map_some, Option.some.injEq]
      split
      · next dead =>
          refine Or.inr ⟨?_, blockedAt, rfl⟩
          simp only [Write.change, Change.values]
          rw [dead]
          rfl
      · next alive =>
          refine Or.inl ⟨rfl, ?_⟩
          revert alive
          simp only [Write.change, Change.values, blockValues]
          split <;> simp [isDead]
  | release now =>
      refine Or.inl ⟨?_, rfl⟩
      simp only [Write.perform, releaseForShutdown, updated]
      rfl

/-- A settlement closes what depends on the task, or nothing else changes. -/
theorem Write.perform_cases
    (tasks : Table TaskRow) (taskId : Nat) (workerId : String)
    (write : Write) :
    ∃ values : TaskRow → TaskRow,
      (∀ row, values row = changes.values (write.change row) row) ∧
      ((write.perform tasks taskId workerId).2 =
          (updateOwned tasks taskId workerId values).2 ∨
        ∃ cancelledAt, (write.perform tasks taskId workerId).2 =
          (cancelDescendants (updateOwned tasks taskId workerId values).2
            taskId cancelledAt).2) := by
  cases write with
  | heartbeat now => exact ⟨_, fun _ => rfl, Or.inl rfl⟩
  | resultPayload values => exact ⟨_, fun _ => rfl, Or.inl rfl⟩
  | progress fields => exact ⟨_, fun _ => rfl, Or.inl rfl⟩
  | succeeded now => exact ⟨_, fun _ => rfl, Or.inl rfl⟩
  | release now => exact ⟨_, fun _ => rfl, Or.inl rfl⟩
  | unavailable errorMessage now =>
      refine ⟨finishValues .unavailable now errorMessage, fun _ => rfl, ?_⟩
      simp only [Write.perform, markUnavailable, finishAndClose]
      split
      · exact Or.inr ⟨now, rfl⟩
      · exact Or.inl rfl
  | failed errorMessage now =>
      refine ⟨finishValues .failed now errorMessage, fun _ => rfl, ?_⟩
      simp only [Write.perform, markFailed, finishAndClose]
      split
      · exact Or.inr ⟨now, rfl⟩
      · exact Or.inl rfl
  | cancelled now =>
      refine ⟨finishValues .cancelled now none, fun _ => rfl, ?_⟩
      simp only [Write.perform, markCancelled, finishAndClose]
      split
      · exact Or.inr ⟨now, rfl⟩
      · exact Or.inl rfl
  | failedForRetry retryDelay errorMessage failedAt =>
      refine ⟨retryValues failedAt retryDelay errorMessage, fun _ => rfl, ?_⟩
      simp only [Write.perform, markFailedForRetry]
      split
      · exact Or.inr ⟨failedAt, rfl⟩
      · exact Or.inl rfl
  | blocked retryAfter reason blockedAt =>
      refine ⟨blockValues blockedAt retryAfter reason, fun _ => rfl, ?_⟩
      simp only [Write.perform, markBlocked]
      split
      · exact Or.inr ⟨blockedAt, rfl⟩
      · exact Or.inl rfl

/-! ## The inversion lemma -/

/-- The changes an action can make to the row under a key. -/
inductive Allowed (tasks : Table TaskRow) :
    Action → Nat → Change → TaskRow → Prop where
  | claim {workerClass : WorkerClass} {workerId : String} {claimedAt : Time}
      {itemConcurrency : Option Nat} {key : Nat} {row : TaskRow}
      {tasks' : Table TaskRow}
      (claims : claimNext tasks workerClass workerId claimedAt
        itemConcurrency = .ok (some key, tasks')) :
      Allowed tasks
        (.claimNext workerClass workerId claimedAt itemConcurrency)
        key (.claim workerId claimedAt) row
  | write {taskId : Nat} {workerId : String} {write : Write}
      {change : Change} {row : TaskRow}
      (found : tasks.get taskId = some row)
      (owner : row.workerId = some workerId)
      (isChange : write.change row = change) :
      Allowed tasks (.write taskId workerId write) taskId change row
  | writeClose {taskId : Nat} {workerId : String} {write : Write}
      {key : Nat} {cancelledAt : Time} {row : TaskRow}
      (below : DependsOnTransitively tasks key taskId) :
      Allowed tasks (.write taskId workerId write) key
        (.close cancelledAt) row
  | writeProgress {taskId : Nat} {progress fields : Json.Fields}
      {row : TaskRow} :
      Allowed tasks (.writeProgress taskId progress) taskId
        (.payload fields) row
  | requestCancel {taskId : Nat} {requestedAt : Time} {row : TaskRow} :
      Allowed tasks (.requestCancel taskId requestedAt) taskId
        (.requestCancel requestedAt) row
  | cancelClose {taskId key : Nat} {requestedAt cancelledAt : Time}
      {row : TaskRow} (below : DependsOnTransitively tasks key taskId) :
      Allowed tasks (.requestCancel taskId requestedAt) key
        (.close cancelledAt) row
  | cancelRunWaiting {runId key : Nat} {requestedAt : Time} {row : TaskRow}
      (inRun : row.runId = some runId) :
      Allowed tasks (.requestCancelRun runId requestedAt) key
        (.cancelRunWaiting requestedAt) row
  | flag {runId key : Nat} {requestedAt : Time} {row : TaskRow}
      (inRun : row.runId = some runId) :
      Allowed tasks (.requestCancelRun runId requestedAt) key .flag row
  | retry {taskId : Nat} {now : Time} {row : TaskRow} :
      Allowed tasks (.retry taskId now) taskId (.manualRetry now) row
  | recover {staleBefore recoveredAt : Time} {key : Nat} {row : TaskRow}
      (found : tasks.get key = some row)
      (stale : isStale staleBefore row = true) :
      Allowed tasks (.recoverStale staleBefore recoveredAt) key
        (.recover recoveredAt) row
  | recoverClose {staleBefore recoveredAt cancelledAt : Time} {key root : Nat}
      {rootRow row : TaskRow}
      (found : tasks.get root = some rootRow)
      (stale : isStale staleBefore rootRow = true)
      (terminal : recoveryIsTerminal rootRow = true)
      (below : DependsOnTransitively tasks key root) :
      Allowed tasks (.recoverStale staleBefore recoveredAt) key
        (.close cancelledAt) row

/-- Only a stale recovery recovers. -/
theorem Allowed.of_recover
    {tasks : Table TaskRow} {action : Action} {key : Nat} {row : TaskRow}
    {recoveredAt : Time}
    (allowed : Allowed tasks action key (.recover recoveredAt) row) :
    ∃ staleBefore, action = .recoverStale staleBefore recoveredAt ∧
      tasks.get key = some row ∧ isStale staleBefore row = true := by
  cases allowed with
  | @write _ _ write _ _ _ _ isChange => cases write <;> cases isChange
  | recover found stale => exact ⟨_, rfl, found, stale⟩

/-- A statement followed by the closing of what depends on one task. -/
private theorem rewrites_then_close
    {allowed : Nat → Change → TaskRow → Prop}
    {tasks updated : Table TaskRow} {root : Nat} {cancelledAt : Time}
    (first : changes.Rewrites allowed tasks updated)
    (closes : ∀ key row, DependsOnTransitively tasks key root →
      ∀ cancelledAt, allowed key (.close cancelledAt) row) :
    changes.Rewrites allowed tasks
      (cancelDescendants updated root cancelledAt).2 := by
  refine first.trans
    ((rewrites_cancelDescendants updated root cancelledAt).weaken ?_)
  rintro key change row ⟨⟨cancelledAt, rfl⟩, below⟩
  exact closes key row
    ((dependsOnTransitively_iff_of_rewrites first key root).mp below) _

theorem rewrites_write
    (tasks : Table TaskRow) (taskId : Nat) (workerId : String)
    (write : Write) :
    changes.Rewrites (Allowed tasks (.write taskId workerId write)) tasks
      (write.perform tasks taskId workerId).2 := by
  obtain ⟨values, isChange, performed⟩ :=
    write.perform_cases tasks taskId workerId
  have updated :
      changes.Rewrites (Allowed tasks (.write taskId workerId write)) tasks
        (updateOwned tasks taskId workerId values).2 := by
    apply rewrites_updateOwned
    intro row found running owner
    exact ⟨write.change row, write.enabled_change running,
      .write found owner rfl, isChange row⟩
  rcases performed with performed | ⟨cancelledAt, performed⟩
  · rw [performed]
    exact updated
  · rw [performed]
    exact rewrites_then_close updated fun _ _ below _ => .writeClose below

theorem rewrites_requestCancel
    (tasks : Table TaskRow) (taskId : Nat) (requestedAt : Time) :
    changes.Rewrites (Allowed tasks (.requestCancel taskId requestedAt))
      tasks (TaskRepository.requestCancel tasks taskId requestedAt).2 := by
  have updated :
      changes.Rewrites (Allowed tasks (.requestCancel taskId requestedAt))
        tasks
        (tasks.updateWhere
          (fun key row => key == taskId && isUnfinished row.status)
          (requestCancelValues requestedAt)) := by
    refine Updates.Rewrites.of_updateWhere fun key row _ matched => ?_
    simp only [Bool.and_eq_true, beq_iff_eq] at matched
    obtain ⟨rfl, unfinished⟩ := matched
    exact ⟨.requestCancel requestedAt, unfinished, .requestCancel, rfl⟩
  simp only [TaskRepository.requestCancel]
  split
  · exact rewrites_then_close updated fun _ _ below _ => .cancelClose below
  · exact updated

theorem rewrites_requestCancelRun
    (tasks : Table TaskRow) (runId : Nat) (requestedAt : Time) :
    changes.Rewrites (Allowed tasks (.requestCancelRun runId requestedAt))
      tasks (TaskRepository.requestCancelRun tasks runId requestedAt).2 := by
  simp only [TaskRepository.requestCancelRun]
  refine .trans ?waiting (.of_updateWhere fun key row _ matched => ?running)
  case running =>
    simp only [Bool.and_eq_true, beq_iff_eq] at matched
    exact ⟨.flag, matched.2, .flag matched.1, rfl⟩
  case waiting =>
    refine .of_updateWhere fun key row _ matched => ?_
    simp only [Bool.and_eq_true, beq_iff_eq] at matched
    exact ⟨.cancelRunWaiting requestedAt, matched.2,
      .cancelRunWaiting matched.1, rfl⟩

theorem rewrites_recoverStale
    (tasks : Table TaskRow) (staleBefore recoveredAt : Time) :
    changes.Rewrites (Allowed tasks (.recoverStale staleBefore recoveredAt))
      tasks
      (TaskRepository.recoverStale tasks staleBefore recoveredAt).2 := by
  have recovered :
      changes.Rewrites
        (Allowed tasks (.recoverStale staleBefore recoveredAt)) tasks
        (tasks.updateWhere (fun _ row => isStale staleBefore row)
          (recoverValues recoveredAt)) := by
    refine Updates.Rewrites.of_updateWhere fun key row found stale => ?_
    have running : row.status = .running := by
      simp only [isStale, Bool.and_eq_true, beq_iff_eq] at stale
      exact stale.1
    exact ⟨.recover recoveredAt, running, .recover found stale, rfl⟩
  refine recovered.trans
    ((rewrites_cancelAllDescendants _ recoveredAt _).weaken ?_)
  rintro key change row ⟨root, isTerminal, ⟨cancelledAt, rfl⟩, below⟩
  simp only [List.mem_map, List.mem_filter, Prod.exists,
    Table.mem_select_iff] at isTerminal
  obtain ⟨root, rootRow, ⟨⟨found, stale⟩, terminal⟩, rfl⟩ := isTerminal
  exact .recoverClose found stale terminal
    ((dependsOnTransitively_iff_of_rewrites recovered key root).mp below)

/-! ### Claims -/

theorem firstCandidate_mem
    {entries : List (Nat × TaskRow)} {entry : Nat × TaskRow}
    (first : firstCandidate entries = some entry) :
    entry ∈ entries := by
  induction entries with
  | nil => cases first
  | cons head rest induction =>
      rw [firstCandidate] at first
      split at first
      · obtain rfl := Option.some.inj first
        exact List.mem_cons_self
      · next best isBest =>
          split at first
          · obtain rfl := Option.some.inj first
            exact List.mem_cons_of_mem _ (induction isBest)
          · obtain rfl := Option.some.inj first
            exact List.mem_cons_self

/-- A claim candidate is a row for which the `WHERE` clause holds. -/
theorem eligible_of_claimCandidate
    {tasks : Table TaskRow} {workerClass : WorkerClass} {claimedAt : Time}
    {itemConcurrency : Option Nat} {key : Nat}
    (candidate :
      claimCandidate tasks workerClass claimedAt itemConcurrency =
        some key) :
    ∃ row, tasks.get key = some row ∧
      eligible tasks workerClass claimedAt itemConcurrency row = true := by
  obtain ⟨⟨first, row⟩, isFirst, rfl⟩ := Option.map_eq_some_iff.mp candidate
  have member := firstCandidate_mem isFirst
  exact ⟨row, (tasks.mem_select_iff _ _ _).mp member⟩

/-- What the `WHERE` clause of a claim says about the row. -/
theorem eligible_eq_true_iff
    (tasks : Table TaskRow) (workerClass : WorkerClass) (claimedAt : Time)
    (itemConcurrency : Option Nat) (row : TaskRow) :
    eligible tasks workerClass claimedAt itemConcurrency row = true ↔
      isWaiting row.status = true ∧ row.workerClass = workerClass ∧
        row.cancelRequested = false ∧ timeEligible claimedAt row = true ∧
        dependencySucceeded tasks row = true ∧
        itemSlotAvailable tasks workerClass itemConcurrency row = true := by
  simp [eligible, and_assoc]

/-- A claim changes the claimed row and no other. -/
theorem claimNext_cases
    {tasks : Table TaskRow} {workerClass : WorkerClass} {workerId : String}
    {claimedAt : Time} {itemConcurrency : Option Nat}
    {claimed : Option Nat} {tasks' : Table TaskRow}
    (claims : TaskRepository.claimNext tasks workerClass workerId claimedAt
      itemConcurrency = .ok (claimed, tasks')) :
    claimed = claimCandidate tasks workerClass claimedAt itemConcurrency ∧
      match claimed with
      | none => tasks' = tasks
      | some key => tasks' = tasks.modify key (claimValues workerId claimedAt)
      := by
  unfold TaskRepository.claimNext at claims
  split at claims
  · cases claims
  · split at claims
    · next none =>
        simp only [Except.ok.injEq, Prod.mk.injEq] at claims
        obtain ⟨rfl, rfl⟩ := claims
        exact ⟨none.symm, rfl⟩
    · next key isCandidate =>
        simp only [Except.ok.injEq, Prod.mk.injEq] at claims
        obtain ⟨rfl, rfl⟩ := claims
        exact ⟨isCandidate.symm, rfl⟩

theorem rewrites_claimNext
    {tasks : Table TaskRow} {workerClass : WorkerClass} {workerId : String}
    {claimedAt : Time} {itemConcurrency : Option Nat}
    {claimed : Option Nat} {tasks' : Table TaskRow}
    (claims : TaskRepository.claimNext tasks workerClass workerId claimedAt
      itemConcurrency = .ok (claimed, tasks')) :
    changes.Rewrites
      (Allowed tasks
        (.claimNext workerClass workerId claimedAt itemConcurrency))
      tasks tasks' := by
  obtain ⟨candidate, after⟩ := claimNext_cases claims
  cases claimed with
  | none =>
      rw [after]
      exact .refl tasks
  | some key =>
      rw [after]
      refine Updates.Rewrites.of_updateWhere fun other row found same => ?_
      rw [beq_iff_eq] at same
      subst same
      obtain ⟨row', found', meets⟩ :=
        eligible_of_claimCandidate candidate.symm
      rw [found, Option.some.injEq] at found'
      subst found'
      have holds := (eligible_eq_true_iff _ _ _ _ _).mp meets
      exact ⟨.claim workerId claimedAt, ⟨holds.1, holds.2.2.1⟩,
        .claim claims, rfl⟩

/-! ### Every action -/

/-- New rows are fresh and depend on new rows only. -/
abbrev Inserts (before after : Table TaskRow) : Prop :=
  Extends
    (fun _ row => Fresh row ∧ ∀ parent,
      row.dependsOnTaskId = some parent → before.get parent = none)
    before after

/-- The actions which insert tasks. -/
def isInsert : Action → Bool
  | .enqueue .. | .createTestTask .. | .enqueuePipeline .. => true
  | _ => false

theorem step_inserts
    {tasks tasks' : Table TaskRow} {action : Action}
    (insert : isInsert action = true)
    (taken : step tasks action = some tasks') : Inserts tasks tasks' := by
  cases action with
  | enqueue =>
      obtain rfl := Option.some.inj taken
      exact .insert tasks
        ⟨⟨rfl, rfl, rfl, rfl, rfl, rfl, rfl, rfl, rfl⟩,
          fun _ named => nomatch named⟩
  | createTestTask =>
      obtain rfl := Option.some.inj taken
      exact .insert tasks
        ⟨⟨rfl, rfl, rfl, rfl, rfl, rfl, rfl, rfl, rfl⟩,
          fun _ named => nomatch named⟩
  | enqueuePipeline targetId runId workId maxAttempts =>
      obtain rfl := Option.some.inj taken
      have inserted :=
        enqueuePipeline_extends tasks targetId runId workId maxAttempts
      exact ⟨inserted.kept, fun missing found =>
        ⟨(inserted.new missing found).fresh, fun _ named =>
          ((inserted.new missing found).dependency named).1⟩⟩
  | _ => cases insert

/-- A claim which is a step did not raise. -/
theorem claims_of_step
    {tasks tasks' : Table TaskRow} {workerClass : WorkerClass}
    {workerId : String} {claimedAt : Time} {itemConcurrency : Option Nat}
    (taken : step tasks
      (.claimNext workerClass workerId claimedAt itemConcurrency) =
        some tasks') :
    ∃ claimed, TaskRepository.claimNext tasks workerClass workerId claimedAt
      itemConcurrency = .ok (claimed, tasks') := by
  rw [step, Option.map_eq_some_iff] at taken
  rcases taken with ⟨⟨claimed, after⟩, claims, rfl⟩
  refine ⟨claimed, ?_⟩
  cases result : TaskRepository.claimNext tasks workerClass workerId
      claimedAt itemConcurrency with
  | error message =>
      rw [result] at claims
      cases claims
  | ok answer =>
      rw [result] at claims
      rw [Option.some.inj claims]

theorem step_rewrites
    {tasks tasks' : Table TaskRow} {action : Action}
    (notInsert : isInsert action = false)
    (taken : step tasks action = some tasks') :
    changes.Rewrites (Allowed tasks action) tasks tasks' := by
  cases action with
  | enqueue | createTestTask | enqueuePipeline => cases notInsert
  | claimNext workerClass workerId claimedAt itemConcurrency =>
      obtain ⟨claimed, claims⟩ := claims_of_step taken
      exact rewrites_claimNext claims
  | write taskId workerId write =>
      obtain rfl := Option.some.inj taken
      exact rewrites_write tasks taskId workerId write
  | writeProgress taskId progress =>
      obtain rfl := Option.some.inj taken
      simp only [TaskRepository.writeProgress, Table.modify]
      refine .of_updateWhere fun key row _ same => ?_
      rw [beq_iff_eq] at same
      subst same
      exact ⟨.payload _, trivial, .writeProgress, rfl⟩
  | requestCancel taskId requestedAt =>
      obtain rfl := Option.some.inj taken
      exact rewrites_requestCancel tasks taskId requestedAt
  | requestCancelRun runId requestedAt =>
      obtain rfl := Option.some.inj taken
      exact rewrites_requestCancelRun tasks runId requestedAt
  | retry taskId now =>
      obtain rfl := Option.some.inj taken
      simp only [TaskRepository.retry]
      refine .of_updateWhere fun key row _ matched => ?_
      simp only [Bool.and_eq_true, beq_iff_eq, bne_iff_ne] at matched
      obtain ⟨rfl, notRunning⟩ := matched
      exact ⟨.manualRetry now, notRunning, .retry, rfl⟩
  | recoverStale staleBefore recoveredAt =>
      obtain rfl := Option.some.inj taken
      exact rewrites_recoverStale tasks staleBefore recoveredAt

/-- An action inserts fresh tasks or rewrites rows as `Allowed` says. -/
theorem step_cases
    {tasks tasks' : Table TaskRow} {action : Action}
    (taken : step tasks action = some tasks') :
    Inserts tasks tasks' ∨
      changes.Rewrites (Allowed tasks action) tasks tasks' := by
  cases insert : isInsert action with
  | true => exact Or.inl (step_inserts insert taken)
  | false => exact Or.inr (step_rewrites insert taken)

/-- Rows stay, with their fixed columns. -/
theorem step_fixedColumns
    {tasks tasks' : Table TaskRow} {action : Action} {key : Nat}
    {row : TaskRow}
    (taken : step tasks action = some tasks')
    (found : tasks.get key = some row) :
    ∃ row', tasks'.get key = some row' ∧
      fixedColumns row' = fixedColumns row := by
  rcases step_cases taken with inserts | rewrites
  · exact ⟨row, inserts.kept found, rfl⟩
  · obtain ⟨row', found', chain⟩ := rewrites.found found
    exact ⟨row', found', fixedColumns_of_chain chain⟩

end Sluicery.Tasks.Queue
