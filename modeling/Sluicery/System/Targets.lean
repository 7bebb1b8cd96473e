import Sluicery.System.TaskSteps

/-!
# How Targets enter and leave the pipeline

A Target comes into progress in two ways only: `enqueue_target_pipeline`
queues a pending Target, and the first part of a download, verify or publish
takes up the Target of its payload.  Every other commit leaves the statuses
in progress alone or leads out of them.
-/

namespace Sluicery.System

open Sluicery.Library Sluicery.Db Sluicery.Db.TaskRepository
open Sluicery.Core Sluicery.Tasks Sluicery.Tasks.Handlers

/-! ## Tables in which no Target enters -/

/-- A Target in progress afterwards was in progress before. -/
def NoneEnters (before after : Table TargetRow) : Prop :=
  ∀ key row', after.get key = some row' → isInProgress row'.status = true →
    ∃ row, before.get key = some row ∧ isInProgress row.status = true

theorem NoneEnters.refl (targets : Table TargetRow) :
    NoneEnters targets targets :=
  fun _ row' found inProgress => ⟨row', found, inProgress⟩

theorem NoneEnters.trans {before middle after : Table TargetRow}
    (first : NoneEnters before middle) (second : NoneEnters middle after) :
    NoneEnters before after := by
  intro key row' found inProgress
  obtain ⟨row, foundMiddle, before⟩ := second key row' found inProgress
  exact first key row foundMiddle before

theorem noneEnters_sync
    (targets : Table TargetRow) (task : TaskRow) (taskStatus : TaskStatus)
    (error : Option String) (failedAttempt : Bool) (now : Time) :
    NoneEnters targets (syncTargetAfterTask targets task taskStatus error
      failedAttempt now).2 :=
  fun _ row' found inProgress =>
    ⟨row', inProgress_of_sync found inProgress, inProgress⟩

/-- A successful transition is the compare-and-set of its Target. -/
theorem transitionTarget_ok
    {targets after : Table TargetRow} {targetId : Nat}
    {status : TargetStatus} {error blockedReason : Option String}
    {incrementRetry : Bool} {now : Time}
    (transition : transitionTarget targets targetId status error
      blockedReason incrementRetry now = .ok after) :
    ∃ row, targets.get targetId = some row ∧
      status ∈ normalTransitions row.status ++ anyTransitions ∧
      after = targets.modify targetId (TargetRepository.statusValues status
        error blockedReason incrementRetry now) := by
  cases found : targets.get targetId with
  | none => simp [transitionTarget_of_missing, found] at transition
  | some row =>
      by_cases allowed :
          status ∈ normalTransitions row.status ++ anyTransitions
      · rw [transitionTarget_of_allowed error blockedReason incrementRetry
          now found allowed] at transition
        exact ⟨row, rfl, allowed, (Except.ok.inj transition).symm⟩
      · simp only [transitionTarget, found] at transition
        rw [if_neg (fun member =>
          allowed (List.contains_iff_mem.mp member))] at transition
        cases transition

theorem noneEnters_transition
    {targets after : Table TargetRow} {targetId : Nat}
    {status : TargetStatus} {error blockedReason : Option String}
    {incrementRetry : Bool} {now : Time}
    (transition : transitionTarget targets targetId status error
      blockedReason incrementRetry now = .ok after)
    (leads : isInProgress status = false) : NoneEnters targets after := by
  obtain ⟨row, -, -, rfl⟩ := transitionTarget_ok transition
  intro key row' found inProgress
  rw [Table.get_modify] at found
  split at found
  · obtain ⟨before, -, rfl⟩ := Option.map_eq_some_iff.mp found
    rw [TargetRepository.statusValues, leads] at inProgress
    cases inProgress
  · exact ⟨row', found, inProgress⟩

theorem noneEnters_of_moved
    {before after : Table TargetRow} {targetId : Nat} {row : TargetRow}
    {status : TargetStatus}
    (moved : Moved targetId row status before after)
    (found : before.get targetId = some row)
    (inside : isInProgress status = true → isInProgress row.status = true) :
    NoneEnters before after := by
  intro key row' found' inProgress
  by_cases same : key = targetId
  · subst same
    obtain ⟨other, foundOther, isStatus, -⟩ := moved.target
    rw [found', Option.some.injEq] at foundOther
    subst foundOther
    exact ⟨row, found, inside (isStatus ▸ inProgress)⟩
  · rw [moved.others same] at found'
    exact ⟨row', found', inProgress⟩

/-! ## Handlers -/

section Handlers

variable (db : Database) (now : Time)

/-- A handler reaches its stage, or fails and leaves the Targets alone. -/
theorem advanceFor_cases
    (targetId : Nat) {status : TargetStatus} (failure : String)
    (work : Work) (known : advanceOrder.contains status = true) :
    (∃ row, db.target.get targetId = some row ∧
      canAdvance row.status status = true ∧
      (advanceFor db targetId status now failure work).1 = .working work ∧
      Moved targetId row status db.target
        (advanceFor db targetId status now failure work).2.target) ∨
    ((startedStage (advanceFor db targetId status now failure work).1 =
          .returned { outcome := .failed, message := some failure } ∨
        ∃ message, (advanceFor db targetId status now failure work).1 =
          .raised message) ∧
      (advanceFor db targetId status now failure work).2.target =
        db.target) := by
  have failed : ∀ error,
      advanceTarget db.target targetId status now =
        (.error error, db.target) →
      (startedStage (advanceFor db targetId status now failure work).1 =
          .returned { outcome := .failed, message := some failure } ∨
        ∃ message, (advanceFor db targetId status now failure work).1 =
          .raised message) ∧
      (advanceFor db targetId status now failure work).2.target =
        db.target := by
    intro error raises
    rw [advanceFor, raises]
    cases error with
    | conflict => exact ⟨Or.inr ⟨_, rfl⟩, rfl⟩
    | _ => exact ⟨Or.inl rfl, rfl⟩
  cases found : db.target.get targetId with
  | none =>
      refine Or.inr (failed (.notFound targetId) ?_)
      rw [advanceTarget, found]
  | some row =>
      rcases advanceTarget_cases now found known with
        ⟨advances, changed, after, advanced, moved⟩ |
        ⟨-, error, raises⟩
      · refine Or.inl ⟨row, rfl, advances, ?_⟩
        rw [advanceFor, advanced]
        exact ⟨rfl, moved⟩
      · exact Or.inr (failed error raises)

/-- A transition out of the pipeline, and a result or an exception. -/
theorem noneEnters_transitionThen
    (targetId : Nat) {status : TargetStatus}
    (error blockedReason : Option String) (incrementRetry : Bool)
    (result : TaskResult) (leads : isInProgress status = false) :
    NoneEnters db.target (transitionThen db targetId status error
      blockedReason incrementRetry now result).2.target := by
  unfold transitionThen
  split
  · exact .refl _
  · next transition => exact noneEnters_transition transition leads

theorem noneEnters_publishFailure
    (targetId : Nat) (classification : StorageClassification)
    (message : String) :
    NoneEnters db.target
      (publishFailure db targetId classification message now).2.target := by
  refine noneEnters_transitionThen _ _ _ _ _ _ _ ?_
  cases classification <;> rfl

theorem noneEnters_downloadFailure
    (targetId : Nat) (classification : Classification) (message : String)
    (reasonCode : Option String) :
    NoneEnters db.target (downloadFailure db targetId classification message
      reasonCode now).2.target := by
  cases classification with
  | ok => exact .refl _
  | _ => exact noneEnters_transitionThen _ _ _ _ _ _ _ rfl

@[simp]
theorem finishRun_target (runId : Option Nat) (status : RunStatus)
    (stats : Json.Fields) :
    (finishRun db runId status stats now).target = db.target := by
  cases runId <;> rfl

@[simp]
theorem ended_target (finished : Except String TaskResult × Database) :
    (ended finished).2.target = finished.2.target := by
  unfold ended
  split <;> rfl

/-- The Target which the first part of a handler takes up, if it gets there. -/
def takesUp (execution : Execution) : Option Nat :=
  let payload := execution.task.payloadJson.getD []
  let targetId := (intField payload "target_id").map rowKey
  let dependency := dependencyPayload db.task execution.taskId
  match execution.task.type with
  | .download =>
      if (strField payload "work_id").any (· ≠ "") then
        targetId.filter (hasTargetGraph db)
      else none
  | .verify => if dependency.isOk then targetId else none
  | .publish =>
      if (strField payload "work_id").isSome && dependency.isOk then
        targetId.filter fun targetId =>
          (publishStorage db targetId).any fun found => found.2.enabled
      else none
  | _ => none

/-- The handler takes a Target to its stage. -/
structure TakesUp (execution : Execution) (after : Table TargetRow)
    (targetId : Nat) : Prop where
  named : takesUp db execution = some targetId
  moves : ∃ row status, db.target.get targetId = some row ∧
    canAdvance row.status status = true ∧
    (status = .downloading ∨ status = .processing) ∧
    Moved targetId row status db.target after

/-- An advance of a handler which has named its Target. -/
theorem takesUp_or_noneEnters
    {execution : Execution} {targetId : Nat} {status : TargetStatus}
    (named : takesUp db execution = some targetId)
    (isStage : status = .downloading ∨ status = .processing)
    (failure : String) (work : Work) :
    NoneEnters db.target
        (advanceFor db targetId status now failure work).2.target ∨
      TakesUp db execution
        (advanceFor db targetId status now failure work).2.target
        targetId := by
  have known : advanceOrder.contains status = true := by
    rcases isStage with rfl | rfl <;> rfl
  rcases advanceFor_cases db now targetId failure work known with
    ⟨row, found, advances, -, moved⟩ | ⟨-, same⟩
  · exact Or.inr ⟨named, row, status, found, advances, isStage, moved⟩
  · rw [same]
    exact Or.inl (.refl _)

/-- An INDEX handler works on after its Target is downloaded, or fails. -/
theorem indexAdvance_cases (artifact : ArtifactRow) (work : Work) :
    (∃ artifactId, (indexAdvance db artifact work now).1 =
        .working { work with artifactId } ∧
      (∃ target, (indexAdvance db artifact work now).2.target.get
          work.targetId = some target ∧ target.status = .downloaded) ∧
      NoneEnters db.target (indexAdvance db artifact work now).2.target) ∨
    ((startedStage (indexAdvance db artifact work now).1 =
          .returned
            { outcome := .failed,
              message := some "Targetをdownloadedへ遷移できません" } ∨
        ∃ message, (indexAdvance db artifact work now).1 =
          .raised message) ∧
      (indexAdvance db artifact work now).2.target = db.target) := by
  let created :=
    ArtifactRepository.createSourceIfMissing db.artifact artifact
  rcases advanceFor_cases { db with artifact := created.2 } now
      work.targetId "Targetをdownloadedへ遷移できません"
      { work with artifactId := created.1 }
      (show advanceOrder.contains .downloaded = true from rfl) with
    ⟨row, found, -, isWorking, moved⟩ | ⟨failed, same⟩
  · refine Or.inl ⟨created.1, ?_⟩
    have downloaded := fun key => Table.get_updateWhere
      (advanceFor { db with artifact := created.2 } work.targetId
        .downloaded now "Targetをdownloadedへ遷移できません"
        { work with artifactId := created.1 }).2.target
      (fun key row => key == work.targetId && row.downloadedAt.isNone)
      (fun row => { row with downloadedAt := some now, updatedAt := now })
      key
    have enters := noneEnters_of_moved moved found
      (fun impossible => nomatch impossible)
    unfold indexAdvance
    dsimp only
    rw [isWorking]
    refine ⟨rfl, ?_, ?_⟩
    · obtain ⟨target, foundTarget, isDownloaded, -⟩ := moved.target
      dsimp only [setDownloadedAt]
      rw [downloaded, foundTarget]
      refine ⟨_, rfl, ?_⟩
      dsimp only
      split <;> exact isDownloaded
    · refine enters.trans fun key row' found' inProgress => ?_
      dsimp only [setDownloadedAt] at found'
      rw [downloaded, Option.map_eq_some_iff] at found'
      obtain ⟨target, foundTarget, rfl⟩ := found'
      refine ⟨target, foundTarget, ?_⟩
      split at inProgress <;> exact inProgress
  · refine Or.inr ?_
    unfold indexAdvance
    dsimp only
    rcases failed with returned | ⟨message, raised⟩
    · split
      · next isWorking =>
          rw [isWorking] at returned
          cases returned
      · exact ⟨Or.inl returned, same⟩
    · rw [raised]
      exact ⟨Or.inr ⟨message, raised⟩, same⟩

theorem startHandler_target
    {execution : Execution} {parseDatetime : String → Option Time}
    {started : Started × Database}
    (starts : startHandler db execution parseDatetime now = some started) :
    NoneEnters db.target started.2.target ∨
      ∃ targetId, TakesUp db execution started.2.target targetId := by
  unfold startHandler at starts
  dsimp only at starts
  split at starts
  · obtain rfl := Option.some.inj starts
    refine Or.inl ?_
    unfold discoverStart discoverFailed
    dsimp only
    split
    · split
      · simp only [finishRun_target]
        exact .refl _
      · exact .refl _
    · simp only [finishRun_target]
      exact .refl _
  · next isDownload =>
      obtain rfl := Option.some.inj starts
      unfold downloadStart
      split
      · next target workId isTarget isWorkId =>
          dsimp only
          split
          · exact Or.inl (.refl _)
          · next nonempty =>
              split
              · next graph =>
                  have named :
                      takesUp db execution = some (rowKey target) := by
                    simp [takesUp, isDownload, isTarget, isWorkId, nonempty,
                      graph]
                  exact (takesUp_or_noneEnters db now named (Or.inl rfl) _
                    _).imp id fun takes => ⟨_, takes⟩
              · exact Or.inl (.refl _)
      · exact Or.inl (.refl _)
  · next isVerify =>
      obtain rfl := Option.some.inj starts
      unfold verifyStart
      split
      · exact Or.inl (.refl _)
      · next target isTarget =>
          dsimp only
          split
          · exact Or.inl (.refl _)
          · next previous isPrevious =>
              have named :
                  takesUp db execution = some (rowKey target) := by
                simp [takesUp, isVerify, isTarget, isPrevious, Except.isOk,
                  Except.toBool]
              exact (takesUp_or_noneEnters db now named (Or.inr rfl) _
                _).imp id fun takes => ⟨_, takes⟩
  · obtain rfl := Option.some.inj starts
    exact Or.inl (.refl _)
  · next isPublish =>
      obtain rfl := Option.some.inj starts
      unfold publishStart
      split
      · next target workId isTarget isWorkId =>
          dsimp only
          split
          · exact Or.inl (.refl _)
          · next previous isPrevious =>
              split
              · refine Or.inl ?_
                rw [ended_target]
                exact noneEnters_publishFailure _ _ _ _ _
              · next storageId storage isStorage =>
                  obtain ⟨isFound, enabled⟩ :=
                    Option.filter_eq_some_iff.mp isStorage
                  have named :
                      takesUp db execution = some (rowKey target) := by
                    simpa [takesUp, isPublish, isTarget, isWorkId,
                      isPrevious, Except.isOk, Except.toBool, isFound]
                      using enabled
                  exact (takesUp_or_noneEnters db now named (Or.inr rfl) _
                    _).imp id fun takes => ⟨_, takes⟩
      · exact Or.inl (.refl _)
  · obtain rfl := Option.some.inj starts
    refine Or.inl ?_
    unfold indexStart
    split
    · dsimp only
      split
      · exact .refl _
      · split
        · rcases indexAdvance_cases db now _ _ with
            ⟨_, -, -, enters⟩ | ⟨-, same⟩
          · exact enters
          · rw [same]
            exact .refl _
        · exact .refl _
    · exact .refl _
  · cases starts

theorem finishHandler_target
    {execution : Execution} {work : Work} {answer : Answer}
    {finished : Except String TaskResult × Database}
    (finishes :
      finishHandler db execution work now answer = some finished) :
    NoneEnters db.target finished.2.target := by
  cases answer with
  | download answer =>
      simp only [finishHandler] at finishes
      split at finishes
      · obtain rfl := Option.some.inj finishes
        cases answer with
        | cancelled | file => exact .refl _
        | _ => exact noneEnters_downloadFailure _ _ _ _ _ _
      · cases finishes
  | verify answer =>
      simp only [finishHandler] at finishes
      split at finishes
      · obtain rfl := Option.some.inj finishes
        unfold verifyFinish
        split
        · exact noneEnters_transitionThen _ _ _ _ _ _ _ rfl
        · cases answer with
          | failed message =>
              exact noneEnters_transitionThen _ _ _ _ _ _ _ rfl
          | _ => exact .refl _
      · cases finishes
  | publish answer =>
      simp only [finishHandler] at finishes
      split at finishes
      · obtain rfl := Option.some.inj finishes
        unfold publishFinish
        split
        · exact noneEnters_publishFailure _ _ _ _ _
        · cases answer with
          | failed => exact noneEnters_publishFailure _ _ _ _ _
          | _ => exact .refl _
      · cases finishes
  | index stagingDeleted =>
      simp only [finishHandler] at finishes
      split at finishes
      · obtain rfl := Option.some.inj finishes
        exact .refl _
      · cases finishes
  | discover answer =>
      simp only [finishHandler] at finishes
      split at finishes
      · obtain rfl := Option.some.inj finishes
        unfold discoverFinish
        cases answer with
        | failed classification stderrTail reasonCode =>
            cases classification <;> simp [discoverFailed] <;> exact .refl _
        | applied stats =>
            dsimp only
            split <;> exact .refl _
        | _ =>
            simp only [discoverFailed, finishRun_target]
            exact .refl _
      · cases finishes

end Handlers

/-! ## Settlements, recovery and cancels -/

theorem noneEnters_applyResult
    (db : Database) (config : Worker.Config) (taskId : Nat) (task : TaskRow)
    (workerId : String) (result : TaskResult) (retryDelay now : Time) :
    NoneEnters db.target (Worker.applyResult db config taskId task workerId
      result retryDelay now).target := by
  unfold Worker.applyResult
  dsimp only
  split
  · exact .refl _
  · exact noneEnters_sync _ _ _ _ _ _

theorem noneEnters_finishUnavailable
    (db : Database) (taskId : Nat) (workerId message : String) (now : Time) :
    NoneEnters db.target (Worker.finishUnavailable db taskId workerId message
      now).target := by
  unfold Worker.finishUnavailable
  split
  · exact .refl _
  · dsimp only
    split
    · exact noneEnters_sync _ _ _ _ _ _
    · exact .refl _

theorem noneEnters_reapTasks
    (now : Time) (recovered : List Nat) (db : Database) :
    NoneEnters db.target (Worker.reapTasks now recovered db).target := by
  induction recovered generalizing db with
  | nil => exact .refl _
  | cons taskId rest induction =>
      refine NoneEnters.trans ?_ (induction _)
      unfold Worker.reapTask
      split
      · exact .refl _
      · split
        · exact noneEnters_sync _ _ _ _ _ _
        · exact .refl _

theorem noneEnters_syncCancelledTasks
    (now : Time) (tasks : List (Nat × TaskRow))
    (targets : Table TargetRow) :
    NoneEnters targets (Web.syncCancelledTasks now tasks targets) := by
  induction tasks generalizing targets with
  | nil => exact .refl _
  | cons task rest induction =>
      exact (noneEnters_sync _ _ _ _ _ _).trans (induction _)

/-! ## Every event -/

/-- How a Target comes into progress. -/
inductive Enters (state : State) (action : Action) (after : Table TargetRow)
    (targetId : Nat) : Prop where
  | queued {runId : Option Nat} {workId : String} {maxAttempts : Nat}
      (isEvent :
        action.event = .enqueueTarget targetId runId workId maxAttempts)
  | takenUp {key : Nat} {execution : Execution}
      (isEvent : action.event = .start key)
      (found : state.executions.get key = some execution)
      (takes : TakesUp state.db execution after targetId)

theorem stepExecution_target
    {environment : Environment} {state state' : State} {now : Time}
    {event : Event} {key targetId : Nat} {execution : Execution}
    {target' : TargetRow}
    (isEvent : event.execution = some key)
    (found : state.executions.get key = some execution)
    (taken : stepExecution environment state now key execution event =
      some state')
    (found' : state'.db.target.get targetId = some target')
    (inProgress : isInProgress target'.status = true) :
    (∃ target, state.db.target.get targetId = some target ∧
        isInProgress target.status = true) ∨
      Enters state ⟨event, now⟩ state'.db.target targetId := by
  have same : state'.db.target = state.db.target →
      ∃ target, state.db.target.get targetId = some target ∧
        isInProgress target.status = true := by
    intro equal
    rw [equal] at found'
    exact ⟨target', found', inProgress⟩
  cases event with
  | heartbeat | progress | crash =>
      obtain rfl := Option.some.inj taken
      exact Or.inl (same rfl)
  | start eventKey =>
      obtain rfl := Option.some.inj isEvent
      simp only [stepExecution] at taken
      split at taken
      · obtain ⟨started, starts, rfl⟩ := Option.map_eq_some_iff.mp taken
        rcases startHandler_target state.db now starts with
          none | ⟨taken, takes⟩
        · exact Or.inl (none _ _ found' inProgress)
        · by_cases isTaken : targetId = taken
          · subst isTaken
            exact Or.inr (.takenUp rfl found takes)
          · obtain ⟨_, _, _, _, _, moved⟩ := takes.moves
            have others := moved.others isTaken
            rw [show (state.withStage eventKey (startedStage started.1)
              started.2).db.target = started.2.target from rfl, others]
              at found'
            exact Or.inl ⟨target', found', inProgress⟩
      · cases taken
  | finish _ answer =>
      simp only [stepExecution] at taken
      split at taken
      · obtain ⟨finished, finishes, rfl⟩ := Option.map_eq_some_iff.mp taken
        exact Or.inl (finishHandler_target state.db now finishes _ _ found'
          inProgress)
      · cases taken
  | raise =>
      simp only [stepExecution] at taken
      split at taken
      · obtain rfl := Option.some.inj taken
        exact Or.inl (same rfl)
      · obtain rfl := Option.some.inj taken
        exact Or.inl (same rfl)
      · cases taken
  | settle =>
      simp only [stepExecution] at taken
      split at taken
      · cases taken
      · obtain ⟨result, -, rfl⟩ := Option.map_eq_some_iff.mp taken
        exact Or.inl (noneEnters_applyResult _ _ _ _ _ _ _ _ _ _ found'
          inProgress)
  | finishUnavailable =>
      simp only [stepExecution] at taken
      split at taken
      · split at taken
        · cases taken
        · obtain rfl := Option.some.inj taken
          exact Or.inl (noneEnters_finishUnavailable _ _ _ _ _ _ _ found'
            inProgress)
      · cases taken
  | release =>
      simp only [stepExecution] at taken
      split at taken
      · cases taken
      · obtain rfl := Option.some.inj taken
        exact Or.inl (same rfl)
  | _ => cases isEvent

theorem stepDatabase_target
    {environment : Environment} {state state' : State} {now : Time}
    {event : Event} {targetId : Nat} {target' : TargetRow}
    (taken : stepDatabase environment state now event = some state')
    (found' : state'.db.target.get targetId = some target')
    (inProgress : isInProgress target'.status = true) :
    (∃ target, state.db.target.get targetId = some target ∧
        isInProgress target.status = true) ∨
      Enters state ⟨event, now⟩ state'.db.target targetId := by
  have outside : NoneEnters state.db.target state'.db.target →
      (∃ target, state.db.target.get targetId = some target ∧
        isInProgress target.status = true) ∨
      Enters state ⟨event, now⟩ state'.db.target targetId :=
    fun none => Or.inl (none _ _ found' inProgress)
  cases event with
  | createTarget itemId playlistProfileId =>
      obtain rfl := Option.some.inj taken
      refine outside fun key row found inside => ?_
      rw [Table.get_insert] at found
      split at found
      · obtain rfl := Option.some.inj found
        cases inside
      · exact ⟨row, found, inside⟩
  | startDiscover playlistId dryRun trigger attempts =>
      obtain ⟨started, starts, rfl⟩ := Option.map_eq_some_iff.mp taken
      refine outside ?_
      obtain ⟨-, -, rfl⟩ := ok_of_enqueueDiscoverRun (ok_of_toOption starts)
      exact .refl _
  | blockTarget | reopenTarget =>
      obtain ⟨after, transition, rfl⟩ := Option.map_eq_some_iff.mp taken
      exact outside (noneEnters_transition (ok_of_toOption transition) rfl)
  | enqueueTarget enqueued runId workId maxAttempts =>
      obtain ⟨result, enqueues, rfl⟩ := Option.map_eq_some_iff.mp taken
      unfold enqueueTargetPipeline at enqueues
      split at enqueues
      · cases enqueues
      · obtain rfl := Option.some.inj enqueues
        exact outside (.refl _)
      · next after transition =>
          obtain rfl := Option.some.inj enqueues
          obtain ⟨row, -, -, rfl⟩ := transitionTarget_ok transition
          by_cases isEnqueued : targetId = enqueued
          · subst isEnqueued
            exact Or.inr (.queued rfl)
          · dsimp only at found'
            rw [Table.get_modify_of_ne _ _ isEnqueued] at found'
            exact Or.inl ⟨target', found', inProgress⟩
  | claim workerClass workerId itemConcurrency =>
      simp only [stepDatabase] at taken
      split at taken
      · cases taken
      · obtain rfl := Option.some.inj taken
        exact outside (.refl _)
      · obtain ⟨row, _, rfl⟩ := Option.map_eq_some_iff.mp taken
        exact outside (.refl _)
  | reap =>
      obtain rfl := Option.some.inj taken
      exact outside (noneEnters_reapTasks _ _ _)
  | webCancelTask taskId =>
      obtain ⟨_, cancels, rfl⟩ := Option.map_eq_some_iff.mp taken
      refine outside ?_
      unfold Web.taskCancel at cancels
      obtain ⟨_, _, rfl⟩ := Option.map_eq_some_iff.mp cancels
      dsimp only
      split
      · exact .refl _
      · split
        · dsimp only
          split
          · exact noneEnters_sync _ _ _ _ _ _
          · exact (noneEnters_sync _ _ _ _ _ _).trans
              (noneEnters_syncCancelledTasks _ _ _)
        · exact .refl _
  | cliCancelTask taskId =>
      obtain ⟨_, cancels, rfl⟩ := Option.map_eq_some_iff.mp taken
      refine outside ?_
      unfold Web.cliTaskCancel at cancels
      obtain ⟨_, _, cancels⟩ := Option.bind_eq_some_iff.mp cancels
      dsimp only at cancels
      split at cancels
      · split at cancels
        · obtain rfl := Option.some.inj cancels
          exact .refl _
        · split at cancels
          · obtain rfl := Option.some.inj cancels
            exact noneEnters_sync _ _ _ _ _ _
          · obtain rfl := Option.some.inj cancels
            exact .refl _
      · cases cancels
  | cancelRun runId =>
      obtain ⟨_, cancels, rfl⟩ := Option.map_eq_some_iff.mp taken
      refine outside ?_
      unfold Web.runCancel at cancels
      obtain ⟨_, _, rfl⟩ := Option.map_eq_some_iff.mp cancels
      dsimp only
      split
      · exact .refl _
      · exact noneEnters_syncCancelledTasks _ _ _
  | interruptDiscover =>
      simp only [stepDatabase] at taken
      split at taken
      · obtain rfl := Option.some.inj taken
        exact outside (.refl _)
      · cases taken
  | concludeDiscover =>
      simp only [stepDatabase] at taken
      split at taken
      · obtain ⟨_, concludes, rfl⟩ := Option.map_eq_some_iff.mp taken
        refine outside ?_
        unfold Web.concludeDiscover at concludes
        split at concludes
        · split at concludes
          · cases concludes
          · split at concludes <;> obtain rfl := Option.some.inj concludes <;>
              exact .refl _
        · cases concludes
      · cases taken
  | _ => cases taken

/-- A Target in progress was in progress before, or enters. -/
theorem target_cases
    {environment : Environment} {state state' : State} {action : Action}
    {targetId : Nat} {target' : TargetRow}
    (taken : step environment state action = some state')
    (found' : state'.db.target.get targetId = some target')
    (inProgress : isInProgress target'.status = true) :
    (∃ target, state.db.target.get targetId = some target ∧
        isInProgress target.status = true) ∨
      Enters state action state'.db.target targetId := by
  unfold step at taken
  split at taken
  · exact stepDatabase_target taken found' inProgress
  · next key isEvent =>
      obtain ⟨execution, found, taken⟩ := Option.bind_eq_some_iff.mp taken
      exact stepExecution_target isEvent found taken found' inProgress

end Sluicery.System
