import Sluicery.System

/-!
# The tables an event leaves alone

A handler writes Targets, Artifacts and Runs only, and an event also tasks.
The rows which say what belongs together, Items and Playlists, Profiles and
Storages, are the same in every state.
-/

namespace Sluicery.System

open Sluicery.Library Sluicery.Db Sluicery.Db.TaskRepository
open Sluicery.Core Sluicery.Tasks Sluicery.Tasks.Handlers

/-! ## Handlers -/

/-- Only Targets, Artifacts and Runs are written. -/
def HandlerFrame (before after : Database) : Prop :=
  after = { before with
    target := after.target, artifact := after.artifact, run := after.run }

theorem HandlerFrame.task {before after : Database}
    (frame : HandlerFrame before after) : after.task = before.task := by
  rw [frame]

theorem HandlerFrame.trans {before middle after : Database}
    (first : HandlerFrame before middle)
    (second : HandlerFrame middle after) : HandlerFrame before after := by
  rw [HandlerFrame, second, first]

section Handlers

variable (db : Database) (now : Time)

theorem advanceFor_frame (targetId : Nat) (status : TargetStatus)
    (failure : String) (work : Work) :
    HandlerFrame db (advanceFor db targetId status now failure work).2 := by
  unfold advanceFor
  dsimp only
  split <;> rfl

theorem transitionThen_frame (targetId : Nat) (status : TargetStatus)
    (error blockedReason : Option String) (incrementRetry : Bool)
    (result : TaskResult) :
    HandlerFrame db (transitionThen db targetId status error blockedReason
      incrementRetry now result).2 := by
  unfold transitionThen
  split <;> rfl

theorem finishRun_frame (runId : Option Nat) (status : RunStatus)
    (stats : Json.Fields) :
    HandlerFrame db (finishRun db runId status stats now) := by
  cases runId <;> rfl

theorem ended_frame {finished : Except String TaskResult × Database}
    (frame : HandlerFrame db finished.2) :
    HandlerFrame db (ended finished).2 := by
  unfold ended
  split <;> exact frame

theorem downloadFailure_frame (targetId : Nat)
    (classification : Classification) (message : String)
    (reasonCode : Option String) :
    HandlerFrame db (downloadFailure db targetId classification message
      reasonCode now).2 := by
  cases classification with
  | ok => rfl
  | _ => exact transitionThen_frame ..

theorem indexAdvance_frame (artifact : ArtifactRow) (work : Work) :
    HandlerFrame db (indexAdvance db artifact work now).2 := by
  have advanced := advanceFor_frame
    { db with
      artifact :=
        (ArtifactRepository.createSourceIfMissing db.artifact artifact).2 }
    now work.targetId .downloaded "Targetをdownloadedへ遷移できません"
    { work with
      artifactId :=
        (ArtifactRepository.createSourceIfMissing db.artifact artifact).1 }
  unfold indexAdvance
  dsimp only
  split
  · dsimp only
    rw [advanced]
    rfl
  · rw [advanced]
    rfl

theorem startHandler_frame
    {execution : Execution} {parseDatetime : String → Option Time}
    {started : Started × Database}
    (starts : startHandler db execution parseDatetime now = some started) :
    HandlerFrame db started.2 := by
  unfold startHandler at starts
  dsimp only at starts
  split at starts
  · obtain rfl := Option.some.inj starts
    unfold discoverStart discoverFailed
    dsimp only
    split
    · split
      · exact finishRun_frame ..
      · rfl
    · exact finishRun_frame ..
  · obtain rfl := Option.some.inj starts
    unfold downloadStart
    split
    · dsimp only
      split
      · rfl
      · split
        · exact advanceFor_frame ..
        · rfl
    · rfl
  · obtain rfl := Option.some.inj starts
    unfold verifyStart
    split
    · rfl
    · dsimp only
      split
      · rfl
      · exact advanceFor_frame ..
  · obtain rfl := Option.some.inj starts
    rfl
  · obtain rfl := Option.some.inj starts
    unfold publishStart
    split
    · dsimp only
      split
      · rfl
      · split
        · exact ended_frame db (transitionThen_frame ..)
        · exact advanceFor_frame ..
    · rfl
  · obtain rfl := Option.some.inj starts
    unfold indexStart
    split
    · dsimp only
      split
      · rfl
      · split
        · exact indexAdvance_frame ..
        · rfl
    · rfl
  · cases starts

theorem finishHandler_frame
    {execution : Execution} {work : Work} {answer : Answer}
    {finished : Except String TaskResult × Database}
    (finishes :
      finishHandler db execution work now answer = some finished) :
    HandlerFrame db finished.2 := by
  cases answer with
  | download answer =>
      simp only [finishHandler] at finishes
      split at finishes
      · obtain rfl := Option.some.inj finishes
        cases answer with
        | cancelled | file => rfl
        | _ => exact downloadFailure_frame ..
      · cases finishes
  | verify answer =>
      simp only [finishHandler] at finishes
      split at finishes
      · obtain rfl := Option.some.inj finishes
        unfold verifyFinish
        split
        · exact transitionThen_frame ..
        · cases answer with
          | failed => exact transitionThen_frame ..
          | _ => rfl
      · cases finishes
  | publish answer =>
      simp only [finishHandler] at finishes
      split at finishes
      · obtain rfl := Option.some.inj finishes
        unfold publishFinish
        split
        · exact transitionThen_frame ..
        · cases answer with
          | failed => exact transitionThen_frame ..
          | _ => rfl
      · cases finishes
  | index stagingDeleted =>
      simp only [finishHandler] at finishes
      split at finishes
      · obtain rfl := Option.some.inj finishes
        rfl
      · cases finishes
  | discover answer =>
      simp only [finishHandler] at finishes
      split at finishes
      · obtain rfl := Option.some.inj finishes
        cases answer with
        | failed classification stderrTail reasonCode =>
            cases classification with
            | blocked => rfl
            | _ => exact finishRun_frame ..
        | applied stats =>
            simp only [discoverFinish]
            split <;> rfl
        | _ => exact finishRun_frame ..
      · cases finishes

end Handlers

/-! ## Events -/

/-- Only Targets, Artifacts, Runs and tasks are written. -/
def Frame (before after : Database) : Prop :=
  after = { before with
    target := after.target, artifact := after.artifact, run := after.run,
    task := after.task }

theorem Frame.refl (db : Database) : Frame db db := rfl

theorem HandlerFrame.frame {before after : Database}
    (frame : HandlerFrame before after) : Frame before after := by
  rw [Frame, frame]

theorem Frame.trans {before middle after : Database}
    (first : Frame before middle) (second : Frame middle after) :
    Frame before after := by
  rw [Frame, second, first]

theorem Frame.item {before after : Database} (frame : Frame before after) :
    after.item = before.item := by
  rw [frame]

theorem reapTasks_frame (now : Time) (recovered : List Nat)
    (db : Database) : Frame db (Worker.reapTasks now recovered db) := by
  induction recovered generalizing db with
  | nil => rfl
  | cons taskId rest induction =>
      refine Frame.trans ?_ (induction _)
      unfold Worker.reapTask
      split
      · rfl
      · split <;> rfl

theorem stepExecution_frame
    {environment : Environment} {state state' : State} {now : Time}
    {key : Nat} {execution : Execution} {event : Event}
    (taken : stepExecution environment state now key execution event =
      some state') : Frame state.db state'.db := by
  cases event with
  | heartbeat | progress | crash =>
      obtain rfl := Option.some.inj taken
      rfl
  | start =>
      simp only [stepExecution] at taken
      split at taken
      · obtain ⟨started, starts, rfl⟩ := Option.map_eq_some_iff.mp taken
        exact (startHandler_frame _ _ starts).frame
      · cases taken
  | finish =>
      simp only [stepExecution] at taken
      split at taken
      · obtain ⟨finished, finishes, rfl⟩ := Option.map_eq_some_iff.mp taken
        exact (finishHandler_frame _ _ finishes).frame
      · cases taken
  | raise =>
      simp only [stepExecution] at taken
      split at taken
      · obtain rfl := Option.some.inj taken
        rfl
      · obtain rfl := Option.some.inj taken
        rfl
      · cases taken
  | settle =>
      simp only [stepExecution] at taken
      split at taken
      · cases taken
      · obtain ⟨result, -, rfl⟩ := Option.map_eq_some_iff.mp taken
        dsimp only [Worker.applyResult]
        split <;> rfl
  | finishUnavailable =>
      simp only [stepExecution] at taken
      split at taken
      · split at taken
        · cases taken
        · obtain rfl := Option.some.inj taken
          dsimp only [Worker.finishUnavailable]
          split
          · rfl
          · split <;> rfl
      · cases taken
  | release =>
      simp only [stepExecution] at taken
      split at taken
      · cases taken
      · obtain rfl := Option.some.inj taken
        rfl
  | _ => cases taken

theorem stepDatabase_frame
    {environment : Environment} {state state' : State} {now : Time}
    {event : Event}
    (taken : stepDatabase environment state now event = some state') :
    Frame state.db state'.db := by
  cases event with
  | createTarget | reap =>
      obtain rfl := Option.some.inj taken
      first | rfl | exact reapTasks_frame _ _ { state.db with task := _ }
  | startDiscover =>
      obtain ⟨started, starts, rfl⟩ := Option.map_eq_some_iff.mp taken
      obtain ⟨-, -, rfl⟩ := ok_of_enqueueDiscoverRun (ok_of_toOption starts)
      rfl
  | blockTarget | reopenTarget =>
      obtain ⟨target, _, rfl⟩ := Option.map_eq_some_iff.mp taken
      rfl
  | enqueueTarget =>
      obtain ⟨enqueued, enqueues, rfl⟩ := Option.map_eq_some_iff.mp taken
      unfold enqueueTargetPipeline at enqueues
      split at enqueues
      · cases enqueues
      · obtain rfl := Option.some.inj enqueues
        rfl
      · obtain rfl := Option.some.inj enqueues
        rfl
  | claim =>
      simp only [stepDatabase] at taken
      split at taken
      · cases taken
      · obtain rfl := Option.some.inj taken
        rfl
      · obtain ⟨_, _, rfl⟩ := Option.map_eq_some_iff.mp taken
        rfl
  | webCancelTask =>
      obtain ⟨_, cancels, rfl⟩ := Option.map_eq_some_iff.mp taken
      unfold Web.taskCancel at cancels
      obtain ⟨_, _, rfl⟩ := Option.map_eq_some_iff.mp cancels
      dsimp only
      split
      · rfl
      · split <;> rfl
  | cliCancelTask =>
      obtain ⟨_, cancels, rfl⟩ := Option.map_eq_some_iff.mp taken
      unfold Web.cliTaskCancel at cancels
      obtain ⟨_, _, cancels⟩ := Option.bind_eq_some_iff.mp cancels
      dsimp only at cancels
      split at cancels
      · split at cancels
        · obtain rfl := Option.some.inj cancels
          rfl
        · split at cancels <;> obtain rfl := Option.some.inj cancels <;> rfl
      · cases cancels
  | cancelRun =>
      obtain ⟨_, cancels, rfl⟩ := Option.map_eq_some_iff.mp taken
      unfold Web.runCancel at cancels
      obtain ⟨_, _, rfl⟩ := Option.map_eq_some_iff.mp cancels
      dsimp only
      split <;> rfl
  | interruptDiscover =>
      simp only [stepDatabase] at taken
      split at taken
      · obtain rfl := Option.some.inj taken
        rfl
      · cases taken
  | concludeDiscover =>
      simp only [stepDatabase] at taken
      split at taken
      · obtain ⟨_, concludes, rfl⟩ := Option.map_eq_some_iff.mp taken
        unfold Web.concludeDiscover at concludes
        split at concludes
        · split at concludes
          · cases concludes
          · split at concludes <;> obtain rfl := Option.some.inj concludes <;>
              rfl
        · cases concludes
      · cases taken
  | _ => cases taken

/-- An event writes Targets, Artifacts, Runs and tasks only. -/
theorem frame_of_step
    {environment : Environment} {state state' : State} {action : Action}
    (taken : step environment state action = some state') :
    Frame state.db state'.db := by
  unfold step at taken
  split at taken
  · exact stepDatabase_frame taken
  · next key isEvent =>
      obtain ⟨execution, found, taken⟩ := Option.bind_eq_some_iff.mp taken
      exact stepExecution_frame taken

end Sluicery.System
