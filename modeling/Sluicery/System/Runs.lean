import Sluicery.System.Endings

/-!
# How Runs end

A Run is started with its discover task and never starts again: every other
operation keeps the Runs and only ends them.  A discover handler which returns
anything but a block has ended its Run.
-/

namespace Sluicery.System

open Sluicery.Library Sluicery.Library.Transition
open Sluicery.Db Sluicery.Db.TaskRepository
open Sluicery.Core Sluicery.Tasks Sluicery.Tasks.Handlers

/-! ## Runs are kept and only end -/

/-- The same Runs, some of which ended. -/
structure RunsEnd (before after : Table RunRow) : Prop where
  kept {runId : Nat} {run : RunRow} (found : before.get runId = some run) :
    ∃ run', after.get runId = some run' ∧ run'.kind = run.kind ∧
      (run'.status = .running → run.status = .running)
  absent {runId : Nat} (missing : before.get runId = none) :
    after.get runId = none

theorem RunsEnd.refl (runs : Table RunRow) : RunsEnd runs runs :=
  ⟨fun found => ⟨_, found, rfl, id⟩, id⟩

theorem RunsEnd.trans {before middle after : Table RunRow}
    (first : RunsEnd before middle) (second : RunsEnd middle after) :
    RunsEnd before after where
  kept found := by
    obtain ⟨run, foundMiddle, sameKind, running⟩ := first.kept found
    obtain ⟨run', foundAfter, sameKind', running'⟩ :=
      second.kept foundMiddle
    exact ⟨run', foundAfter, sameKind'.trans sameKind,
      fun isRunning => running (running' isRunning)⟩
  absent missing := second.absent (first.absent missing)

/-- The Run exists and is not running. -/
def RunEnded (runs : Table RunRow) (runId : Nat) : Prop :=
  ∃ run, runs.get runId = some run ∧ run.status ≠ .running

theorem RunEnded.of_runsEnd
    {before after : Table RunRow} {runId : Nat}
    (ended : RunEnded before runId) (ends : RunsEnd before after) :
    RunEnded after runId := by
  obtain ⟨run, found, notRunning⟩ := ended
  obtain ⟨run', found', -, running⟩ := ends.kept found
  exact ⟨run', found', fun isRunning => notRunning (running isRunning)⟩

theorem runsEnd_finish
    (runs : Table RunRow) (runId : Nat) {status : RunStatus}
    (stats : Json.Fields) (now : Time) (ends : status ≠ .running) :
    RunsEnd runs (RunRepository.finish runs runId status stats now).2 where
  kept found := by
    rw [RunRepository.get_finish, found, Option.map_some]
    refine ⟨_, rfl, ?_⟩
    split
    · exact ⟨rfl, fun isRunning => absurd isRunning ends⟩
    · exact ⟨rfl, id⟩
  absent missing := by
    rw [RunRepository.get_finish, missing, Option.map_none]

/-- A finished Run has ended, also when it was cancelled before. -/
theorem runEnded_finish
    {runs : Table RunRow} {runId : Nat} {run : RunRow} {status : RunStatus}
    (stats : Json.Fields) (now : Time) (ends : status ≠ .running)
    (found : runs.get runId = some run) :
    RunEnded (RunRepository.finish runs runId status stats now).2 runId := by
  refine ⟨_, by rw [RunRepository.get_finish, found, Option.map_some], ?_⟩
  split
  · exact ends
  · next skipped =>
      -- Only a cancelled Run is skipped.
      intro isRunning
      simp [RunRepository.finishable, isRunning] at skipped

/-! ## Handlers -/

section Handlers

variable (db : Database) (now : Time)

@[simp]
theorem advanceFor_run (targetId : Nat) (status : TargetStatus)
    (failure : String) (work : Work) :
    (advanceFor db targetId status now failure work).2.run = db.run := by
  unfold advanceFor
  dsimp only
  split <;> rfl

@[simp]
theorem transitionThen_run (targetId : Nat) (status : TargetStatus)
    (error blockedReason : Option String) (incrementRetry : Bool)
    (result : TaskResult) :
    (transitionThen db targetId status error blockedReason incrementRetry
      now result).2.run = db.run := by
  unfold transitionThen
  split <;> rfl

@[simp]
theorem ended_run (finished : Except String TaskResult × Database) :
    (ended finished).2.run = finished.2.run := by
  unfold ended
  split <;> rfl

@[simp]
theorem indexAdvance_run (artifact : ArtifactRow) (work : Work) :
    (indexAdvance db artifact work now).2.run = db.run := by
  unfold indexAdvance
  dsimp only
  split <;> simp

/-- `_finish_run` and `_failed` end the Run they are given. -/
theorem runsEnd_finishRun
    (runId : Option Nat) {status : RunStatus} (stats : Json.Fields)
    (ends : status ≠ .running) :
    RunsEnd db.run (finishRun db runId status stats now).run := by
  cases runId with
  | none => exact .refl _
  | some runId => exact runsEnd_finish _ _ _ _ ends

theorem discoverStart_run
    (payload : Json.Fields) (runId : Option Nat) :
    RunsEnd db.run (discoverStart db payload runId now).2.run ∧
      ∀ result, (discoverStart db payload runId now).1 = .returned result →
        ∀ own, runId = some own → (∃ run, db.run.get own = some run) →
          RunEnded (discoverStart db payload runId now).2.run own := by
  have failed := runsEnd_finishRun db now (discoverRunId payload runId)
    (emptyStats true) (show RunStatus.failed ≠ .running by decide)
  have own : ∀ own, runId = some own → (∃ run, db.run.get own = some run) →
      RunEnded (finishRun db (discoverRunId payload runId) .failed
        (emptyStats true) now).run own := by
    rintro own rfl ⟨run, found⟩
    exact runEnded_finish _ _ (by decide) found
  unfold discoverStart discoverFailed
  dsimp only
  split
  · split
    · exact ⟨failed, fun _ _ => own⟩
    · exact ⟨.refl _, fun _ impossible => nomatch impossible⟩
  · exact ⟨failed, fun _ _ => own⟩

theorem discoverFinish_run
    (payload : Json.Fields) (runId : Option Nat) (answer : DiscoverAnswer) :
    RunsEnd db.run (discoverFinish db payload runId answer now).2.run ∧
      ((discoverFinish db payload runId answer now).1.outcome ≠ .blocked →
        ∀ own, runId = some own → (∃ run, db.run.get own = some run) →
          RunEnded (discoverFinish db payload runId answer now).2.run
            own) := by
  have finishes : ∀ {status : RunStatus} (stats : Json.Fields),
      status ≠ .running →
      RunsEnd db.run (finishRun db (discoverRunId payload runId) status
        stats now).run ∧
      ∀ own, runId = some own → (∃ run, db.run.get own = some run) →
        RunEnded (finishRun db (discoverRunId payload runId) status stats
          now).run own := by
    intro status stats ends
    refine ⟨runsEnd_finishRun db now _ stats ends, ?_⟩
    rintro own rfl ⟨run, found⟩
    exact runEnded_finish _ _ ends found
  have failed := finishes (emptyStats true)
    (show RunStatus.failed ≠ .running by decide)
  cases answer with
  | cookieError => exact ⟨failed.1, fun _ => failed.2⟩
  | cancelled =>
      have cancelled := finishes (emptyStats false)
        (show RunStatus.cancelled ≠ .running by decide)
      exact ⟨cancelled.1, fun _ => cancelled.2⟩
  | failed classification stderrTail reasonCode =>
      cases classification with
      | blocked => exact ⟨.refl _, fun notBlocked => absurd rfl notBlocked⟩
      | _ => exact ⟨failed.1, fun _ => failed.2⟩
  | applied stats =>
      have succeeded : RunStatus.succeeded ≠ .running := by decide
      simp only [discoverFinish]
      split
      · refine ⟨runsEnd_finish _ _ _ _ succeeded, fun _ => ?_⟩
        rintro own rfl ⟨run, found⟩
        exact runEnded_finish _ _ succeeded found
      · next rejected =>
          refine ⟨.refl _, fun _ => ?_⟩
          rintro own rfl ⟨run, found⟩
          -- A Run which exists is only rejected when it was cancelled.
          refine ⟨run, found, fun isRunning => rejected ?_⟩
          simp [RunRepository.finish, RunRepository.finishable,
            discoverRunId, found, isRunning]

/-- Only a discover handler works on a Run. -/
theorem startHandler_run_eq
    {execution : Execution} {parseDatetime : String → Option Time}
    {started : Started × Database}
    (notDiscover : execution.task.type ≠ .discover)
    (starts : startHandler db execution parseDatetime now = some started) :
    started.2.run = db.run := by
  unfold startHandler at starts
  dsimp only at starts
  split at starts
  · next isDiscover => exact absurd isDiscover notDiscover
  all_goals first
    | cases starts; done
    | obtain rfl := Option.some.inj starts
  · unfold downloadStart
    split
    · dsimp only
      split
      · rfl
      · split
        · exact advanceFor_run _ _ _ _ _ _
        · rfl
    · rfl
  · unfold verifyStart
    split
    · rfl
    · dsimp only
      split
      · rfl
      · exact advanceFor_run _ _ _ _ _ _
  · rfl
  · unfold publishStart publishFailure
    split
    · dsimp only
      split
      · rfl
      · split
        · rw [ended_run, transitionThen_run]
        · exact advanceFor_run _ _ _ _ _ _
    · rfl
  · unfold indexStart
    split
    · dsimp only
      split
      · rfl
      · split
        · exact indexAdvance_run _ _ _ _
        · rfl
    · rfl

theorem finishHandler_run_eq
    {execution : Execution} {work : Work} {answer : Answer}
    {finished : Except String TaskResult × Database}
    (notDiscover : execution.task.type ≠ .discover)
    (finishes :
      finishHandler db execution work now answer = some finished) :
    finished.2.run = db.run := by
  cases answer with
  | download answer =>
      simp only [finishHandler] at finishes
      split at finishes
      · obtain rfl := Option.some.inj finishes
        cases answer with
        | failed classification stderrTail reasonCode =>
            cases classification <;> simp [downloadFinish, downloadFailure,
              downloadFailureOutcome]
        | _ => simp [downloadFinish, downloadFailure, downloadFailureOutcome]
      · cases finishes
  | verify answer =>
      simp only [finishHandler] at finishes
      split at finishes
      · obtain rfl := Option.some.inj finishes
        unfold verifyFinish
        split
        · simp [verifyFailed]
        · cases answer <;> simp [verifyFailed]
      · cases finishes
  | publish answer =>
      simp only [finishHandler] at finishes
      split at finishes
      · obtain rfl := Option.some.inj finishes
        unfold publishFinish
        split
        · simp [publishFailure]
        · cases answer <;> simp [publishFailure]
      · cases finishes
  | index stagingDeleted =>
      simp only [finishHandler] at finishes
      split at finishes
      · obtain rfl := Option.some.inj finishes
        rfl
      · cases finishes
  | discover answer =>
      simp only [finishHandler] at finishes
      split at finishes
      · next isDiscover => exact absurd isDiscover notDiscover
      · cases finishes

theorem startHandler_run
    {execution : Execution} {parseDatetime : String → Option Time}
    {started : Started × Database}
    (starts : startHandler db execution parseDatetime now = some started) :
    RunsEnd db.run started.2.run := by
  by_cases isDiscover : execution.task.type = .discover
  · simp only [startHandler, isDiscover, Option.some.injEq] at starts
    rw [← starts]
    exact (discoverStart_run db now _ _).1
  · rw [startHandler_run_eq db now isDiscover starts]
    exact .refl _

theorem finishHandler_run
    {execution : Execution} {work : Work} {answer : Answer}
    {finished : Except String TaskResult × Database}
    (finishes :
      finishHandler db execution work now answer = some finished) :
    RunsEnd db.run finished.2.run := by
  by_cases isDiscover : execution.task.type = .discover
  · cases answer with
    | discover answer =>
        simp only [finishHandler, isDiscover, if_true, Option.some.injEq]
          at finishes
        rw [← finishes]
        exact (discoverFinish_run db now _ _ answer).1
    | _ => simp [finishHandler, isDiscover] at finishes
  · rw [finishHandler_run_eq db now isDiscover finishes]
    exact .refl _

end Handlers

/-! ## Settlements and recovery -/

@[simp]
theorem applyResult_run
    (db : Database) (config : Worker.Config) (taskId : Nat) (task : TaskRow)
    (workerId : String) (result : TaskResult) (retryDelay now : Time) :
    (Worker.applyResult db config taskId task workerId result retryDelay
      now).run = db.run := by
  unfold Worker.applyResult
  dsimp only
  split <;> rfl

@[simp]
theorem finishUnavailable_run
    (db : Database) (taskId : Nat) (workerId message : String) (now : Time) :
    (Worker.finishUnavailable db taskId workerId message now).run =
      db.run := by
  unfold Worker.finishUnavailable
  split
  · rfl
  · dsimp only
    split <;> rfl

theorem runsEnd_reapRun
    (runs : Table RunRow) (task : TaskRow) (now : Time) :
    RunsEnd runs (Worker.reapRun runs task now) := by
  unfold Worker.reapRun
  split
  · split
    · exact .refl _
    · split
      · exact runsEnd_finish _ _ _ _ (by decide)
      · exact .refl _
  · exact .refl _

theorem runEnded_reapRun
    {runs : Table RunRow} {task : TaskRow} {runId : Nat} {run : RunRow}
    (now : Time) (isDiscover : task.type = .discover)
    (inRun : task.runId = some runId)
    (found : runs.get runId = some run) :
    RunEnded (Worker.reapRun runs task now) runId := by
  simp only [Worker.reapRun, isDiscover, inRun, found]
  split
  · exact runEnded_finish _ _ (by decide) found
  · next notRunning => exact ⟨run, found, notRunning⟩

theorem runsEnd_reapTask (db : Database) (now : Time) (taskId : Nat) :
    RunsEnd db.run (Worker.reapTask db now taskId).run := by
  unfold Worker.reapTask
  split
  · exact .refl _
  · split
    · exact runsEnd_reapRun _ _ _
    · exact .refl _

theorem runsEnd_reapTasks (now : Time) (recovered : List Nat)
    (db : Database) :
    RunsEnd db.run (Worker.reapTasks now recovered db).run := by
  induction recovered generalizing db with
  | nil => exact .refl _
  | cons taskId rest induction =>
      exact (runsEnd_reapTask db now taskId).trans (induction _)

/-- The Run of a discover task which ended in recovery has ended. -/
theorem runEnded_reapTasks
    {now : Time} {recovered : List Nat} {db : Database} {taskId : Nat}
    {task : TaskRow} {runId : Nat}
    (member : taskId ∈ recovered)
    (found : db.task.get taskId = some task)
    (isUnavailable : task.status = .unavailable)
    (isDiscover : task.type = .discover)
    (inRun : task.runId = some runId)
    (exists_run : ∃ run, db.run.get runId = some run) :
    RunEnded (Worker.reapTasks now recovered db).run runId := by
  induction recovered generalizing db with
  | nil => cases member
  | cons head rest induction =>
      obtain ⟨run, foundRun⟩ := exists_run
      rcases List.mem_cons.mp member with rfl | inRest
      · refine RunEnded.of_runsEnd ?_
          (runsEnd_reapTasks now rest (Worker.reapTask db now taskId))
        simp only [Worker.reapTask, found, isUnavailable, if_true]
        exact runEnded_reapRun now isDiscover inRun foundRun
      · have same : (Worker.reapTask db now head).task = db.task := by
          simpa [Worker.reapTasks] using reapTasks_task now [head] db
        obtain ⟨run', foundRun', -⟩ :=
          (runsEnd_reapTask db now head).kept foundRun
        exact induction inRest (same ▸ found) ⟨run', foundRun'⟩

/-! ## Every event -/

/-- A new Run and its task, and nothing else. -/
structure Starts (state state' : State) (runId : Nat) (row : TaskRow) :
    Prop where
  isNext : runId = state.db.run.nextKey
  run : ∃ run, state'.db.run = state.db.run.insert run
  task : state'.db.task = state.db.task.insert row
  isDiscover : row.type = .discover
  inRun : row.runId = some runId
  queued : row.status = .queued

theorem stepExecution_run
    {environment : Environment} {state state' : State} {now : Time}
    {event : Event} {key : Nat} {execution : Execution}
    (isEvent : event.execution = some key)
    (taken : stepExecution environment state now key execution event =
      some state') :
    RunsEnd state.db.run state'.db.run := by
  cases event with
  | heartbeat | progress | crash =>
      obtain rfl := Option.some.inj taken
      exact .refl _
  | start =>
      simp only [stepExecution] at taken
      split at taken
      · obtain ⟨started, starts, rfl⟩ := Option.map_eq_some_iff.mp taken
        exact startHandler_run _ _ starts
      · cases taken
  | finish =>
      simp only [stepExecution] at taken
      split at taken
      · obtain ⟨finished, finishes, rfl⟩ := Option.map_eq_some_iff.mp taken
        exact finishHandler_run _ _ finishes
      · cases taken
  | raise =>
      simp only [stepExecution] at taken
      split at taken
      · obtain rfl := Option.some.inj taken
        exact .refl _
      · obtain rfl := Option.some.inj taken
        exact .refl _
      · cases taken
  | settle =>
      simp only [stepExecution] at taken
      split at taken
      · cases taken
      · obtain ⟨result, -, rfl⟩ := Option.map_eq_some_iff.mp taken
        rw [applyResult_run]
        exact .refl _
  | finishUnavailable =>
      simp only [stepExecution] at taken
      split at taken
      · split at taken
        · cases taken
        · obtain rfl := Option.some.inj taken
          rw [finishUnavailable_run]
          exact .refl _
      · cases taken
  | release =>
      simp only [stepExecution] at taken
      split at taken
      · cases taken
      · obtain rfl := Option.some.inj taken
        exact .refl _
  | _ => cases isEvent

theorem stepDatabase_run
    {environment : Environment} {state state' : State} {now : Time}
    {event : Event} (notStart : event.startsDiscover = false)
    (taken : stepDatabase environment state now event = some state') :
    RunsEnd state.db.run state'.db.run := by
  cases event with
  | createTarget =>
      obtain rfl := Option.some.inj taken
      exact .refl _
  | startDiscover => cases notStart
  | blockTarget | reopenTarget =>
      obtain ⟨_, _, rfl⟩ := Option.map_eq_some_iff.mp taken
      exact .refl _
  | enqueueTarget =>
      obtain ⟨enqueued, enqueues, rfl⟩ := Option.map_eq_some_iff.mp taken
      unfold enqueueTargetPipeline at enqueues
      split at enqueues
      · cases enqueues
      · obtain rfl := Option.some.inj enqueues
        exact .refl _
      · obtain rfl := Option.some.inj enqueues
        exact .refl _
  | claim =>
      simp only [stepDatabase] at taken
      split at taken
      · cases taken
      · obtain rfl := Option.some.inj taken
        exact .refl _
      · obtain ⟨_, _, rfl⟩ := Option.map_eq_some_iff.mp taken
        exact .refl _
  | reap =>
      obtain rfl := Option.some.inj taken
      dsimp only [Worker.reap]
      exact runsEnd_reapTasks now _
        { state.db with
          task := (recoverStale state.db.task
            (now - environment.config.staleThreshold) now).2 }
  | webCancelTask =>
      obtain ⟨_, cancels, rfl⟩ := Option.map_eq_some_iff.mp taken
      unfold Web.taskCancel at cancels
      obtain ⟨_, _, rfl⟩ := Option.map_eq_some_iff.mp cancels
      dsimp only
      split
      · exact .refl _
      · split <;> exact .refl _
  | cliCancelTask =>
      obtain ⟨_, cancels, rfl⟩ := Option.map_eq_some_iff.mp taken
      unfold Web.cliTaskCancel at cancels
      obtain ⟨_, _, cancels⟩ := Option.bind_eq_some_iff.mp cancels
      dsimp only at cancels
      split at cancels
      · split at cancels
        · obtain rfl := Option.some.inj cancels
          exact .refl _
        · split at cancels <;> obtain rfl := Option.some.inj cancels <;>
            exact .refl _
      · cases cancels
  | cancelRun =>
      obtain ⟨_, cancels, rfl⟩ := Option.map_eq_some_iff.mp taken
      unfold Web.runCancel at cancels
      obtain ⟨_, _, rfl⟩ := Option.map_eq_some_iff.mp cancels
      dsimp only
      split
      · exact .refl _
      · exact runsEnd_finish _ _ _ _ (by decide)
  | interruptDiscover =>
      simp only [stepDatabase] at taken
      split at taken
      · obtain rfl := Option.some.inj taken
        exact runsEnd_finish _ _ _ _ (by decide)
      · cases taken
  | concludeDiscover =>
      simp only [stepDatabase] at taken
      split at taken
      · obtain ⟨_, concludes, rfl⟩ := Option.map_eq_some_iff.mp taken
        unfold Web.concludeDiscover at concludes
        split at concludes
        · split at concludes
          · cases concludes
          · split at concludes
            · obtain rfl := Option.some.inj concludes
              refine runsEnd_finish _ _ _ _ ?_
              split <;> decide
            · obtain rfl := Option.some.inj concludes
              exact .refl _
        · cases concludes
      · cases taken
  | _ => cases taken

/-- Every other event only ends Runs. -/
theorem runsEnd_of_not_start
    {environment : Environment} {state state' : State} {action : Action}
    (notStart : action.event.startsDiscover = false)
    (taken : step environment state action = some state') :
    RunsEnd state.db.run state'.db.run := by
  unfold step at taken
  split at taken
  · exact stepDatabase_run notStart taken
  · next key isEvent =>
      obtain ⟨execution, found, taken⟩ := Option.bind_eq_some_iff.mp taken
      exact stepExecution_run isEvent taken

/-- The start of a discover Run inserts the Run and its task. -/
theorem starts_of_startsDiscover
    {environment : Environment} {state state' : State} {action : Action}
    (isStart : action.event.startsDiscover = true)
    (taken : step environment state action = some state') :
    ∃ runId row, Starts state state' runId row := by
  obtain ⟨event, now⟩ := action
  cases event with
  | startDiscover playlistId dryRun trigger attempts =>
      obtain ⟨started, starts, rfl⟩ := Option.map_eq_some_iff.mp taken
      obtain ⟨-, -, rfl⟩ := ok_of_enqueueDiscoverRun (ok_of_toOption starts)
      exact ⟨_, _, rfl, ⟨_, rfl⟩, rfl, rfl, rfl, rfl⟩
  | _ => cases isStart

end Sluicery.System
