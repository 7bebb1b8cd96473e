import Sluicery.System.Runs

/-!
# Which Runs an event touches

A Run is finished by the handler of its discover task, by the recovery of
this task, by the command which waits for it, and by its own cancel.  Every
other event leaves the row of a Run as it is, and none changes its kind or
its playlist.
-/

namespace Sluicery.System

open Sluicery.Library Sluicery.Db Sluicery.Db.TaskRepository
open Sluicery.Core Sluicery.Tasks Sluicery.Tasks.Handlers

/-! ## Rows which are kept -/

/-- The same Runs; those which are not touched are unchanged. -/
def RunsKept (touched : Nat → Prop) (before after : Table RunRow) : Prop :=
  ∀ runId run, before.get runId = some run →
    ∃ run', after.get runId = some run' ∧ run'.kind = run.kind ∧
      run'.playlistId = run.playlistId ∧ (¬ touched runId → run' = run)

section RunsKept

variable {touched : Nat → Prop} {before middle after : Table RunRow}

theorem RunsKept.refl (runs : Table RunRow) : RunsKept touched runs runs :=
  fun _ run found => ⟨run, found, rfl, rfl, fun _ => rfl⟩

theorem RunsKept.trans
    (first : RunsKept touched before middle)
    (second : RunsKept touched middle after) :
    RunsKept touched before after := by
  intro runId run found
  rcases first runId run found with
    ⟨run', foundMiddle, kind, playlist, same⟩
  rcases second runId run' foundMiddle with
    ⟨run'', foundAfter, kind', playlist', same'⟩
  exact ⟨run'', foundAfter, kind'.trans kind, playlist'.trans playlist,
    fun untouched => (same' untouched).trans (same untouched)⟩

theorem runsKept_finish
    (runs : Table RunRow) {finished : Nat} (status : RunStatus)
    (stats : Json.Fields) (now : Time) (touches : touched finished) :
    RunsKept touched runs
      (RunRepository.finish runs finished status stats now).2 := by
  intro runId run found
  rw [RunRepository.get_finish, found, Option.map_some]
  refine ⟨_, rfl, ?_, ?_, ?_⟩
  · split <;> rfl
  · split <;> rfl
  · intro untouched
    apply if_neg
    intro matched
    simp only [RunRepository.finishable, Bool.and_eq_true, beq_iff_eq]
      at matched
    exact untouched (matched.1 ▸ touches)

theorem runsKept_of_eq (same : after = before) :
    RunsKept touched before after := by
  rw [same]
  exact .refl _

end RunsKept

/-! ## Events -/

/-- The Run which a discover handler finishes. -/
def handledRun (execution : Execution) : Nat :=
  (discoverRunId (execution.task.payloadJson.getD [])
    execution.task.runId).getD 0

/-- The event can finish the Run. -/
def touchesRun (state : State) (event : Event) (runId : Nat) : Prop :=
  match event with
  | .start key | .finish key _ =>
      ∃ execution, state.executions.get key = some execution ∧
        execution.task.type = .discover ∧ handledRun execution = runId
  | .reap =>
      ∃ taskId task, state.db.task.get taskId = some task ∧
        task.type = .discover ∧ task.runId = some runId
  | .cancelRun cancelled => cancelled = runId
  | .interruptDiscover started taskId | .concludeDiscover started taskId =>
      startedTogether state.db started taskId = true ∧ started = runId
  | _ => False

section Handlers

variable {touched : Nat → Prop} (db : Database) (now : Time)

theorem runsKept_finishRun
    {runId : Option Nat} (status : RunStatus) (stats : Json.Fields)
    (touches : touched (runId.getD 0)) :
    RunsKept touched db.run (finishRun db runId status stats now).run := by
  cases runId with
  | none => exact .refl _
  | some finished => exact runsKept_finish _ _ _ _ touches

theorem runsKept_startHandler
    {execution : Execution} {parseDatetime : String → Option Time}
    {started : Started × Database}
    (touches : execution.task.type = .discover →
      touched (handledRun execution))
    (starts : startHandler db execution parseDatetime now = some started) :
    RunsKept touched db.run started.2.run := by
  by_cases isDiscover : execution.task.type = .discover
  · simp only [startHandler, isDiscover, Option.some.injEq] at starts
    rw [← starts]
    have kept := fun status stats =>
      runsKept_finishRun db now status stats (touches isDiscover)
    unfold discoverStart discoverFailed
    dsimp only
    split
    · split
      · exact kept _ _
      · exact .refl _
    · exact kept _ _
  · exact runsKept_of_eq (startHandler_run_eq db now isDiscover starts)

theorem runsKept_finishHandler
    {execution : Execution} {work : Work} {answer : Answer}
    {finished : Except String TaskResult × Database}
    (touches : execution.task.type = .discover →
      touched (handledRun execution))
    (finishes :
      finishHandler db execution work now answer = some finished) :
    RunsKept touched db.run finished.2.run := by
  by_cases isDiscover : execution.task.type = .discover
  · have kept := fun status stats =>
      runsKept_finishRun db now status stats (touches isDiscover)
    cases answer with
    | discover answer =>
        simp only [finishHandler, isDiscover, if_true, Option.some.injEq]
          at finishes
        rw [← finishes]
        cases answer with
        | cookieError | cancelled => exact kept _ _
        | failed classification =>
            cases classification with
            | blocked => exact .refl _
            | _ => exact kept _ _
        | applied stats =>
            simp only [discoverFinish]
            split
            · exact runsKept_finish _ _ _ _ (touches isDiscover)
            · exact .refl _
    | _ => simp [finishHandler, isDiscover] at finishes
  · exact runsKept_of_eq (finishHandler_run_eq db now isDiscover finishes)

end Handlers

/-- Recovery ends Runs of recovered discover tasks only. -/
theorem runsKept_reapTasks
    {touched : Nat → Prop} (now : Time) (recovered : List Nat)
    (db : Database)
    (touches : ∀ taskId task runId, db.task.get taskId = some task →
      task.type = .discover → task.runId = some runId → touched runId) :
    RunsKept touched db.run (Worker.reapTasks now recovered db).run := by
  induction recovered generalizing db with
  | nil => exact .refl _
  | cons taskId rest induction =>
      have same : (Worker.reapTask db now taskId).task = db.task := by
        simpa [Worker.reapTasks] using reapTasks_task now [taskId] db
      refine RunsKept.trans ?_ (induction _ (same ▸ touches))
      unfold Worker.reapTask
      split
      · exact .refl _
      · next task found =>
          split
          · unfold Worker.reapRun
            split
            · next runId isDiscover inRun =>
                split
                · exact .refl _
                · split
                  · exact runsKept_finish _ _ _ _
                      (touches taskId task runId found isDiscover inRun)
                  · exact .refl _
            · exact .refl _
          · exact .refl _

theorem runsKept_stepExecution
    {environment : Environment} {state state' : State} {now : Time}
    {event : Event} {key : Nat} {execution : Execution}
    (isEvent : event.execution = some key)
    (found : state.executions.get key = some execution)
    (taken : stepExecution environment state now key execution event =
      some state') :
    RunsKept (touchesRun state event) state.db.run state'.db.run := by
  cases event with
  | start eventKey =>
      obtain rfl := Option.some.inj isEvent
      simp only [stepExecution] at taken
      split at taken
      · obtain ⟨started, starts, rfl⟩ := Option.map_eq_some_iff.mp taken
        exact runsKept_startHandler _ _
          (fun isDiscover => ⟨execution, found, isDiscover, rfl⟩) starts
      · cases taken
  | finish eventKey answer =>
      obtain rfl := Option.some.inj isEvent
      simp only [stepExecution] at taken
      split at taken
      · obtain ⟨finished, finishes, rfl⟩ := Option.map_eq_some_iff.mp taken
        exact runsKept_finishHandler _ _
          (fun isDiscover => ⟨execution, found, isDiscover, rfl⟩) finishes
      · cases taken
  | heartbeat | progress | crash =>
      obtain rfl := Option.some.inj taken
      exact .refl _
  | raise =>
      simp only [stepExecution] at taken
      split at taken
      · obtain rfl := Option.some.inj taken
        exact .refl _
      · obtain rfl := Option.some.inj taken
        exact .refl _
      · cases taken
  | settle =>
      simp only [stepExecution] at taken
      split at taken
      · cases taken
      · obtain ⟨result, -, rfl⟩ := Option.map_eq_some_iff.mp taken
        exact runsKept_of_eq (applyResult_run _ _ _ _ _ _ _ _)
  | finishUnavailable =>
      simp only [stepExecution] at taken
      split at taken
      · split at taken
        · cases taken
        · obtain rfl := Option.some.inj taken
          exact runsKept_of_eq (finishUnavailable_run _ _ _ _ _)
      · cases taken
  | release =>
      simp only [stepExecution] at taken
      split at taken
      · cases taken
      · obtain rfl := Option.some.inj taken
        exact .refl _
  | _ => cases isEvent

theorem runsKept_stepDatabase
    {environment : Environment} {state state' : State} {now : Time}
    {event : Event} (notStart : event.startsDiscover = false)
    (taken : stepDatabase environment state now event = some state') :
    RunsKept (touchesRun state event) state.db.run state'.db.run := by
  cases event with
  | createTarget =>
      obtain rfl := Option.some.inj taken
      exact .refl _
  | startDiscover => cases notStart
  | blockTarget | reopenTarget =>
      obtain ⟨_, _, rfl⟩ := Option.map_eq_some_iff.mp taken
      exact .refl _
  | enqueueTarget =>
      obtain ⟨enqueued, enqueues, rfl⟩ := Option.map_eq_some_iff.mp taken
      unfold enqueueTargetPipeline at enqueues
      split at enqueues
      · cases enqueues
      · obtain rfl := Option.some.inj enqueues
        exact .refl _
      · obtain rfl := Option.some.inj enqueues
        exact .refl _
  | claim =>
      simp only [stepDatabase] at taken
      split at taken
      · cases taken
      · obtain rfl := Option.some.inj taken
        exact .refl _
      · obtain ⟨_, _, rfl⟩ := Option.map_eq_some_iff.mp taken
        exact .refl _
  | reap =>
      obtain rfl := Option.some.inj taken
      dsimp only [Worker.reap]
      refine runsKept_reapTasks now _
        { state.db with
          task := (recoverStale state.db.task
            (now - environment.config.staleThreshold) now).2 } ?_
      -- The columns which the touch is about are those before the recovery.
      intro taskId task runId found isDiscover inRun
      rcases (Queue.rewrites_recoverStale _ _ _).origin found with
        ⟨before, foundBefore, chain⟩
      have same := fixedColumns_of_chain chain
      simp only [fixedColumns, Prod.mk.injEq] at same
      exact ⟨taskId, before, foundBefore, same.1 ▸ isDiscover,
        same.2.2.2.2.2.2.2.2 ▸ inRun⟩
  | webCancelTask =>
      obtain ⟨_, cancels, rfl⟩ := Option.map_eq_some_iff.mp taken
      unfold Web.taskCancel at cancels
      obtain ⟨_, _, rfl⟩ := Option.map_eq_some_iff.mp cancels
      dsimp only
      split
      · exact .refl _
      · split <;> exact .refl _
  | cliCancelTask =>
      obtain ⟨_, cancels, rfl⟩ := Option.map_eq_some_iff.mp taken
      unfold Web.cliTaskCancel at cancels
      obtain ⟨_, _, cancels⟩ := Option.bind_eq_some_iff.mp cancels
      dsimp only at cancels
      split at cancels
      · split at cancels
        · obtain rfl := Option.some.inj cancels
          exact .refl _
        · split at cancels <;> obtain rfl := Option.some.inj cancels <;>
            exact .refl _
      · cases cancels
  | cancelRun =>
      obtain ⟨_, cancels, rfl⟩ := Option.map_eq_some_iff.mp taken
      unfold Web.runCancel at cancels
      obtain ⟨_, _, rfl⟩ := Option.map_eq_some_iff.mp cancels
      dsimp only
      split
      · exact .refl _
      · exact runsKept_finish _ _ _ _ rfl
  | interruptDiscover =>
      simp only [stepDatabase] at taken
      split at taken
      · next together =>
          obtain rfl := Option.some.inj taken
          exact runsKept_finish _ _ _ _ ⟨together, rfl⟩
      · cases taken
  | concludeDiscover =>
      simp only [stepDatabase] at taken
      split at taken
      · next together =>
          obtain ⟨_, concludes, rfl⟩ := Option.map_eq_some_iff.mp taken
          unfold Web.concludeDiscover at concludes
          split at concludes
          · split at concludes
            · cases concludes
            · split at concludes
              · obtain rfl := Option.some.inj concludes
                exact runsKept_finish _ _ _ _ ⟨together, rfl⟩
              · obtain rfl := Option.some.inj concludes
                exact .refl _
          · cases concludes
      · cases taken
  | _ => cases taken

/-- An event keeps the Runs, and changes only those it touches. -/
theorem runsKept_of_step
    {environment : Environment} {state state' : State} {action : Action}
    (notStart : action.event.startsDiscover = false)
    (taken : step environment state action = some state') :
    RunsKept (touchesRun state action.event) state.db.run
      state'.db.run := by
  unfold step at taken
  split at taken
  · exact runsKept_stepDatabase notStart taken
  · next key isEvent =>
      obtain ⟨execution, found, taken⟩ := Option.bind_eq_some_iff.mp taken
      exact runsKept_stepExecution isEvent found taken

end Sluicery.System
