import Sluicery.System

/-!
# The system refines the task queue

Whatever an event does to the task table is a run of queue actions: the
handlers do not write tasks, and every other operation is one or two
repository methods.  `Caused` says which actions these are, so an invariant
of the queue under these actions is an invariant of the system.
-/

namespace Sluicery.System

open Sluicery.Library Sluicery.Library.Transition
open Sluicery.Db Sluicery.Db.TaskRepository
open Sluicery.Core Sluicery.Tasks Sluicery.Tasks.Handlers

/-! ## Handlers do not write tasks -/

section Frames

variable (db : Database) (now : Time)

@[simp]
theorem advanceFor_task (targetId : Nat) (status : TargetStatus)
    (failure : String) (work : Work) :
    (advanceFor db targetId status now failure work).2.task = db.task := by
  unfold advanceFor
  dsimp only
  split <;> rfl

@[simp]
theorem transitionThen_task (targetId : Nat) (status : TargetStatus)
    (error blockedReason : Option String) (incrementRetry : Bool)
    (result : TaskResult) :
    (transitionThen db targetId status error blockedReason incrementRetry
      now result).2.task = db.task := by
  unfold transitionThen
  split <;> rfl

@[simp]
theorem finishRun_task (runId : Option Nat) (status : RunStatus)
    (stats : Json.Fields) :
    (finishRun db runId status stats now).task = db.task := by
  cases runId <;> rfl

@[simp]
theorem ended_task (finished : Except String TaskResult × Database) :
    (ended finished).2.task = finished.2.task := by
  unfold ended
  split <;> rfl

@[simp]
theorem indexAdvance_task (artifact : ArtifactRow) (work : Work) :
    (indexAdvance db artifact work now).2.task = db.task := by
  unfold indexAdvance
  dsimp only
  split <;> simp

theorem startHandler_task
    {execution : Execution} {parseDatetime : String → Option Time}
    {started : Started × Database}
    (starts : startHandler db execution parseDatetime now = some started) :
    started.2.task = db.task := by
  unfold startHandler at starts
  dsimp only at starts
  split at starts
  · obtain rfl := Option.some.inj starts
    unfold discoverStart discoverFailed
    dsimp only
    split
    · split <;> simp
    · simp
  · obtain rfl := Option.some.inj starts
    unfold downloadStart
    split
    · dsimp only
      split
      · rfl
      · split
        · simp
        · rfl
    · rfl
  · obtain rfl := Option.some.inj starts
    unfold verifyStart
    split
    · rfl
    · dsimp only
      split
      · rfl
      · simp
  · obtain rfl := Option.some.inj starts
    rfl
  · obtain rfl := Option.some.inj starts
    unfold publishStart publishFailure
    split
    · dsimp only
      split
      · rfl
      · split <;> simp
    · rfl
  · obtain rfl := Option.some.inj starts
    unfold indexStart
    split
    · dsimp only
      split
      · rfl
      · split
        · simp
        · rfl
    · rfl
  · cases starts

theorem finishHandler_task
    {execution : Execution} {work : Work} {answer : Answer}
    {finished : Except String TaskResult × Database}
    (finishes :
      finishHandler db execution work now answer = some finished) :
    finished.2.task = db.task := by
  cases answer with
  | download answer =>
      simp only [finishHandler] at finishes
      split at finishes
      · obtain rfl := Option.some.inj finishes
        cases answer with
        | failed classification stderrTail reasonCode =>
            cases classification <;> simp [downloadFinish, downloadFailure,
              downloadFailureOutcome]
        | _ => simp [downloadFinish, downloadFailure, downloadFailureOutcome]
      · cases finishes
  | verify answer =>
      simp only [finishHandler] at finishes
      split at finishes
      · obtain rfl := Option.some.inj finishes
        unfold verifyFinish
        split
        · simp [verifyFailed]
        · cases answer <;> simp [verifyFailed]
      · cases finishes
  | publish answer =>
      simp only [finishHandler] at finishes
      split at finishes
      · obtain rfl := Option.some.inj finishes
        unfold publishFinish
        split
        · simp [publishFailure]
        · cases answer <;> simp [publishFailure]
      · cases finishes
  | index stagingDeleted =>
      simp only [finishHandler] at finishes
      split at finishes
      · obtain rfl := Option.some.inj finishes
        rfl
      · cases finishes
  | discover answer =>
      simp only [finishHandler] at finishes
      split at finishes
      · obtain rfl := Option.some.inj finishes
        cases answer with
        | failed classification stderrTail reasonCode =>
            cases classification <;> simp [discoverFinish, discoverFailed]
        | applied stats =>
            simp only [discoverFinish]
            split <;> rfl
        | _ => simp [discoverFinish, discoverFailed]
      · cases finishes

end Frames

/-! ## Settlements are writes of the owner -/

/-- The method which settles a result. -/
def settlement (config : Worker.Config) (result : TaskResult)
    (retryDelay now : Time) : Queue.Write :=
  match result.outcome with
  | .succeeded => .succeeded now
  | .cancelled => .cancelled now
  | .unavailable => .unavailable result.message now
  | .blocked =>
      .blocked (Worker.blockedRetryAfter config result.reasonCode)
        result.message now
  | .failed => .failedForRetry retryDelay result.message now

theorem settle_task
    (tasks : Table TaskRow) (config : Worker.Config) (taskId : Nat)
    (workerId : String) (result : TaskResult) (retryDelay now : Time) :
    (Worker.settle tasks config taskId workerId result retryDelay now).2 =
      ((settlement config result retryDelay now).perform tasks taskId
        workerId).2 := by
  unfold Worker.settle settlement
  cases result.outcome <;> rfl

theorem applyResult_task
    (db : Database) (config : Worker.Config) (taskId : Nat) (task : TaskRow)
    (workerId : String) (result : TaskResult) (retryDelay now : Time) :
    (Worker.applyResult db config taskId task workerId result retryDelay
        now).task =
      ((settlement config result retryDelay now).perform
        (Worker.writePayloadUpdate db.task taskId workerId
          result.payloadUpdate) taskId workerId).2 := by
  rw [← settle_task]
  unfold Worker.applyResult
  dsimp only
  split <;> rfl

theorem finishUnavailable_task
    (db : Database) (taskId : Nat) (workerId message : String) (now : Time) :
    (Worker.finishUnavailable db taskId workerId message now).task =
      ((Queue.Write.unavailable (some message) now).perform db.task taskId
        workerId).2 := by
  unfold Worker.finishUnavailable
  cases found : db.task.get taskId with
  | none =>
      rw [Queue.Write.perform_of_not_owned _
        (fun row foundRow => by rw [found] at foundRow; cases foundRow)]
  | some task =>
      dsimp only
      split <;> rfl

@[simp]
theorem reapTasks_task (now : Time) (recovered : List Nat)
    (db : Database) : (Worker.reapTasks now recovered db).task = db.task := by
  induction recovered generalizing db with
  | nil => rfl
  | cons taskId rest induction =>
      rw [Worker.reapTasks, induction]
      unfold Worker.reapTask
      split
      · rfl
      · split <;> rfl

/-! ## The refinement -/

/-- The event starts a discover Run. -/
def Event.startsDiscover : Event → Bool
  | .startDiscover .. => true
  | _ => false

/-- The queue actions which an event of a state causes. -/
def Caused (state : State) (event : Event) : Queue.Action → Prop
  | .enqueue type targetRefType _ _ _ _ runId =>
      type = .discover ∧ targetRefType = "playlist" ∧
        runId = some state.db.run.nextKey ∧ event.startsDiscover = true
  | .write taskId workerId (.resultPayload values) =>
      ∃ key execution result, state.executions.get key = some execution ∧
        execution.taskId = taskId ∧ execution.workerId = workerId ∧
        execution.stage = .returned result ∧
        result.payloadUpdate = some values
  | .createTestTask .. | .writeProgress .. | .retry .. => False
  | _ => True

/-- What an event causes; updates of a payload and pipelines name the event. -/
def CausedBy (state : State) (event : Event) (action : Queue.Action) : Prop :=
  Caused state event action ∧
    match action with
    | .write _ _ (.resultPayload _) =>
        ∃ key retryDelay, event = .settle key retryDelay
    | .enqueuePipeline targetId runId workId maxAttempts =>
        event = .enqueueTarget targetId runId workId maxAttempts
    | .enqueue _ _ targetRefId _ _ _ _ =>
        ∃ dryRun trigger attempts,
          event = .startDiscover targetRefId dryRun trigger attempts
    | _ => True

theorem resultOf_payloadUpdate
    {execution : Execution} {result : TaskResult} {values : Json.Fields}
    (isResult : resultOf execution = some result)
    (updates : result.payloadUpdate = some values) :
    ∃ result, execution.stage = .returned result ∧
      result.payloadUpdate = some values := by
  unfold resultOf at isResult
  dsimp only at isResult
  split at isResult
  · obtain ⟨_, _, rfl⟩ := Option.map_eq_some_iff.mp isResult
    cases updates
  · split at isResult
    · next returned isStage =>
        obtain rfl := Option.some.inj isResult
        exact ⟨_, isStage, updates⟩
    · obtain rfl := Option.some.inj isResult
      cases updates
    · cases isResult

/-- A payload update is one write, or nothing. -/
theorem writePayloadUpdate_steps
    {state : State} {execution : Execution} {result : TaskResult}
    {key : Nat} (settled : Nat) (retryDelay : Time)
    (found : state.executions.get key = some execution)
    (isResult : resultOf execution = some result) :
    Steps Queue.step
      (fun _ action => CausedBy state (.settle settled retryDelay) action)
      state.db.task
      (Worker.writePayloadUpdate state.db.task execution.taskId
        execution.workerId result.payloadUpdate) := by
  cases updates : result.payloadUpdate with
  | none => exact .refl
  | some values =>
      cases values with
      | nil => exact .refl
      | cons value rest =>
          obtain ⟨returned, isStage, returns⟩ :=
            resultOf_payloadUpdate isResult updates
          exact @Steps.single _ _ _ _ _ _
            (.write execution.taskId execution.workerId
              (.resultPayload (value :: rest)))
            ⟨⟨key, execution, returned, found, rfl, rfl, isStage, returns⟩,
              settled, retryDelay, rfl⟩
            rfl

/-- A repository method the event calls. -/
private theorem single
    {state : State} {event : Event} {action : Queue.Action}
    {tasks' : Table TaskRow}
    (caused : CausedBy state event action)
    (taken : Queue.step state.db.task action = some tasks') :
    Steps Queue.step (fun _ action => CausedBy state event action)
      state.db.task tasks' :=
  .single caused taken

private theorem unchanged
    {state : State} {event : Event} {tasks' : Table TaskRow}
    (same : tasks' = state.db.task) :
    Steps Queue.step (fun _ action => CausedBy state event action)
      state.db.task tasks' := by
  rw [same]
  exact .refl

theorem stepExecution_task_steps
    {environment : Environment} {state state' : State} {now : Time}
    {key : Nat} {execution : Execution} {event : Event}
    (found : state.executions.get key = some execution)
    (taken :
      stepExecution environment state now key execution event =
        some state') :
    Steps Queue.step (fun _ action => CausedBy state event action)
      state.db.task state'.db.task := by
  cases event with
  | heartbeat =>
      obtain rfl := Option.some.inj taken
      exact @single _ _ (.write execution.taskId execution.workerId
        (.heartbeat now)) _ ⟨trivial, trivial⟩ rfl
  | progress _ fields =>
      obtain rfl := Option.some.inj taken
      exact @single _ _ (.write execution.taskId execution.workerId
        (.progress fields)) _ ⟨trivial, trivial⟩ rfl
  | start =>
      simp only [stepExecution] at taken
      split at taken
      · obtain ⟨started, starts, rfl⟩ := Option.map_eq_some_iff.mp taken
        exact unchanged (startHandler_task _ _ starts)
      · cases taken
  | finish _ answer =>
      simp only [stepExecution] at taken
      split at taken
      · obtain ⟨finished, finishes, rfl⟩ := Option.map_eq_some_iff.mp taken
        exact unchanged (finishHandler_task _ _ finishes)
      · cases taken
  | raise _ message =>
      simp only [stepExecution] at taken
      split at taken
      · obtain rfl := Option.some.inj taken
        exact unchanged rfl
      · obtain rfl := Option.some.inj taken
        exact unchanged rfl
      · cases taken
  | settle settled retryDelay =>
      simp only [stepExecution] at taken
      split at taken
      · cases taken
      · obtain ⟨result, isResult, rfl⟩ := Option.map_eq_some_iff.mp taken
        refine (writePayloadUpdate_steps settled retryDelay found
          isResult).trans ?_
        refine @Steps.single _ _ _ _ _ _
          (.write execution.taskId execution.workerId
            (settlement environment.config result retryDelay now)) ?_ ?_
        · unfold settlement
          cases result.outcome <;> exact ⟨trivial, trivial⟩
        · rw [Queue.step, applyResult_task]
  | finishUnavailable =>
      simp only [stepExecution] at taken
      split at taken
      · split at taken
        · cases taken
        · obtain rfl := Option.some.inj taken
          refine @single _ _ (.write execution.taskId execution.workerId
            (.unavailable
              (some (Worker.handlerMissing execution.task.type)) now))
            _ ⟨trivial, trivial⟩ ?_
          rw [Queue.step, finishUnavailable_task]
      · cases taken
  | release =>
      simp only [stepExecution] at taken
      split at taken
      · cases taken
      · obtain rfl := Option.some.inj taken
        exact @single _ _ (.write execution.taskId execution.workerId
          (.release now)) _ ⟨trivial, trivial⟩ rfl
  | crash =>
      obtain rfl := Option.some.inj taken
      exact unchanged rfl
  | _ => cases taken

theorem stepDatabase_task_steps
    {environment : Environment} {state state' : State} {now : Time}
    {event : Event}
    (taken : stepDatabase environment state now event = some state') :
    Steps Queue.step (fun _ action => CausedBy state event action)
      state.db.task state'.db.task := by
  cases event with
  | createTarget =>
      obtain rfl := Option.some.inj taken
      exact unchanged rfl
  | startDiscover playlistId dryRun trigger attempts =>
      obtain ⟨started, starts, rfl⟩ := Option.map_eq_some_iff.mp taken
      obtain ⟨-, -, rfl⟩ := ok_of_enqueueDiscoverRun (ok_of_toOption starts)
      exact @single _ _ (.enqueue .discover "playlist" playlistId
        [("playlist_id", .int playlistId), ("dry_run", .bool dryRun)]
        .network attempts (some state.db.run.nextKey))
        _ ⟨⟨rfl, rfl, rfl, rfl⟩, dryRun, trigger, attempts, rfl⟩ rfl
  | blockTarget =>
      obtain ⟨_, _, rfl⟩ := Option.map_eq_some_iff.mp taken
      exact unchanged rfl
  | reopenTarget =>
      obtain ⟨_, _, rfl⟩ := Option.map_eq_some_iff.mp taken
      exact unchanged rfl
  | enqueueTarget targetId runId workId maxAttempts =>
      obtain ⟨enqueued, enqueues, rfl⟩ := Option.map_eq_some_iff.mp taken
      unfold enqueueTargetPipeline at enqueues
      split at enqueues
      · cases enqueues
      · obtain rfl := Option.some.inj enqueues
        exact unchanged rfl
      · obtain rfl := Option.some.inj enqueues
        exact @single _ _
          (.enqueuePipeline targetId runId workId maxAttempts) _
            ⟨trivial, rfl⟩ rfl
  | claim workerClass workerId itemConcurrency =>
      simp only [stepDatabase] at taken
      split at taken
      · cases taken
      · obtain rfl := Option.some.inj taken
        exact unchanged rfl
      · next taskId task claims =>
          obtain ⟨row, _, rfl⟩ := Option.map_eq_some_iff.mp taken
          refine @single _ _
            (.claimNext workerClass workerId now itemConcurrency) _
            ⟨trivial, trivial⟩ ?_
          rw [Queue.step, claims]
          rfl
  | reap =>
      obtain rfl := Option.some.inj taken
      refine @single _ _
        (.recoverStale (now - environment.config.staleThreshold) now) _
        ⟨trivial, trivial⟩ ?_
      simp [Queue.step, Worker.reap]
  | webCancelTask taskId =>
      obtain ⟨_, cancels, rfl⟩ := Option.map_eq_some_iff.mp taken
      refine @single _ _ (.requestCancel taskId now) _ ⟨trivial, trivial⟩ ?_
      unfold Web.taskCancel at cancels
      obtain ⟨_, _, rfl⟩ := Option.map_eq_some_iff.mp cancels
      dsimp only
      split
      · rfl
      · split <;> rfl
  | cliCancelTask taskId =>
      obtain ⟨_, cancels, rfl⟩ := Option.map_eq_some_iff.mp taken
      refine @single _ _ (.requestCancel taskId now) _ ⟨trivial, trivial⟩ ?_
      unfold Web.cliTaskCancel at cancels
      obtain ⟨_, _, cancels⟩ := Option.bind_eq_some_iff.mp cancels
      dsimp only at cancels
      split at cancels
      · split at cancels
        · obtain rfl := Option.some.inj cancels
          rfl
        · split at cancels <;> obtain rfl := Option.some.inj cancels <;> rfl
      · cases cancels
  | cancelRun runId =>
      obtain ⟨_, cancels, rfl⟩ := Option.map_eq_some_iff.mp taken
      refine @single _ _ (.requestCancelRun runId now) _ ⟨trivial, trivial⟩ ?_
      unfold Web.runCancel at cancels
      obtain ⟨_, _, rfl⟩ := Option.map_eq_some_iff.mp cancels
      dsimp only
      split <;> rfl
  | interruptDiscover runId taskId =>
      simp only [stepDatabase] at taken
      split at taken
      · obtain rfl := Option.some.inj taken
        exact @single _ _ (.requestCancel taskId now) _ ⟨trivial, trivial⟩ rfl
      · cases taken
  | concludeDiscover runId taskId =>
      simp only [stepDatabase] at taken
      split at taken
      · obtain ⟨_, concludes, rfl⟩ := Option.map_eq_some_iff.mp taken
        unfold Web.concludeDiscover at concludes
        split at concludes
        · split at concludes
          · cases concludes
          · split at concludes <;> obtain rfl := Option.some.inj concludes <;>
              exact unchanged rfl
        · cases concludes
      · cases taken
  | _ => cases taken

/-- What an event does to the tasks is a run of the queue. -/
theorem task_steps_by
    {environment : Environment} {state state' : State} {action : Action}
    (taken : step environment state action = some state') :
    Steps Queue.step
      (fun _ queueAction => CausedBy state action.event queueAction)
      state.db.task state'.db.task := by
  unfold step at taken
  split at taken
  · exact stepDatabase_task_steps taken
  · obtain ⟨execution, found, taken⟩ := Option.bind_eq_some_iff.mp taken
    exact stepExecution_task_steps found taken

theorem task_steps
    {environment : Environment} {state state' : State} {action : Action}
    (taken : step environment state action = some state') :
    Steps Queue.step
      (fun _ queueAction => Caused state action.event queueAction)
      state.db.task state'.db.task :=
  (task_steps_by taken).weaken fun _ _ caused => caused.1

/-! ## What an event does to an execution -/

/-- How an execution of the state after an event came about. -/
inductive ExecutionChange (environment : Environment)
    (state state' : State) (action : Action) (key : Nat) :
    Execution → Prop where
  | kept {before after : Execution}
      (found : state.executions.get key = some before)
      (taskId : after.taskId = before.taskId)
      (task : after.task = before.task)
      (stage : after.stage = before.stage)
      (released : after.released = false → before.released = false) :
      ExecutionChange environment state state' action key after
  | started {before : Execution} {started : Started × Database}
      (isEvent : action.event = .start key)
      (found : state.executions.get key = some before)
      (claimed : before.stage = .claimed)
      (starts : startHandler state.db before environment.parseDatetime
        action.now = some started)
      (database : state'.db = started.2) :
      ExecutionChange environment state state' action key
        { before with stage := startedStage started.1 }
  | finished {before : Execution} {work : Work} {answer : Answer}
      {finished : Except String TaskResult × Database}
      (isEvent : action.event = .finish key answer)
      (found : state.executions.get key = some before)
      (working : before.stage = .working work)
      (finishes : finishHandler state.db before work action.now answer =
        some finished)
      (database : state'.db = finished.2) :
      ExecutionChange environment state state' action key
        { before with stage := finishedStage finished.1 }
  | raised {before : Execution} {message : String}
      (found : state.executions.get key = some before) :
      ExecutionChange environment state state' action key
        { before with stage := .raised message }
  | claimed {taskId : Nat} {workerId : String} {row : TaskRow}
      (foundRow : state'.db.task.get taskId = some row) :
      ExecutionChange environment state state' action key
        { taskId, workerId, task := row }

/-- One execution moves, and the others are kept. -/
private theorem modify_cases
    {environment : Environment} {state state' : State} {action : Action}
    {changed key : Nat} {execution : Execution}
    (change : Execution → Execution)
    (executions :
      state'.executions = state.executions.modify changed change)
    (moved : ∀ before, state.executions.get changed = some before →
      ExecutionChange environment state state' action changed
        (change before))
    (found : state'.executions.get key = some execution) :
    ExecutionChange environment state state' action key execution := by
  rw [executions, Table.get_modify] at found
  split at found
  · next same =>
      subst same
      obtain ⟨before, foundBefore, rfl⟩ := Option.map_eq_some_iff.mp found
      exact moved before foundBefore
  · exact .kept found rfl rfl rfl id

private theorem erase_cases
    {environment : Environment} {state state' : State} {action : Action}
    {erased key : Nat} {execution : Execution}
    (executions : state'.executions = state.executions.erase erased)
    (found : state'.executions.get key = some execution) :
    ExecutionChange environment state state' action key execution := by
  rw [executions, Table.get_erase] at found
  split at found
  · cases found
  · exact .kept found rfl rfl rfl id

private theorem same_cases
    {environment : Environment} {state state' : State} {action : Action}
    {key : Nat} {execution : Execution}
    (executions : state'.executions = state.executions)
    (found : state'.executions.get key = some execution) :
    ExecutionChange environment state state' action key execution := by
  rw [executions] at found
  exact .kept found rfl rfl rfl id

theorem stepExecution_execution_cases
    {environment : Environment} {state state' : State} {now : Time}
    {event : Event} {moved key : Nat} {before execution : Execution}
    (isEvent : event.execution = some moved)
    (foundBefore : state.executions.get moved = some before)
    (taken : stepExecution environment state now moved before event =
      some state')
    (found : state'.executions.get key = some execution) :
    ExecutionChange environment state state' ⟨event, now⟩ key execution := by
  have isBefore : ∀ other, state.executions.get moved = some other →
      other = before := by
    intro other foundOther
    rw [foundBefore, Option.some.injEq] at foundOther
    exact foundOther.symm
  cases event with
  | heartbeat =>
      obtain rfl := Option.some.inj taken
      let beat := heartbeat state.db.task before.taskId before.workerId now
      exact modify_cases
        (fun other =>
          { other with
            cancelSeen := other.cancelSeen || beat.1 == some true })
        rfl (fun _ foundOther => .kept foundOther rfl rfl rfl id) found
  | progress =>
      obtain rfl := Option.some.inj taken
      exact same_cases rfl found
  | start =>
      obtain rfl := Option.some.inj isEvent
      simp only [stepExecution] at taken
      split at taken
      · next claimed =>
          obtain ⟨started, starts, rfl⟩ := Option.map_eq_some_iff.mp taken
          refine modify_cases (fun other => { other with stage := _ }) rfl
            (fun other foundOther => ?_) found
          obtain rfl := isBefore other foundOther
          exact .started rfl foundOther claimed starts rfl
      · cases taken
  | finish _ answer =>
      obtain rfl := Option.some.inj isEvent
      simp only [stepExecution] at taken
      split at taken
      · next work working =>
          obtain ⟨finished, finishes, rfl⟩ :=
            Option.map_eq_some_iff.mp taken
          refine modify_cases (fun other => { other with stage := _ }) rfl
            (fun other foundOther => ?_) found
          obtain rfl := isBefore other foundOther
          exact .finished rfl foundOther working finishes rfl
      · cases taken
  | raise _ message =>
      simp only [stepExecution] at taken
      split at taken
      · obtain rfl := Option.some.inj taken
        exact modify_cases _ rfl (fun _ foundOther => .raised foundOther) found
      · obtain rfl := Option.some.inj taken
        exact modify_cases _ rfl (fun _ foundOther => .raised foundOther) found
      · cases taken
  | settle _ retryDelay =>
      simp only [stepExecution] at taken
      split at taken
      · cases taken
      · obtain ⟨result, isResult, rfl⟩ := Option.map_eq_some_iff.mp taken
        exact erase_cases rfl found
  | finishUnavailable =>
      simp only [stepExecution] at taken
      split at taken
      · split at taken
        · cases taken
        · obtain rfl := Option.some.inj taken
          exact erase_cases rfl found
      · cases taken
  | release =>
      simp only [stepExecution] at taken
      split at taken
      · cases taken
      · obtain rfl := Option.some.inj taken
        exact modify_cases (fun other => { other with released := true }) rfl
          (fun _ foundOther => .kept foundOther rfl rfl rfl
            fun impossible => by cases impossible) found
  | crash =>
      obtain rfl := Option.some.inj taken
      exact erase_cases rfl found
  | _ => cases isEvent

/-- The events of other parties leave the executions, or add one. -/
theorem stepDatabase_execution_cases
    {environment : Environment} {state state' : State} {now : Time}
    {event : Event} {key : Nat} {execution : Execution}
    (taken : stepDatabase environment state now event = some state')
    (found : state'.executions.get key = some execution) :
    ExecutionChange environment state state' ⟨event, now⟩ key execution := by
  cases event with
  | claim workerClass workerId itemConcurrency =>
      simp only [stepDatabase] at taken
      split at taken
      · cases taken
      · obtain rfl := Option.some.inj taken
        exact same_cases rfl found
      · next taskId task claims =>
          obtain ⟨row, foundRow, rfl⟩ := Option.map_eq_some_iff.mp taken
          rw [Table.get_insert] at found
          split at found
          · obtain rfl := Option.some.inj found
            exact .claimed foundRow
          · exact .kept found rfl rfl rfl id
  | createTarget | reap =>
      obtain rfl := Option.some.inj taken
      exact same_cases rfl found
  | interruptDiscover =>
      simp only [stepDatabase] at taken
      split at taken
      · obtain rfl := Option.some.inj taken
        exact same_cases rfl found
      · cases taken
  | concludeDiscover =>
      simp only [stepDatabase] at taken
      split at taken
      · obtain ⟨_, _, rfl⟩ := Option.map_eq_some_iff.mp taken
        exact same_cases rfl found
      · cases taken
  | startDiscover | blockTarget | reopenTarget | enqueueTarget
  | webCancelTask | cliCancelTask | cancelRun =>
      obtain ⟨_, _, rfl⟩ := Option.map_eq_some_iff.mp taken
      exact same_cases rfl found
  | _ => cases taken

theorem execution_cases
    {environment : Environment} {state state' : State} {action : Action}
    {key : Nat} {execution : Execution}
    (taken : step environment state action = some state')
    (found : state'.executions.get key = some execution) :
    ExecutionChange environment state state' action key execution := by
  unfold step at taken
  split at taken
  · exact stepDatabase_execution_cases taken found
  · next moved isEvent =>
      obtain ⟨before, foundBefore, taken⟩ :=
        Option.bind_eq_some_iff.mp taken
      exact stepExecution_execution_cases isEvent foundBefore taken found

end Sluicery.System
