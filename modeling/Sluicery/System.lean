import Sluicery.Core.Sync
import Sluicery.Web.Cancel

/-!
# The system of workers, handlers and users

The state is the database and the executions: threads of workers, each with
the task as it was claimed and the stage its handler has reached.  An event
is one whole operation of a party: a phase of a download or discover Run, a
claim, a handler's part before or after its external work, a settlement,
stale recovery, or a cancel.  Any execution can be delayed, overtaken or lost
between its events, also after its task was recovered, released or cancelled.
-/

namespace Sluicery.System

open Sluicery.Library Sluicery.Db Sluicery.Db.TaskRepository
open Sluicery.Core Sluicery.Tasks Sluicery.Tasks.Handlers

/-! ## State -/

/-- How far the handler of an execution has come. -/
inductive Stage where
  | claimed
  | working (work : Work)
  | returned (result : TaskResult)
  | raised (message : String)

/-- A thread which executes a claimed task. -/
structure Execution where
  taskId : Nat
  workerId : String
  /-- The task as it was claimed. -/
  task : TaskRow
  stage : Stage := .claimed
  cancelSeen : Bool := false
  /-- The worker has released the task, but the handler may still run. -/
  released : Bool := false

/-- The database and the threads. -/
structure State where
  db : Database := {}
  executions : Table Execution := .empty

/-- The answer of the external work, by handler. -/
inductive Answer where
  | download (answer : DownloadAnswer)
  | verify (answer : VerifyAnswer)
  | publish (answer : PublishAnswer)
  | index (stagingDeleted : Bool)
  | discover (answer : DiscoverAnswer)

/-- What can happen. -/
inductive Event where
  | createTarget (itemId playlistProfileId : Nat)
  | startDiscover (playlistId : Nat) (dryRun : Bool) (trigger : RunTrigger)
      (attempts : Nat)
  | blockTarget (targetId : Nat) (reason : Option String)
  | reopenTarget (targetId : Nat)
  | enqueueTarget (targetId : Nat) (runId : Option Nat) (workId : String)
      (maxAttempts : Nat)
  | claim (workerClass : WorkerClass) (workerId : String)
      (itemConcurrency : Option Nat)
  | heartbeat (execution : Nat)
  | progress (execution : Nat) (fields : Json.Fields)
  | start (execution : Nat)
  | finish (execution : Nat) (answer : Answer)
  | raise (execution : Nat) (message : String)
  | settle (execution : Nat) (retryDelay : Time)
  | finishUnavailable (execution : Nat)
  | release (execution : Nat)
  | crash (execution : Nat)
  | reap
  | webCancelTask (taskId : Nat)
  | cliCancelTask (taskId : Nat)
  | cancelRun (runId : Nat)
  | interruptDiscover (runId taskId : Nat)
  | concludeDiscover (runId taskId : Nat)

/-- An event and its time. -/
structure Action where
  event : Event
  now : Time := 0

/-! ## Handlers -/

/-- The stage after the first part of a handler. -/
def startedStage : Started → Stage
  | .returned result => .returned result
  | .raised message => .raised message
  | .working work => .working work

/-- The stage after the second part of a handler. -/
def finishedStage : Except String TaskResult → Stage
  | .ok result => .returned result
  | .error message => .raised message

/-- `handler.run` up to its external work; `none` if there is no handler. -/
def startHandler (db : Database) (execution : Execution)
    (parseDatetime : String → Option Time) (now : Time) :
    Option (Started × Database) :=
  let payload := execution.task.payloadJson.getD []
  match execution.task.type with
  | .discover =>
      some (discoverStart db payload execution.task.runId now)
  | .download => some (downloadStart db payload now)
  | .verify => some (verifyStart db execution.taskId payload now)
  | .postprocess =>
      some (postprocessStart db execution.taskId payload, db)
  | .publish => some (publishStart db execution.taskId payload now)
  | .index =>
      some (indexStart db execution.taskId payload parseDatetime now)
  | _ => none

/-- `handler.run` after its external work. -/
def finishHandler (db : Database) (execution : Execution) (work : Work)
    (now : Time) : Answer → Option (Except String TaskResult × Database)
  | .download answer =>
      if execution.task.type = .download then
        some (downloadFinish db work answer now)
      else none
  | .verify answer =>
      if execution.task.type = .verify then
        some (verifyFinish db work answer now)
      else none
  | .publish answer =>
      if execution.task.type = .publish then
        some (publishFinish db work answer now)
      else none
  | .index stagingDeleted =>
      if execution.task.type = .index then
        some (.ok (indexFinish work stagingDeleted), db)
      else none
  | .discover answer =>
      if execution.task.type = .discover then
        let finished := discoverFinish db
          (execution.task.payloadJson.getD []) execution.task.runId answer
          now
        some (.ok finished.1, finished.2)
      else none

/-- The result which `_execute` hands to `_apply_result`. -/
def resultOf (execution : Execution) : Option TaskResult :=
  let result : Option TaskResult :=
    match execution.stage with
    | .returned result => some result
    | .raised message =>
        some { outcome := .failed, message := some message }
    | _ => none
  if execution.cancelSeen then
    result.map fun _ => { outcome := .cancelled }
  else result

/-! ## Steps -/

/-- What the environment fixes: the settings and the parsing of dates. -/
structure Environment where
  config : Worker.Config
  parseDatetime : String → Option Time

/-- The state with a new stage of one execution. -/
def State.withStage (state : State) (key : Nat) (stage : Stage)
    (db : Database) : State :=
  { db
    executions := state.executions.modify key fun execution =>
      { execution with stage } }

/-- An owner's write, which does not look at the answer. -/
def State.write (state : State) (execution : Execution)
    (write : Queue.Write) : Database :=
  { state.db with
    task := (write.perform state.db.task execution.taskId
      execution.workerId).2 }

/-- One event of an execution. -/
def stepExecution (environment : Environment) (state : State) (now : Time)
    (key : Nat) (execution : Execution) : Event → Option State
  | .heartbeat _ =>
      let beat := heartbeat state.db.task execution.taskId
        execution.workerId now
      some
        { db := { state.db with task := beat.2 }
          executions := state.executions.modify key fun execution =>
            { execution with
              cancelSeen :=
                execution.cancelSeen || beat.1 == some true } }
  | .progress _ fields =>
      some { state with db := state.write execution (.progress fields) }
  | .start _ =>
      match execution.stage with
      | .claimed =>
          (startHandler state.db execution environment.parseDatetime
            now).map fun started =>
              state.withStage key (startedStage started.1) started.2
      | _ => none
  | .finish _ answer =>
      match execution.stage with
      | .working work =>
          (finishHandler state.db execution work now answer).map
            fun finished =>
              state.withStage key (finishedStage finished.1) finished.2
      | _ => none
  | .raise _ message =>
      match execution.stage with
      | .claimed | .working _ =>
          some (state.withStage key (.raised message) state.db)
      | _ => none
  | .settle _ retryDelay =>
      if execution.released then none
      else
        (resultOf execution).map fun result =>
          { db := Worker.applyResult state.db environment.config
              execution.taskId execution.task execution.workerId result
              retryDelay now
            executions := state.executions.erase key }
  | .finishUnavailable _ =>
      match execution.stage with
      | .claimed =>
          if execution.released then none
          else
            some
              { db := Worker.finishUnavailable state.db execution.taskId
                  execution.workerId
                  (Worker.handlerMissing execution.task.type) now
                executions := state.executions.erase key }
      | _ => none
  | .release _ =>
      if execution.released then none
      else
        some
          { db := state.write execution (.release now)
            executions := state.executions.modify key fun execution =>
              { execution with released := true } }
  | .crash _ =>
      some { state with executions := state.executions.erase key }
  | _ => none

/-- The execution an event belongs to. -/
def Event.execution : Event → Option Nat
  | .heartbeat key | .progress key _ | .start key | .finish key _
  | .raise key _ | .settle key _ | .finishUnavailable key | .release key
  | .crash key => some key
  | _ => none

/-- A command waits for the discover task of its own Run. -/
def startedTogether (db : Database) (runId taskId : Nat) : Bool :=
  (db.task.get taskId).any fun task =>
    task.type == .discover && task.runId == some runId

/-- One event of the other parties. -/
def stepDatabase (environment : Environment) (state : State) (now : Time) :
    Event → Option State
  | .createTarget itemId playlistProfileId =>
      some { state with db := { state.db with
        target := state.db.target.insert
          { itemId, playlistProfileId, updatedAt := now } } }
  | .startDiscover playlistId dryRun trigger attempts =>
      (enqueueDiscoverRun state.db playlistId dryRun trigger attempts
        now).toOption.map fun started => { state with db := started.2 }
  | .blockTarget targetId reason =>
      (transitionTarget state.db.target targetId .blocked reason reason
        false now).toOption.map fun target =>
          { state with db := { state.db with target } }
  | .reopenTarget targetId =>
      (transitionTarget state.db.target targetId .pending none none false
        now).toOption.map fun target =>
          { state with db := { state.db with target } }
  | .enqueueTarget targetId runId workId maxAttempts =>
      (enqueueTargetPipeline state.db targetId runId workId maxAttempts
        now).toOption.map fun enqueued => { state with db := enqueued.2 }
  | .claim workerClass workerId itemConcurrency =>
      match claimNext state.db.task workerClass workerId now
          itemConcurrency with
      | .error _ => none
      | .ok (none, _) => some state
      | .ok (some taskId, task) =>
          (task.get taskId).map fun row =>
            { db := { state.db with task }
              executions := state.executions.insert
                { taskId, workerId, task := row } }
  | .reap =>
      some { state with
        db := Worker.reap state.db environment.config now }
  | .webCancelTask taskId =>
      (Web.taskCancel state.db taskId now).map fun db => { state with db }
  | .cliCancelTask taskId =>
      (Web.cliTaskCancel state.db taskId now).map fun db =>
        { state with db }
  | .cancelRun runId =>
      (Web.runCancel state.db runId now).map fun db => { state with db }
  | .interruptDiscover runId taskId =>
      if startedTogether state.db runId taskId then
        some { state with
          db := Web.interruptDiscover state.db runId taskId now }
      else none
  | .concludeDiscover runId taskId =>
      if startedTogether state.db runId taskId then
        (Web.concludeDiscover state.db runId taskId now).map fun db =>
          { state with db }
      else none
  | _ => none

/-- One event. -/
def step (environment : Environment) (state : State) (action : Action) :
    Option State :=
  match action.event.execution with
  | none => stepDatabase environment state action.now action.event
  | some key =>
      (state.executions.get key).bind fun execution =>
        stepExecution environment state action.now key execution
          action.event

end Sluicery.System
