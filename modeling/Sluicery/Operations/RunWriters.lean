import Sluicery.Operations
import Sluicery.System.RunRows

/-!
# The writers of Runs, statement by statement

`Operations` takes the cancel of a Run, the end of a waiting command, stale
recovery and the recovery of Runs as one event each.  Their code commits
between its statements and writes later what it has read before.  Here such a
call is a writer: it keeps what it has read, and its next statement is one
step, so that everything else can happen in between.
-/

namespace Sluicery.Operations.RunWriters

open Sluicery.Library Sluicery.Library.Transition
open Sluicery.Db Sluicery.Db.TaskRepository
open Sluicery.Core Sluicery.Scheduler

/-! ## Recovery of Runs -/

/-- A Run which `recover_orphan_runs` ends, with the tasks it has read. -/
structure Decision where
  runId : Nat
  run : RunRow
  tasks : List (Nat × TaskRow)

/-- A call of `recover_orphan_runs` before its first update. -/
structure Recovery where
  /-- The clock of the call. -/
  now : Time
  staleThreshold : Time
  /-- The rest of `running_runs`. -/
  remaining : List (Nat × RunRow)
  decision : Option Decision := none

/-- The Run is left alone. -/
def isSpared (now : Time) (run : RunRow) (tasks : List (Nat × TaskRow)) :
    Bool :=
  (tasks.any fun task => isUnfinished task.2.status) ||
    (tasks.isEmpty && run.kind == "download" &&
      decide (now - tasklessDownloadRecovery ≤ run.startedAt))

/-- `running_runs`. -/
def runningRuns (runs : Table RunRow) (staleThreshold now : Time) :
    List (Nat × RunRow) :=
  runs.select fun _ run =>
    run.status == .running && decide (run.startedAt < now - staleThreshold)

namespace Recovery

/-- The decision on one of `running_runs`, unless it is left alone. -/
def consider (recovery : Recovery) (db : Database) (entry : Nat × RunRow) :
    Option Decision :=
  let tasks := runTasks db entry.1
  if isSpared recovery.now entry.2 tasks then none
  else some { runId := entry.1, run := entry.2, tasks }

/--
The Runs which the next step ends.  The first update takes the write lock of
the database and keeps it up to the commit, so the Runs after the first are
read and ended in the same step.
-/
def ending (recovery : Recovery) (db : Database) : List Decision :=
  match recovery.decision with
  | none => []
  | some decision =>
      decision :: recovery.remaining.filterMap (recovery.consider db)

end Recovery

/-- One Run is ended. -/
def endRun (decision : Decision) (now : Time) (runs : Table RunRow) :
    Table RunRow :=
  (RunRepository.finish runs decision.runId (orphanStatus decision.tasks)
    (orphanStats decision.run decision.tasks) now).2

/-- The updates of a recovery, up to its commit. -/
def endRuns (now : Time) : List Decision → Table RunRow → Table RunRow
  | [], runs => runs
  | decision :: rest, runs => endRuns now rest (endRun decision now runs)

/-! ## Writers -/

/-- A call with what it has read, by the statement it comes to next. -/
inductive Writer where
  /-- `run_cancel` with the Run it has read. -/
  | cancelRun (runId : Nat) (stats : Json.Fields)
  | finishCancelled (runId : Nat) (stats : Json.Fields)
  | syncCancelled (runId : Nat)
  /-- The interrupted command, which has requested the cancel of its task. -/
  | finishInterrupted (runId : Nat)
  /-- The command which has seen its task in a terminal status. -/
  | concludeRun (runId : Nat) (taskStatus : TaskStatus)
  | finishConcluded (runId : Nat) (status : RunStatus) (stats : Json.Fields)
  /-- `StaleTaskReaper.run_once` with the recovered tasks before it. -/
  | reapTasks (recovered : List Nat)
  | reapRun (runId : Nat) (recovered : List Nat)
  | finishReaped (runId : Nat) (stats : Json.Fields) (recovered : List Nat)
  | recoverRuns (recovery : Recovery)

/-- The world and the calls between their statements. -/
structure State where
  world : World := {}
  writers : Table Writer := .empty

namespace State

/-- The database. -/
abbrev db (state : State) : Database := state.world.db

/-- Somebody writes other tables than those of the tasks and Runs. -/
def configured (state : State) (db : Database) : State :=
  let kept := { db with task := state.db.task, run := state.db.run }
  { state with world := state.world.withDb kept }

/-- A call has come to its next statement, or returned. -/
def continued (state : State) (key : Nat) (db : Database) :
    Option Writer → State
  | none =>
      { world := state.world.withDb db, writers := state.writers.erase key }
  | some writer =>
      { world := state.world.withDb db
        writers := state.writers.modify key fun _ => writer }

/-- A call has come to its second statement. -/
def began (state : State) (db : Database) (writer : Writer) : State :=
  { world := state.world.withDb db, writers := state.writers.insert writer }

end State

/-! ## Statements -/

/-- The next statement of `recover_orphan_runs`. -/
def Recovery.proceed (recovery : Recovery) (db : Database) (now : Time) :
    Database × Option Recovery :=
  match recovery.decision, recovery.remaining with
  | some _, _ =>
      ({ db with run := endRuns now (recovery.ending db) db.run }, none)
  | none, [] => (db, none)
  | none, entry :: rest =>
      (db, some { recovery with
        remaining := rest
        decision := recovery.consider db entry })

/-- One recovered task of the reaper: its Target, and whether its Run is next. -/
def reapStatement (db : Database) (taskId : Nat) (rest : List Nat)
    (now : Time) : Database × Writer :=
  match db.task.get taskId with
  | none => (db, .reapTasks rest)
  | some task =>
      if task.status = .unavailable then
        ({ db with
            target := (syncTargetAfterTask db.target task .unavailable
              (some ((task.errorMessage.filter (· ≠ "")).getD
                "stale Taskが再試行上限に達しました")) false now).2 },
          match task.type, task.runId with
          | .discover, some runId => .reapRun runId rest
          | _, _ => .reapTasks rest)
      else (db, .reapTasks rest)

/-- The next statement of a call. -/
def Writer.proceed (db : Database) (now : Time) :
    Writer → Database × Option Writer
  | .cancelRun runId stats =>
      let requested := requestCancelRun db.task runId now
      ({ db with task := requested.2 },
        if requested.1 = 0 then none else some (.finishCancelled runId stats))
  | .finishCancelled runId stats =>
      ({ db with
          run := (RunRepository.finish db.run runId .cancelled stats now).2 },
        some (.syncCancelled runId))
  | .syncCancelled runId =>
      ({ db with
          target := Web.syncCancelledTargets db.task db.target runId now },
        none)
  | .finishInterrupted runId =>
      ({ db with
          run := (RunRepository.finish db.run runId .cancelled [] now).2 },
        none)
  | .concludeRun runId taskStatus =>
      match db.run.get runId with
      | none => (db, none)
      | some run =>
          if taskStatus ≠ .succeeded ∧ run.status = .running then
            (db, some (.finishConcluded runId
              (if taskStatus = .cancelled then .cancelled else .failed)
              (run.statsJson.getD [])))
          else (db, none)
  | .finishConcluded runId status stats =>
      ({ db with run := (RunRepository.finish db.run runId status stats now).2 },
        none)
  | .reapTasks [] => (db, none)
  | .reapTasks (taskId :: rest) =>
      let reaped := reapStatement db taskId rest now
      (reaped.1, some reaped.2)
  | .reapRun runId rest =>
      match db.run.get runId with
      | none => (db, some (.reapTasks rest))
      | some run =>
          if run.status = .running then
            (db, some (.finishReaped runId
              (Json.update (run.statsJson.getD [])
                [("empty_result", .bool true),
                  ("stale_recovered", .bool true)]) rest))
          else (db, some (.reapTasks rest))
  | .finishReaped runId stats rest =>
      ({ db with run := (RunRepository.finish db.run runId .failed stats now).2 },
        some (.reapTasks rest))
  | .recoverRuns recovery =>
      let proceeded := recovery.proceed db now
      (proceeded.1, proceeded.2.map .recoverRuns)

/-! ## Steps -/

/-- What can happen. -/
inductive Event where
  | operations (event : Operations.Event)
  /-- Somebody writes other tables than those of the tasks and Runs. -/
  | configure (db : Database)
  | runCancel (runId : Nat)
  | interruptDiscover (runId taskId : Nat)
  | concludeDiscover (runId taskId : Nat)
  | reap
  | recoverOrphanRuns (staleThreshold : Time)
  | proceed (writer : Nat)
  /-- The process of a call stops. -/
  | stop (writer : Nat)

/-- An event and its time. -/
structure Action where
  event : Event
  now : Time := 0

/-- The events of `Operations` which are calls with several statements here. -/
def isCall : Operations.Event → Bool
  | .system (.cancelRun _) | .system (.interruptDiscover ..)
  | .system (.concludeDiscover ..) | .system .reap | .recoverOrphanRuns =>
      true
  | _ => false

/-- One event. -/
def step (environment : Environment) (state : State) (action : Action) :
    Option State :=
  match action.event with
  | .operations event =>
      if isCall event then none
      else
        (Operations.step environment state.world ⟨event, action.now⟩).map
          fun world => { state with world }
  | .configure db => some (state.configured db)
  | .runCancel runId =>
      (state.db.run.get runId).map fun run =>
        state.began state.db (.cancelRun runId (run.statsJson.getD []))
  | .interruptDiscover runId taskId =>
      if System.startedTogether state.db runId taskId then
        some (state.began
          { state.db with
            task := (requestCancel state.db.task taskId action.now).2 }
          (.finishInterrupted runId))
      else none
  | .concludeDiscover runId taskId =>
      if System.startedTogether state.db runId taskId then
        (state.db.task.get taskId).bind fun task =>
          if isUnfinished task.status then none
          else some (state.began state.db (.concludeRun runId task.status))
      else none
  | .reap =>
      let recovered := recoverStale state.db.task
        (action.now - environment.system.config.staleThreshold) action.now
      some (state.began { state.db with task := recovered.2 }
        (.reapTasks recovered.1))
  | .recoverOrphanRuns staleThreshold =>
      some (state.began state.db (.recoverRuns
        { now := action.now
          staleThreshold
          remaining :=
            runningRuns state.db.run staleThreshold action.now }))
  | .proceed key =>
      (state.writers.get key).map fun writer =>
        let proceeded := writer.proceed state.db action.now
        state.continued key proceeded.1 proceeded.2
  | .stop key =>
      (state.writers.get key).map fun _ => state.continued key state.db none

end Sluicery.Operations.RunWriters
