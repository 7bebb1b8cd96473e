import Sluicery.Operations.CancelledRuns

/-!
# Uninterrupted calls

A call whose statements are not interrupted does what its one event in
`Operations` does.  So every run of `Operations` is a run of the writers, and
what every order of the statements keeps, every order of the events keeps.
-/

namespace Sluicery.Operations.RunWriters

open Sluicery.Library Sluicery.Library.Transition
open Sluicery.Db Sluicery.Db.TaskRepository
open Sluicery.Core Sluicery.Tasks Sluicery.Scheduler

/-! ## Calls without an interruption -/

/-- The call returns with the database, if nothing comes between. -/
inductive Returns (now : Time) : Database → Writer → Database → Prop where
  | last {db after : Database} {writer : Writer}
      (proceeds : writer.proceed db now = (after, none)) :
      Returns now db writer after
  | continues {db middle after : Database} {writer next : Writer}
      (proceeds : writer.proceed db now = (middle, some next))
      (rest : Returns now middle next after) : Returns now db writer after

section Tables

variable {Row : Type} (table : Table Row)

/-- A row which was just inserted is changed. -/
theorem modify_insert_nextKey (row : Row) (change : Row → Row) :
    (table.insert row).modify table.nextKey change =
      table.insert (change row) := by
  apply Table.ext_get
  intro key
  rw [Table.get_modify, Table.get_insert, Table.get_insert]
  split <;> rfl

/-- A row which was just inserted is gone. -/
theorem erase_insert_nextKey (row : Row) :
    (table.insert row).erase table.nextKey = table := by
  apply Table.ext_get
  intro key
  rw [Table.get_erase, Table.get_insert]
  split
  · next same => rw [same, Table.get_nextKey]
  · rfl

end Tables

/-- The next statement of a call which has just begun. -/
theorem step_began
    (environment : Environment) (state : State) (db : Database)
    (writer : Writer) (now : Time) :
    step environment (state.began db writer)
      ⟨.proceed state.writers.nextKey, now⟩ =
      some (match writer.proceed db now with
        | (after, none) => { state with world := state.world.withDb after }
        | (after, some next) => state.began after next) := by
  have found : (state.began db writer).writers.get state.writers.nextKey =
      some writer := Table.get_insert_nextKey _ _
  simp only [step]
  rw [found, Option.map_some, Option.some.injEq]
  show State.continued _ _ (writer.proceed db now).1
    (writer.proceed db now).2 = _
  rcases writer.proceed db now with ⟨after, _ | next⟩
  · simp [State.continued, State.began, World.withDb, erase_insert_nextKey]
  · simp [State.continued, State.began, World.withDb,
      modify_insert_nextKey]

/-- The statements of a call which began, one after the other. -/
theorem reaches_of_returns
    {environment : Environment} {state : State} {db after : Database}
    {writer : Writer} {now : Time} (returns : Returns now db writer after) :
    Reaches environment (state.began db writer)
      { state with world := state.world.withDb after } := by
  induction returns with
  | @last db after writer proceeds =>
      have taken := step_began environment state db writer now
      rw [proceeds] at taken
      exact .single trivial taken
  | @continues db middle after writer next proceeds rest induction =>
      have taken := step_began environment state db writer now
      rw [proceeds] at taken
      exact Steps.trans (.single trivial taken) induction

/-! ## The cancel of a Run and the waiting command -/

theorem returns_cancelRun
    {db after : Database} {runId : Nat} {run : RunRow} {now : Time}
    (found : db.run.get runId = some run)
    (cancels : Web.runCancel db runId now = some after) :
    Returns now db (.cancelRun runId (run.statsJson.getD [])) after := by
  unfold Web.runCancel at cancels
  rw [found, Option.map_some, Option.some.injEq] at cancels
  dsimp only at cancels
  split at cancels
  · next none =>
      subst cancels
      apply Returns.last
      simp [Writer.proceed, none]
  · next meets =>
      subst cancels
      have asked : (Writer.cancelRun runId (run.statsJson.getD [])).proceed
          db now = ({ db with task := (requestCancelRun db.task runId now).2 },
            some (.finishCancelled runId (run.statsJson.getD []))) := by
        simp [Writer.proceed, meets]
      exact .continues asked (.continues rfl
        (@Returns.last _ _ _ (.syncCancelled runId) rfl))

/-- The command reads its Run, and ends it if it is running. -/
theorem returns_concludeRun
    {db after : Database} {runId taskId : Nat} {now : Time}
    (concludes : Web.concludeDiscover db runId taskId now = some after) :
    ∃ task, db.task.get taskId = some task ∧
      isUnfinished task.status = false ∧
      Returns now db (.concludeRun runId task.status) after := by
  unfold Web.concludeDiscover at concludes
  split at concludes
  case h_2 => cases concludes
  next task run found foundRun =>
  split at concludes
  · cases concludes
  next ended =>
  refine ⟨task, found, by simpa using ended, ?_⟩
  split at concludes
  · next ends =>
      cases concludes
      have reads : (Writer.concludeRun runId task.status).proceed db now =
          (db, some (.finishConcluded runId
            (if task.status = .cancelled then .cancelled else .failed)
            (run.statsJson.getD []))) := by
        simp [Writer.proceed, foundRun, ends]
      exact .continues reads (.last rfl)
  · next stays =>
      cases concludes
      apply Returns.last
      simp only [Writer.proceed, foundRun]
      rw [if_neg stays]

/-! ## Stale recovery -/

/-- The Run of a recovered discover task, and then the other tasks. -/
theorem returns_reapRun
    {db after : Database} {now : Time} {task : TaskRow} {runId : Nat}
    {rest : List Nat} (isDiscover : task.type = .discover)
    (inRun : task.runId = some runId)
    (others : Returns now { db with run := Worker.reapRun db.run task now }
      (.reapTasks rest) after) :
    Returns now db (.reapRun runId rest) after := by
  simp only [Worker.reapRun, isDiscover, inRun] at others
  cases found : db.run.get runId with
  | none =>
      rw [found] at others
      refine .continues ?_ others
      simp [Writer.proceed, found]
  | some run =>
      rw [found] at others
      dsimp only at others
      split at others
      · next running =>
          have ends := @Returns.continues now db _ after
            (.finishReaped runId (Json.update (run.statsJson.getD [])
              [("empty_result", .bool true), ("stale_recovered", .bool true)])
              rest) _ rfl others
          refine .continues ?_ ends
          simp [Writer.proceed, found, running]
      · next ended =>
          refine .continues ?_ others
          simp [Writer.proceed, found, ended]

/-- One recovered task, and then the others. -/
theorem returns_reapTask
    {db after : Database} {now : Time} {taskId : Nat} {rest : List Nat}
    (others : Returns now (Worker.reapTask db now taskId) (.reapTasks rest)
      after) :
    Returns now db (.reapTasks (taskId :: rest)) after := by
  unfold Worker.reapTask at others
  cases found : db.task.get taskId with
  | none =>
      rw [found] at others
      refine .continues ?_ others
      simp [Writer.proceed, reapStatement, found]
  | some task =>
      rw [found] at others
      dsimp only at others
      split at others
      case isFalse other =>
        refine .continues ?_ others
        simp [Writer.proceed, reapStatement, found, other]
      next unavailable =>
      by_cases handles : task.type = .discover ∧ ∃ runId,
          task.runId = some runId
      · rcases handles with ⟨isDiscover, runId, inRun⟩
        have ends := @returns_reapRun
          { db with
            target := (syncTargetAfterTask db.target task .unavailable
              (some ((task.errorMessage.filter (· ≠ "")).getD
                "stale Taskが再試行上限に達しました")) false now).2 }
          _ _ _ _ _ isDiscover inRun others
        refine .continues ?_ ends
        simp only [Writer.proceed, reapStatement, found, unavailable,
          isDiscover, inRun, if_true]
      · have noRun : ∀ runs, Worker.reapRun runs task now = runs := by
          intro runs
          unfold Worker.reapRun
          split
          · next isDiscover inRun => exact absurd ⟨isDiscover, _, inRun⟩ handles
          · rfl
        rw [noRun] at others
        refine .continues ?_ others
        simp only [Writer.proceed, reapStatement, found, unavailable, if_true]
        split
        · next isDiscover inRun => exact absurd ⟨isDiscover, _, inRun⟩ handles
        · rfl

theorem returns_reapTasks (now : Time) (recovered : List Nat)
    (db : Database) :
    Returns now db (.reapTasks recovered)
      (Worker.reapTasks now recovered db) := by
  induction recovered generalizing db with
  | nil => exact .last rfl
  | cons taskId rest induction => exact returns_reapTask (induction _)

/-! ## Recovery of Runs -/

/-- The updates of `Scheduler` are those of its decisions. -/
theorem recoverEach_eq
    (db : Database) (now : Time) (entries : List (Nat × RunRow))
    (runs : Table RunRow) :
    recoverEach db now entries runs =
      endRuns now (entries.map fun entry =>
        ⟨entry.1, entry.2, runTasks db entry.1⟩) runs := by
  induction entries generalizing runs with
  | nil => rfl
  | cons entry rest induction => exact induction _

/-- An orphan is one of `running_runs` which is not left alone. -/
theorem isOrphan_eq
    (db : Database) (staleThreshold now : Time) (runId : Nat)
    (run : RunRow) :
    isOrphan db staleThreshold now runId run =
      ((run.status == .running &&
        decide (run.startedAt < now - staleThreshold)) &&
        !isSpared now run (runTasks db runId)) := by
  unfold isOrphan isSpared
  rw [Bool.not_or, Bool.and_assoc]

/-- The orphans are those of `running_runs` for which there is a decision. -/
theorem filterMap_consider
    (db : Database) (recovery : Recovery) (staleThreshold : Time) :
    (runningRuns db.run staleThreshold recovery.now).filterMap
        (recovery.consider db) =
      (db.run.select (isOrphan db staleThreshold recovery.now)).map
        fun entry => ⟨entry.1, entry.2, runTasks db entry.1⟩ := by
  unfold runningRuns Table.select
  induction db.run.rows with
  | nil => rfl
  | cons entry rest induction =>
      rw [List.filter_cons, List.filter_cons, isOrphan_eq]
      by_cases running : (entry.2.status == .running &&
          decide (entry.2.startedAt < recovery.now - staleThreshold)) = true
      · rw [if_pos running, running, Bool.true_and]
        cases spared : isSpared recovery.now entry.2
            (runTasks db entry.1) with
        | true =>
            rw [List.filterMap_cons_none (by
              simp [Recovery.consider, spared]), induction]
            simp
        | false =>
            rw [List.filterMap_cons_some (by
              simp only [Recovery.consider, spared]; rfl), induction]
            simp
      · rw [if_neg running, Bool.eq_false_iff.mpr running, induction]
        simp

/-- The recovery of Runs, read and ended in one go. -/
theorem recoverOrphanRuns_eq
    (db : Database) (recovery : Recovery) (staleThreshold : Time) :
    recoverOrphanRuns db staleThreshold recovery.now =
      { db with
        run := endRuns recovery.now
          ((runningRuns db.run staleThreshold recovery.now).filterMap
            (recovery.consider db)) db.run } := by
  rw [filterMap_consider, ← recoverEach_eq]
  rfl

/-- The Runs which are left alone are passed, and the others are ended. -/
theorem returns_recoverRuns
    {db : Database} {now : Time} (remaining : List (Nat × RunRow))
    (recovery : Recovery)
    (isRemaining : recovery.remaining = remaining)
    (undecided : recovery.decision = none) :
    Returns now db (.recoverRuns recovery)
      { db with
        run := endRuns now (remaining.filterMap (recovery.consider db))
          db.run } := by
  induction remaining generalizing recovery with
  | nil =>
      apply Returns.last
      simp only [Writer.proceed, Recovery.proceed, undecided, isRemaining]
      rfl
  | cons entry rest induction =>
      have reads : (Writer.recoverRuns recovery).proceed db now =
          (db, some (.recoverRuns { recovery with
            remaining := rest
            decision := recovery.consider db entry })) := by
        simp only [Writer.proceed, Recovery.proceed, undecided, isRemaining]
        rfl
      apply Returns.continues reads
      cases considered : recovery.consider db entry with
      | none =>
          rw [List.filterMap_cons_none considered]
          exact induction _ rfl rfl
      | some decision =>
          rw [List.filterMap_cons_some considered]
          exact .last rfl

/-! ## Every event -/

/-- A call begins, and no other event comes before it returns. -/
theorem reaches_of_begins
    {environment : Environment} {state : State} {event : Event} {now : Time}
    {db after : Database} {writer : Writer}
    (begins : step environment state ⟨event, now⟩ =
      some (state.began db writer))
    (returns : Returns now db writer after) :
    Reaches environment state
      { state with world := state.world.withDb after } :=
  Steps.trans (.single trivial begins) (reaches_of_returns returns)

/-- A call which is one event of `Operations` is begun and goes on. -/
theorem reaches_of_call
    {environment : Environment} {world world' : World}
    {action : Operations.Action} (writers : Table Writer)
    (call : isCall action.event = true)
    (taken : Operations.step environment world action = some world') :
    Reaches environment { world, writers } { world := world', writers } := by
  obtain ⟨event, now⟩ := action
  cases event with
  | system event =>
      cases event with
      | cancelRun runId =>
          simp only [Operations.step, isPart, System.step,
            System.Event.execution, System.stepDatabase, Bool.false_eq_true,
            if_false, Option.map_map, Option.map_eq_some_iff] at taken
          rcases taken with ⟨after, cancels, rfl⟩
          rcases Option.map_eq_some_iff.mp cancels with ⟨run, found, -⟩
          apply @reaches_of_begins _ _ (.runCancel runId) _ _ _ _ _
            (returns_cancelRun found cancels)
          simp [step, State.db, found]
      | interruptDiscover runId taskId =>
          simp only [Operations.step, isPart, System.step,
            System.Event.execution, System.stepDatabase, Bool.false_eq_true,
            if_false] at taken
          split at taken
          case isFalse => cases taken
          next together =>
          cases taken
          apply @reaches_of_begins _ { world, writers }
            (.interruptDiscover runId taskId) now
            { world.db with task := (requestCancel world.db.task taskId now).2 }
            _ (.finishInterrupted runId) _ (.last rfl)
          simp [step, State.db, together]
      | concludeDiscover runId taskId =>
          simp only [Operations.step, isPart, System.step,
            System.Event.execution, System.stepDatabase, Bool.false_eq_true,
            if_false] at taken
          split at taken
          case isFalse => cases taken
          next together =>
          simp only [Option.map_map, Option.map_eq_some_iff] at taken
          rcases taken with ⟨after, concludes, rfl⟩
          rcases returns_concludeRun concludes with
            ⟨task, found, ended, returns⟩
          apply @reaches_of_begins _ _ (.concludeDiscover runId taskId) now
            _ _ _ _ returns
          simp [step, State.db, together, found, ended]
      | reap =>
          cases taken
          apply @reaches_of_begins _ _ .reap now _ _ _ _
            (returns_reapTasks _ _ _)
          rfl
      | _ => cases call
  | recoverOrphanRuns =>
      cases taken
      rw [recoverOrphanRuns_eq _
        { now
          staleThreshold := environment.system.config.staleThreshold
          remaining := runningRuns world.db.run
            environment.system.config.staleThreshold now }]
      apply @reaches_of_begins _ { world, writers }
        (.recoverOrphanRuns environment.system.config.staleThreshold) _ _ _ _
        _ (returns_recoverRuns _ _ rfl rfl)
      rfl
  | _ => cases call

/-- A run of `Operations` is a run of the writers. -/
theorem reaches_of_step
    {environment : Environment} {world world' : World}
    {action : Operations.Action} (writers : Table Writer)
    (taken : Operations.step environment world action = some world') :
    Reaches environment { world, writers } { world := world', writers } := by
  cases call : isCall action.event with
  | true => exact reaches_of_call writers call taken
  | false =>
      apply @Steps.single _ _ _ _ _ _ ⟨.operations action.event, action.now⟩
        trivial
      simp [step, call, taken]

/-- What every order of the statements keeps, every run of `Operations` keeps. -/
theorem reaches_of_operations
    {environment : Environment} {start world : World}
    (writers : Table Writer)
    (steps : Steps (Operations.step environment) (fun _ _ => True) start
      world) :
    Reaches environment { world := start, writers } { world, writers } := by
  induction steps with
  | refl => exact .refl
  | tail before _ taken induction =>
      exact induction.trans (reaches_of_step writers taken)

end Sluicery.Operations.RunWriters
