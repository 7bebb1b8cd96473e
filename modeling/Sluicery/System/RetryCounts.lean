import Mathlib
import Sluicery.System.TargetEvents

/-!
# How often an attempt counts

A handler reports a failure on its Target and counts it; the worker counts a
failure which no handler has counted, by the status of the Target when it
settles the task.  An attempt is the list of the events of one execution, and
the other parties may do anything between them.
-/

namespace Sluicery.System

open Sluicery.Library Sluicery.Library.Transition
open Sluicery.Db Sluicery.Db.TaskRepository
open Sluicery.Core Sluicery.Tasks Sluicery.Tasks.Handlers

/-! ## Handlers -/

/-- The handler has returned a failure. -/
def isFailure : Except String TaskResult → Bool
  | .ok result => result.outcome == .failed
  | .error _ => false

/-- The retries of a Target grow by one if it is the named one. -/
def CountsIf (counts : Bool) (counted targetId : Nat)
    (row row' : TargetRow) : Prop :=
  row'.retryCount =
    row.retryCount + if counts = true ∧ targetId = counted then 1 else 0

theorem CountsIf.refl (counted targetId : Nat) (row : TargetRow) :
    CountsIf false counted targetId row row := by
  simp [CountsIf]

/-- The Targets after a failure of one of them, which is counted, or not. -/
structure Counts (counts : Bool) (counted : Nat)
    (before after : Table TargetRow) : Prop where
  moves : RowsMove (CountsIf counts counted) before after
  present : counts = true → ∃ row, before.get counted = some row

theorem Counts.refl (counted : Nat) (targets : Table TargetRow) :
    Counts false counted targets targets where
  moves := .refl (CountsIf.refl counted) targets
  present impossible := by cases impossible

section Handlers

variable (db : Database) (now : Time)

/-- A transition at the end of a handler counts if the result is a failure. -/
theorem counts_transitionThen
    (targetId : Nat) (status : TargetStatus)
    (error blockedReason : Option String) (incrementRetry : Bool)
    (result : TaskResult)
    (matched : incrementRetry = (result.outcome == .failed)) :
    Counts
      (isFailure (transitionThen db targetId status error blockedReason
        incrementRetry now result).1)
      targetId db.target
      (transitionThen db targetId status error blockedReason incrementRetry
        now result).2.target := by
  unfold transitionThen
  split
  · exact .refl targetId _
  · next moved transition =>
      rcases transitionTarget_ok transition with ⟨row, found, -, rfl⟩
      apply Counts.mk _ fun _ => ⟨row, found⟩
      constructor
      · intro key other foundOther
        rw [Table.get_modify]
        by_cases same : key = targetId
        · subst same
          rw [if_pos rfl, foundOther, Option.map_some]
          refine ⟨_, rfl, ?_⟩
          simp only [CountsIf, isFailure, ← matched, and_true,
            TargetRepository.statusValues]
          split <;> rfl
        · rw [if_neg same]
          refine ⟨other, foundOther, ?_⟩
          simp [CountsIf, same]
      · intro key missing
        rw [Table.get_modify, missing, Option.map_none, ite_self]

/-- A failure which a handler reports counts, and nothing else does. -/
theorem counts_finishHandler
    {execution : Execution} {work : Work} {answer : Answer}
    {finished : Except String TaskResult × Database}
    (notDiscover : execution.task.type ≠ .discover)
    (finishes :
      finishHandler db execution work now answer = some finished) :
    Counts (isFailure finished.1) work.targetId db.target
      finished.2.target := by
  have same := Counts.refl work.targetId db.target
  have failed := fun status error blockedReason incrementRetry result =>
    counts_transitionThen db now work.targetId status error blockedReason
      incrementRetry result
  cases answer with
  | download answer =>
      simp only [finishHandler] at finishes
      split at finishes
      · cases Option.some.inj finishes
        have reported : ∀ classification message reasonCode,
            Counts
              (isFailure (downloadFailure db work.targetId classification
                message reasonCode now).1)
              work.targetId db.target
              (downloadFailure db work.targetId classification message
                reasonCode now).2.target := by
          intro classification message reasonCode
          cases classification with
          | ok => exact same
          | failed | unavailable | blocked => exact failed _ _ _ _ _ rfl
        cases answer with
        | cancelled | file => exact same
        | _ => exact reported _ _ _
      · cases finishes
  | verify answer =>
      simp only [finishHandler] at finishes
      split at finishes
      · cases Option.some.inj finishes
        unfold verifyFinish
        split
        · exact failed _ _ _ _ _ rfl
        · cases answer with
          | failed => exact failed _ _ _ _ _ rfl
          | _ => exact same
      · cases finishes
  | publish answer =>
      simp only [finishHandler] at finishes
      split at finishes
      · cases Option.some.inj finishes
        have reported : ∀ classification message,
            Counts
              (isFailure (publishFailure db work.targetId classification
                message now).1)
              work.targetId db.target
              (publishFailure db work.targetId classification message
                now).2.target := by
          intro classification message
          cases classification <;> exact failed _ _ _ _ _ rfl
        unfold publishFinish
        split
        · exact reported _ _
        · cases answer with
          | failed => exact reported _ _
          | _ => exact same
      · cases finishes
  | index =>
      simp only [finishHandler] at finishes
      split at finishes
      · cases Option.some.inj finishes
        exact same
      · cases finishes
  | discover answer =>
      simp only [finishHandler] at finishes
      split at finishes
      · next isDiscover => exact absurd isDiscover notDiscover
      · cases finishes

theorem work_of_advanceFor
    {targetId : Nat} {status : TargetStatus} {failure : String}
    {work work' : Work} {after : Database}
    (advances : advanceFor db targetId status now failure work =
      (.working work', after)) :
    work' = work := by
  simp only [advanceFor] at advances
  split at advances <;> cases advances
  rfl

theorem work_of_indexAdvance
    {artifact : ArtifactRow} {work work' : Work} {after : Database}
    (advances : indexAdvance db artifact work now =
      (.working work', after)) :
    work'.targetId = work.targetId := by
  rcases indexAdvance_cases db now artifact work with
    ⟨artifactId, isWorking, _⟩ | ⟨isReturned | ⟨message, isRaised⟩, _⟩
  · rw [advances] at isWorking
    cases isWorking
    rfl
  · rw [advances] at isReturned
    cases isReturned
  · rw [advances] at isRaised
    cases isRaised

/-- What a handler works on is the Target of its payload. -/
theorem targetId_of_startHandler
    {execution : Execution} {parseDatetime : String → Option Time}
    {work : Work} {after : Database} {targetId : Nat}
    (notDiscover : execution.task.type ≠ .discover)
    (names : intField (execution.task.payloadJson.getD []) "target_id" =
      some (targetId : Int))
    (starts : startHandler db execution parseDatetime now =
      some (.working work, after)) :
    work.targetId = targetId := by
  unfold startHandler at starts
  dsimp only at starts
  split at starts
  · next isDiscover => exact absurd isDiscover notDiscover
  · replace starts := Option.some.inj starts
    unfold downloadStart at starts
    rw [names] at starts
    split at starts
    · next isTarget _ =>
        cases isTarget
        dsimp only at starts
        split at starts
        · cases starts
        · split at starts
          · rw [work_of_advanceFor _ _ starts]
            rfl
          · cases starts
    · cases starts
  · replace starts := Option.some.inj starts
    unfold verifyStart at starts
    rw [names] at starts
    dsimp only at starts
    split at starts
    · cases starts
    · rw [work_of_advanceFor _ _ starts]
      rfl
  · replace starts := congrArg Prod.fst (Option.some.inj starts)
    simp only [postprocessStart, names] at starts
    split at starts
    · cases starts
    · split at starts <;> cases starts
  · replace starts := Option.some.inj starts
    unfold publishStart at starts
    rw [names] at starts
    split at starts
    · next isTarget _ =>
        cases isTarget
        dsimp only at starts
        split at starts
        · cases starts
        · split at starts
          · unfold ended at starts
            split at starts <;> cases starts
          · rw [work_of_advanceFor _ _ starts]
            rfl
    · cases starts
  · replace starts := Option.some.inj starts
    unfold indexStart at starts
    rw [names] at starts
    split at starts
    · next isTarget _ =>
        cases isTarget
        dsimp only at starts
        split at starts
        · cases starts
        · split at starts
          · rw [work_of_indexAdvance _ _ starts]
            rfl
          · cases starts
    · cases starts
  · cases starts

end Handlers

/-! ## The events of an execution -/

/-- An event of one execution, with the states before it and after it. -/
structure OwnEvent (environment : Environment) (key : Nat) where
  before : State
  execution : Execution
  action : Action
  after : State
  found : before.executions.get key = some execution
  isOwn : action.event.execution = some key
  taken : step environment before action = some after

/-- The retries of a Target. -/
def retries (state : State) (targetId : Nat) : Int :=
  (state.db.target.get targetId).elim 0 fun row => row.retryCount

/-- What an event of an execution does. -/
inductive OwnChange {environment : Environment} {key : Nat}
    (own : OwnEvent environment key) : Prop where
  | started {started : Started × Database}
      (isEvent : own.action.event = .start key)
      (claimed : own.execution.stage = .claimed)
      (starts : startHandler own.before.db own.execution
        environment.parseDatetime own.action.now = some started)
      (database : own.after.db = started.2)
      (next : own.after.executions.get key =
        some { own.execution with stage := startedStage started.1 })
  | finished {work : Work} {answer : Answer}
      {finished : Except String TaskResult × Database}
      (isEvent : own.action.event = .finish key answer)
      (working : own.execution.stage = .working work)
      (finishes : finishHandler own.before.db own.execution work
        own.action.now answer = some finished)
      (database : own.after.db = finished.2)
      (next : own.after.executions.get key =
        some { own.execution with stage := finishedStage finished.1 })
  | settled {retryDelay : Time} {result : TaskResult}
      (isEvent : own.action.event = .settle key retryDelay)
      (notReleased : own.execution.released = false)
      (isResult : resultOf own.execution = some result)
      (database : own.after.db = Worker.applyResult own.before.db
        environment.config own.execution.taskId own.execution.task
        own.execution.workerId result retryDelay own.action.now)
      (next : own.after.executions.get key = none)
  | unavailable
      (isEvent : own.action.event = .finishUnavailable key)
      (database : own.after.db = Worker.finishUnavailable own.before.db
        own.execution.taskId own.execution.workerId
        (Worker.handlerMissing own.execution.task.type) own.action.now)
      (next : own.after.executions.get key = none)
  | silent
      (notFinish : ∀ answer, own.action.event ≠ .finish key answer)
      (notSettle : ∀ retryDelay, own.action.event ≠ .settle key retryDelay)
      (database : own.after.db.target = own.before.db.target)
      (next : ∀ execution, own.after.executions.get key = some execution →
        execution.task = own.execution.task ∧
          (execution.stage = own.execution.stage ∨
            (∀ result, own.execution.stage ≠ .returned result) ∧
              ∃ message, execution.stage = .raised message) ∧
          (own.execution.released = true ∨
              own.action.event = .release key →
            execution.released = true))

theorem OwnEvent.change {environment : Environment} {key : Nat}
    (own : OwnEvent environment key) : OwnChange own := by
  have taken := own.taken
  simp only [step, own.isOwn, own.found, Option.bind_some] at taken
  have modified : ∀ (change : Execution → Execution) (state : State),
      state = own.after →
        state.executions = own.before.executions.modify key change →
          own.after.executions.get key = some (change own.execution) := by
    rintro change state rfl executions
    rw [executions, Table.get_modify_self, own.found, Option.map_some]
  have isOwn := own.isOwn
  cases isEvent : own.action.event with
  | start other =>
      rw [isEvent] at taken isOwn
      cases isOwn
      simp only [stepExecution] at taken
      split at taken
      · next claimed =>
          rcases Option.map_eq_some_iff.mp taken with ⟨started, starts, same⟩
          exact .started isEvent claimed starts
            (congrArg State.db same).symm
            (modified (fun execution =>
              { execution with stage := startedStage started.1 }) _ same rfl)
      · cases taken
  | finish other answer =>
      rw [isEvent] at taken isOwn
      cases isOwn
      simp only [stepExecution] at taken
      split at taken
      · next work working =>
          rcases Option.map_eq_some_iff.mp taken with
            ⟨finished, finishes, same⟩
          exact .finished isEvent working finishes
            (congrArg State.db same).symm
            (modified (fun execution =>
              { execution with stage := finishedStage finished.1 }) _ same rfl)
      · cases taken
  | settle other retryDelay =>
      rw [isEvent] at taken isOwn
      cases isOwn
      simp only [stepExecution] at taken
      split at taken
      · cases taken
      · next notReleased =>
          rcases Option.map_eq_some_iff.mp taken with ⟨result, isResult, same⟩
          apply OwnChange.settled isEvent (by simpa using notReleased)
            isResult (congrArg State.db same).symm
          rw [← same, Table.get_erase, if_pos rfl]
  | finishUnavailable other =>
      rw [isEvent] at taken isOwn
      cases isOwn
      simp only [stepExecution] at taken
      split at taken
      · split at taken
        · cases taken
        · have same := Option.some.inj taken
          apply OwnChange.unavailable isEvent (congrArg State.db same).symm
          rw [← same, Table.get_erase, if_pos rfl]
      · cases taken
  | heartbeat other =>
      rw [isEvent] at taken isOwn
      cases isOwn
      have same := Option.some.inj taken
      apply OwnChange.silent
      · simp [isEvent]
      · simp [isEvent]
      · rw [← same]
      · intro next isNext
        have isModified := modified (fun execution =>
          { execution with
            cancelSeen := execution.cancelSeen ||
              (heartbeat own.before.db.task own.execution.taskId
                own.execution.workerId own.action.now).1 == some true })
          _ same rfl
        rw [isModified] at isNext
        cases isNext
        refine ⟨rfl, Or.inl rfl, ?_⟩
        simp [isEvent]
  | progress other fields =>
      rw [isEvent] at taken isOwn
      cases isOwn
      have same := Option.some.inj taken
      apply OwnChange.silent
      · simp [isEvent]
      · simp [isEvent]
      · exact congrArg (fun state => state.db.target) same.symm
      · intro next isNext
        rw [← same, own.found] at isNext
        cases isNext
        refine ⟨rfl, Or.inl rfl, ?_⟩
        simp [isEvent]
  | raise other message =>
      rw [isEvent] at taken isOwn
      cases isOwn
      simp only [stepExecution] at taken
      have raised : (∀ result, own.execution.stage ≠ .returned result) →
          own.before.withStage key (.raised message) own.before.db =
            own.after → OwnChange own := by
        intro notReturned same
        apply OwnChange.silent
        · simp [isEvent]
        · simp [isEvent]
        · exact congrArg (fun state => state.db.target) same.symm
        · intro next isNext
          have isModified := modified (fun execution =>
            { execution with stage := .raised message }) _ same rfl
          rw [isModified] at isNext
          cases isNext
          refine ⟨rfl, Or.inr ⟨notReturned, message, rfl⟩, ?_⟩
          simp [isEvent]
      split at taken
      · next isStage =>
          apply raised _ (Option.some.inj taken)
          simp [isStage]
      · next isStage =>
          apply raised _ (Option.some.inj taken)
          simp [isStage]
      · cases taken
  | release other =>
      rw [isEvent] at taken isOwn
      cases isOwn
      simp only [stepExecution] at taken
      split at taken
      · cases taken
      · have same := Option.some.inj taken
        apply OwnChange.silent
        · simp [isEvent]
        · simp [isEvent]
        · exact congrArg (fun state => state.db.target) same.symm
        · intro next isNext
          have isModified := modified (fun execution =>
            { execution with released := true }) _ same rfl
          rw [isModified] at isNext
          cases isNext
          exact ⟨rfl, Or.inl rfl, fun _ => rfl⟩
  | crash other =>
      rw [isEvent] at taken isOwn
      cases isOwn
      have same := Option.some.inj taken
      apply OwnChange.silent
      · simp [isEvent]
      · simp [isEvent]
      · exact congrArg (fun state => state.db.target) same.symm
      · intro next isNext
        simp [← same, Table.get_erase] at isNext
  | _ =>
      rw [isEvent] at isOwn
      cases isOwn

/-! ## Attempts -/

namespace OwnEvent

variable {environment : Environment} {key : Nat}

/-- By how much an event raises the retries of a Target. -/
def counted (own : OwnEvent environment key) (targetId : Nat) : Int :=
  retries own.after targetId - retries own.before targetId

/-- The handler reports a failure, which it has recorded on the Target. -/
def Records (own : OwnEvent environment key) : Prop :=
  ∃ answer next result, own.action.event = .finish key answer ∧
    own.after.executions.get key = some next ∧
    next.stage = .returned result ∧ result.outcome = .failed

/-- The worker settles the task, which is still its own. -/
structure Settlement (own : OwnEvent environment key) (result : TaskResult)
    (root : TaskRow) : Prop where
  isSettle : ∃ retryDelay, own.action.event = .settle key retryDelay
  settles : Settles own.before key own.execution result root

end OwnEvent

/-- The events of an execution after its claim, with the execution now. -/
inductive Ongoing (environment : Environment) (key : Nat)
    (claimed : Execution) :
    List (OwnEvent environment key) → Execution → Prop where
  | claimed : Ongoing environment key claimed [] claimed
  | event {events : List (OwnEvent environment key)} {execution : Execution}
      (ongoing : Ongoing environment key claimed events execution)
      (own : OwnEvent environment key) (continues : own.execution = execution)
      {next : Execution}
      (goesOn : own.after.executions.get key = some next) :
      Ongoing environment key claimed (events ++ [own]) next

/-- An attempt which goes on, or has ended with its last event. -/
def Attempt (environment : Environment) (key : Nat) (claimed : Execution)
    (events : List (OwnEvent environment key)) : Prop :=
  ∃ earlier execution, Ongoing environment key claimed earlier execution ∧
    (events = earlier ∨
      ∃ last : OwnEvent environment key, last.execution = execution ∧
        events = earlier ++ [last])

/-- The task of a pipeline, just claimed; its payload names the Target. -/
structure ClaimedFor (claimed : Execution) (targetId : Nat) : Prop where
  stage : claimed.stage = .claimed
  targetRefType : claimed.task.targetRefType = "target"
  targetRefId : claimed.task.targetRefId = targetId
  notDiscover : claimed.task.type ≠ .discover
  names : intField (claimed.task.payloadJson.getD []) "target_id" =
    some (targetId : Int)

theorem claimedFor_of_goodTask
    {claimed : Execution} (good : GoodTask claimed.task)
    (isClaimed : claimed.stage = .claimed)
    (isTarget : claimed.task.targetRefType = "target") :
    ClaimedFor claimed claimed.task.targetRefId where
  stage := isClaimed
  targetRefType := isTarget
  targetRefId := rfl
  notDiscover isDiscover := (good.discover isDiscover).1 isTarget
  names := by
    rw [intField, good.names isTarget]
    rfl

/-- In every run a claimed task of a Target is as an attempt begins with it. -/
theorem claimedFor_of_run
    {environment : Environment} {start state : State}
    (wellFormed : WellFormed start)
    (steps : Steps (step environment) (fun _ _ => True) start state)
    {key : Nat} {claimed : Execution}
    (found : state.executions.get key = some claimed)
    (isClaimed : claimed.stage = .claimed)
    (isTarget : claimed.task.targetRefType = "target") :
    ClaimedFor claimed claimed.task.targetRefId := by
  have reached : WellFormed state :=
    steps.invariant WellFormed wellFormed fun _ _ _ holds _ taken =>
      wellFormed_step holds taken
  exact claimedFor_of_goodTask (reached.executions key claimed found).good
    isClaimed isTarget

/-- By how much an attempt raises the retries of the Target. -/
def total {environment : Environment} {key : Nat}
    (events : List (OwnEvent environment key)) (targetId : Nat) : Int :=
  (events.map fun own => own.counted targetId).sum

theorem total_append
    {environment : Environment} {key : Nat}
    (events : List (OwnEvent environment key))
    (own : OwnEvent environment key) (targetId : Nat) :
    total (events ++ [own]) targetId =
      total events targetId + own.counted targetId := by
  simp [total]

/-! ## What one event counts -/

theorem retries_of_counts
    {before after : State} {counts : Bool} {targetId : Nat}
    (counted : Counts counts targetId before.db.target after.db.target) :
    retries after targetId - retries before targetId =
      if counts then 1 else 0 := by
  cases found : before.db.target.get targetId with
  | some row =>
      rcases counted.moves.kept found with ⟨row', found', changes⟩
      simp only [CountsIf, and_true] at changes
      simp only [retries, found, found', Option.elim_some, changes]
      cases counts
      · simp
      · simp only [if_true]
        omega
  | none =>
      have missing := counted.moves.absent found
      cases counts with
      | true =>
          rcases counted.present rfl with ⟨row, isRow⟩
          rw [found] at isRow
          cases isRow
      | false => simp [retries, found, missing]

theorem retries_of_kept
    {change : Nat → TargetRow → TargetRow → Prop} {before after : State}
    {targetId : Nat}
    (moves : RowsMove change before.db.target after.db.target)
    (keeps : ∀ row row', change targetId row row' →
      row'.retryCount = row.retryCount) :
    retries after targetId - retries before targetId = 0 := by
  cases found : before.db.target.get targetId with
  | some row =>
      rcases moves.kept found with ⟨row', found', changes⟩
      simp [retries, found, found', keeps row row' changes]
  | none => simp [retries, found, moves.absent found]

/-- The retries which the worker adds when it settles the task. -/
def settledRetries (state : State) (targetId : Nat) (result : TaskResult)
    (root : TaskRow) : Nat :=
  (state.db.target.get targetId).elim 0 fun row =>
    syncedRetries (settledStatus result root) (result.outcome == .failed)
      row.status

/-- A settlement adds what the sync of the Target adds. -/
theorem retries_of_applyResult
    {before after : State} {environment : Environment}
    {execution : Execution} {targetId : Nat} {result : TaskResult}
    {root : TaskRow} {retryDelay now : Time}
    (names : namesTarget targetId execution.task = true)
    (found : before.db.task.get execution.taskId = some root)
    (owned : ownedBy execution.taskId execution.workerId execution.taskId
      root = true)
    (database : after.db = Worker.applyResult before.db environment.config
      execution.taskId execution.task execution.workerId result retryDelay
      now) :
    retries after targetId - retries before targetId =
      settledRetries before targetId result root := by
  by_cases succeeded : result.outcome = .succeeded
  · have kept : after.db.target = before.db.target := by
      rw [database]
      apply applyResult_target_of_none
      rw [Worker.settle, succeeded]
    simp only [retries, kept, settledRetries, settledStatus, succeeded,
      syncedRetries]
    cases before.db.target.get targetId <;> simp
  · have synced := rowsMove_sync before.db.target execution.task
      (settledStatus result root) result.message
      (result.outcome == .failed) now
    rw [← applyResult_target environment.config execution.task result
      retryDelay now found owned succeeded, ← database] at synced
    cases isRow : before.db.target.get targetId with
    | none =>
        simp [retries, settledRetries, isRow, synced.absent isRow]
    | some row =>
        rcases synced.kept isRow with ⟨row', isRow', changes⟩
        rw [if_pos names] at changes
        have added := changes.retryCount
        simp only [retries, settledRetries, isRow, isRow',
          Option.elim_some, added]
        push_cast
        omega

theorem retries_of_finishUnavailable
    {before after : State} {taskId targetId : Nat} {workerId message : String}
    {now : Time}
    (database : after.db = Worker.finishUnavailable before.db taskId workerId
      message now) :
    retries after targetId - retries before targetId = 0 := by
  have same : RowsMove (fun _ row row' => row'.retryCount = row.retryCount)
      before.db.target before.db.target :=
    ⟨fun found => ⟨_, found, rfl⟩, fun missing => missing⟩
  apply @retries_of_kept
    (fun _ row row' => row'.retryCount = row.retryCount) _ _ _ _
    fun _ _ kept => kept
  rw [database, Worker.finishUnavailable]
  split
  · exact same
  · next task _ =>
      dsimp only
      split
      · apply (rowsMove_sync before.db.target task .unavailable
          (some message) false now).weaken
        intro key row row' _ synced
        split at synced
        · rw [synced.retryCount]
          simp [syncedRetries]
        · rw [synced]
      · exact same

section Events

variable {environment : Environment} {key targetId : Nat}
  {own : OwnEvent environment key}

/-- The execution works for the Target. -/
structure WorksFor (execution : Execution) (targetId : Nat) : Prop where
  targetRefType : execution.task.targetRefType = "target"
  targetRefId : execution.task.targetRefId = targetId
  notDiscover : execution.task.type ≠ .discover
  names : intField (execution.task.payloadJson.getD []) "target_id" =
    some (targetId : Int)
  work : ∀ work, execution.stage = .working work → work.targetId = targetId

theorem WorksFor.namesTarget {execution : Execution}
    (works : WorksFor execution targetId) :
    namesTarget targetId execution.task = true := by
  rw [namesTarget_iff]
  exact ⟨works.targetRefType, works.targetRefId⟩

/-- An execution goes on with the same Target. -/
theorem WorksFor.next
    (works : WorksFor own.execution targetId) {next : Execution}
    (goesOn : own.after.executions.get key = some next) :
    WorksFor next targetId := by
  have moved : next.task = own.execution.task ∧
      ∀ work, next.stage = .working work → work.targetId = targetId := by
    cases own.change with
    | @started started _ _ starts _ isNext =>
        rw [isNext] at goesOn
        cases goesOn
        apply And.intro rfl
        rcases started with ⟨started, after⟩
        intro work isWorking
        cases started with
        | working other =>
            cases isWorking
            exact targetId_of_startHandler _ _ works.notDiscover works.names
              starts
        | returned result => cases isWorking
        | raised message => cases isWorking
    | @finished _ _ finished _ _ _ _ isNext =>
        rw [isNext] at goesOn
        cases goesOn
        apply And.intro rfl
        rcases finished with ⟨result | message, after⟩
        · intro work isWorking
          cases isWorking
        · intro work isWorking
          cases isWorking
    | settled _ _ _ _ isNext =>
        rw [isNext] at goesOn
        cases goesOn
    | unavailable _ _ isNext =>
        rw [isNext] at goesOn
        cases goesOn
    | silent _ _ _ isNext =>
        rcases isNext next goesOn with ⟨sameTask, sameStage | ⟨_, _, raised⟩, _⟩
        · apply And.intro sameTask
          rw [sameStage]
          exact works.work
        · apply And.intro sameTask
          intro work isWorking
          rw [raised] at isWorking
          cases isWorking
  constructor
  · rw [moved.1]
    exact works.targetRefType
  · rw [moved.1]
    exact works.targetRefId
  · rw [moved.1]
    exact works.notDiscover
  · rw [moved.1]
    exact works.names
  · exact moved.2

/-- A failure which the handler records counts once. -/
theorem counted_of_records
    (works : WorksFor own.execution targetId) (records : own.Records) :
    own.counted targetId = 1 ∧ ∃ work, own.execution.stage = .working work := by
  rcases records with ⟨answer, next, result, isFinish, isNext, isStage, failed⟩
  cases own.change with
  | @finished work _ finished _ working finishes database after =>
      apply And.intro _ ⟨work, working⟩
      have counts := counts_finishHandler own.before.db own.action.now
        works.notDiscover finishes
      rw [works.work work working, ← database] at counts
      rw [after] at isNext
      cases isNext
      have isFailed : isFailure finished.1 = true := by
        rcases finished with ⟨returned | message, db⟩
        · cases isStage
        · cases isStage
          simp [isFailure, failed]
      rw [isFailed] at counts
      exact retries_of_counts counts
  | started isEvent | settled isEvent | unavailable isEvent =>
      rw [isFinish] at isEvent
      cases isEvent
  | silent notFinish => exact absurd isFinish (notFinish answer)

theorem counted_of_settlement
    (works : WorksFor own.execution targetId) {result : TaskResult}
    {root : TaskRow} (settlement : own.Settlement result root) :
    own.counted targetId =
      settledRetries own.before targetId result root := by
  rcases settlement.isSettle with ⟨retryDelay, isSettle⟩
  have settles := settlement.settles
  cases own.change with
  | settled _ _ isResult database _ =>
      have sameResult := settles.isResult
      rw [isResult] at sameResult
      cases sameResult
      exact retries_of_applyResult works.namesTarget settles.foundRoot
        settles.owned database
  | started isEvent | finished isEvent | unavailable isEvent =>
      rw [isSettle] at isEvent
      cases isEvent
  | silent _ notSettle => exact absurd isSettle (notSettle retryDelay)

/-- Nothing else counts. -/
theorem counted_of_other
    (works : WorksFor own.execution targetId) (notRecord : ¬ own.Records)
    (notSettlement : ∀ result root, ¬ own.Settlement result root) :
    own.counted targetId = 0 := by
  cases own.change with
  | started _ _ starts database _ =>
      have advances := rowsMove_startHandler _ _ starts
      rw [← database] at advances
      apply retries_of_kept advances
      rintro row row' ⟨status, becomes, _⟩
      exact becomes.retryCount
  | @finished work answer finished isEvent working finishes database next =>
      have counts := counts_finishHandler own.before.db own.action.now
        works.notDiscover finishes
      rw [works.work work working, ← database] at counts
      have notFailed : isFailure finished.1 = false := by
        rcases finished with ⟨message | returned, db⟩
        · rfl
        · by_contra failed
          apply notRecord
          refine ⟨answer, _, returned, isEvent, next, rfl, ?_⟩
          simpa [isFailure] using failed
      rw [notFailed] at counts
      exact retries_of_counts counts
  | @settled retryDelay result isEvent notReleased isResult database next =>
      have notOwned : ∀ root,
          own.before.db.task.get own.execution.taskId = some root →
            ownedBy own.execution.taskId own.execution.workerId
              own.execution.taskId root = false := by
        intro root found
        by_contra owned
        exact notSettlement result root ⟨⟨retryDelay, isEvent⟩, own.found,
          notReleased, isResult, found, by simpa using owned⟩
      have kept : own.after.db.target = own.before.db.target := by
        rw [database]
        apply applyResult_target_of_none
        rw [writePayloadUpdate_of_not_owned _ notOwned]
        exact settle_of_not_owned _ _ _ _ notOwned
      simp [OwnEvent.counted, retries, kept]
  | unavailable _ database _ =>
      exact retries_of_finishUnavailable database
  | silent _ _ kept _ => simp [OwnEvent.counted, retries, kept]

end Events

/-! ## What an attempt counts -/

section Attempts

variable {environment : Environment} {key targetId : Nat}
  {claimed execution : Execution} {events : List (OwnEvent environment key)}

/-- The handler has recorded a failure. -/
def Recorded (events : List (OwnEvent environment key)) : Prop :=
  ∃ own ∈ events, own.Records

theorem recorded_append (own : OwnEvent environment key) :
    Recorded (events ++ [own]) ↔ Recorded events ∨ own.Records := by
  simp only [Recorded, List.mem_append, List.mem_singleton]
  constructor
  · rintro ⟨other, member | rfl, records⟩
    · exact Or.inl ⟨other, member, records⟩
    · exact Or.inr records
  · rintro (⟨other, member, records⟩ | records)
    · exact ⟨other, Or.inl member, records⟩
    · exact ⟨own, Or.inr rfl, records⟩

/-- Where an attempt stands: what it has counted, and what is recorded. -/
structure Stands (events : List (OwnEvent environment key))
    (execution : Execution) (targetId : Nat) : Prop where
  works : WorksFor execution targetId
  recorded : Recorded events →
    total events targetId = 1 ∧ ∃ result,
      execution.stage = .returned result ∧ result.outcome = .failed
  unrecorded : ¬ Recorded events → total events targetId = 0
  released : (∃ own ∈ events, own.action.event = .release key) →
    execution.released = true

/-- A handler which has returned keeps its result. -/
theorem returned_next
    {own : OwnEvent environment key} {next : Execution} {result : TaskResult}
    (returned : own.execution.stage = .returned result)
    (goesOn : own.after.executions.get key = some next) :
    next.stage = .returned result := by
  cases own.change with
  | started _ isStage =>
      rw [returned] at isStage
      cases isStage
  | finished _ isStage =>
      rw [returned] at isStage
      cases isStage
  | settled _ _ _ _ isNext | unavailable _ _ isNext =>
      rw [isNext] at goesOn
      cases goesOn
  | silent _ _ _ isNext =>
      rcases isNext next goesOn with ⟨_, sameStage | ⟨notReturned, _⟩, _⟩
      · rw [sameStage, returned]
      · exact absurd returned (notReturned result)

theorem not_settlement_of_goesOn
    {own : OwnEvent environment key} {next : Execution}
    (goesOn : own.after.executions.get key = some next)
    (result : TaskResult) (root : TaskRow) :
    ¬ own.Settlement result root := by
  intro settlement
  rcases settlement.isSettle with ⟨retryDelay, isSettle⟩
  cases own.change with
  | settled _ _ _ _ isNext =>
      rw [isNext] at goesOn
      cases goesOn
  | started isEvent | finished isEvent | unavailable isEvent =>
      rw [isSettle] at isEvent
      cases isEvent
  | silent _ notSettle => exact absurd isSettle (notSettle retryDelay)

/-- A released execution stays released. -/
theorem released_next
    {own : OwnEvent environment key} {next : Execution}
    (goesOn : own.after.executions.get key = some next)
    (released : own.execution.released = true ∨
      own.action.event = .release key) :
    next.released = true := by
  cases own.change with
  | started isEvent _ _ _ isNext | finished isEvent _ _ _ isNext =>
      rw [isNext] at goesOn
      cases goesOn
      rcases released with already | isRelease
      · exact already
      · rw [isEvent] at isRelease
        cases isRelease
  | settled _ _ _ _ isNext | unavailable _ _ isNext =>
      rw [isNext] at goesOn
      cases goesOn
  | silent _ _ _ isNext => exact (isNext next goesOn).2.2 released

/-- The run of an attempt, event by event. -/
theorem stands_of_ongoing
    (claimedFor : ClaimedFor claimed targetId)
    (ongoing : Ongoing environment key claimed events execution) :
    Stands events execution targetId := by
  induction ongoing with
  | claimed =>
      constructor
      · constructor
        · exact claimedFor.targetRefType
        · exact claimedFor.targetRefId
        · exact claimedFor.notDiscover
        · exact claimedFor.names
        · intro work isWorking
          rw [claimedFor.stage] at isWorking
          cases isWorking
      · rintro ⟨own, member, _⟩
        cases member
      · exact fun _ => rfl
      · rintro ⟨own, member, _⟩
        cases member
  | @event events execution _ own continues next goesOn induction =>
      subst continues
      have works := induction.works
      have notSettlement := not_settlement_of_goesOn goesOn
      constructor
      · exact works.next goesOn
      · intro recorded
        rcases (recorded_append own).mp recorded with earlier | records
        · rcases induction.recorded earlier with
            ⟨isTotal, result, returned, failed⟩
          have notRecord : ¬ own.Records := by
            intro records
            rcases (counted_of_records works records).2 with ⟨work, working⟩
            rw [returned] at working
            cases working
          rw [total_append, isTotal,
            counted_of_other works notRecord notSettlement]
          exact ⟨rfl, result, returned_next returned goesOn, failed⟩
        · have notEarlier : ¬ Recorded events := by
            intro earlier
            rcases induction.recorded earlier with ⟨_, result, returned, _⟩
            rcases (counted_of_records works records).2 with ⟨work, working⟩
            rw [returned] at working
            cases working
          rw [total_append, induction.unrecorded notEarlier,
            (counted_of_records works records).1]
          rcases records with ⟨_, next', result, _, isNext, isStage, failed⟩
          rw [goesOn] at isNext
          cases isNext
          exact ⟨rfl, result, isStage, failed⟩
      · intro unrecorded
        rw [recorded_append, not_or] at unrecorded
        rw [total_append, induction.unrecorded unrecorded.1,
          counted_of_other works unrecorded.2 notSettlement]
        rfl
      · rintro ⟨other, member, isRelease⟩
        apply released_next goesOn
        rcases List.mem_append.mp member with earlier | isLast
        · exact Or.inl (induction.released ⟨other, earlier, isRelease⟩)
        · rw [List.mem_singleton] at isLast
          rw [← isLast]
          exact Or.inr isRelease

/-! ## The rule -/

/-- The Target is active when the failure is, or could be, recorded. -/
def ActiveAtFailure (events : List (OwnEvent environment key))
    (settle : OwnEvent environment key) (targetId : Nat) : Prop :=
  ∃ own row, (own ∈ events ∧ own.Records ∨
      ¬ Recorded events ∧ own = settle) ∧
    own.before.db.target.get targetId = some row ∧
      row.status ∈ activeStatuses

/-- The worker settles a failed attempt whose Target was active. -/
structure EndsFailed (events : List (OwnEvent environment key))
    (settle : OwnEvent environment key) (result : TaskResult)
    (root : TaskRow) (targetId : Nat) : Prop where
  isLast : ∃ earlier, events = earlier ++ [settle]
  settlement : settle.Settlement result root
  failed : result.outcome = .failed
  notCancelled : settledStatus result root ≠ .cancelled
  active : ActiveAtFailure events settle targetId

/-- A failed attempt counts once, and another end does not count. -/
structure CountsOnce (events : List (OwnEvent environment key))
    (targetId : Nat) : Prop where
  failed : ∀ settle result root,
    EndsFailed events settle result root targetId →
      total events targetId = 1
  uncounted : ∀ earlier settle result root,
    events = earlier ++ [settle] → settle.Settlement result root →
      settledStatus result root ∈
        [TaskStatus.succeeded, .blocked, .cancelled] →
        total events targetId = 0
  released : (∃ own ∈ events, own.action.event = .release key) →
    total events targetId = 0

/-- Exactly one of the handler and the worker records a failure. -/
structure RecordedByOne (events : List (OwnEvent environment key))
    (targetId : Nat) : Prop where
  /-- Nobody has reopened the Target since the handler recorded it. -/
  notReopened : ∀ settle result root,
    EndsFailed events settle result root targetId → Recorded events →
      ∀ row, settle.before.db.target.get targetId = some row →
        row.status ∈ activeStatuses →
          row.status = .blocked ∧ settledStatus result root = .pending
  /-- The worker does not retry with a blocked Target. -/
  notBlocked : ∀ settle result root,
    EndsFailed events settle result root targetId → ¬ Recorded events →
      ∀ row, settle.before.db.target.get targetId = some row →
        row.status = .blocked → settledStatus result root ≠ .pending
  notCancelled : ∀ earlier settle result root,
    events = earlier ++ [settle] → settle.Settlement result root →
      settledStatus result root = .cancelled → ¬ Recorded events
  notReleased : (∃ own ∈ events, own.action.event = .release key) →
    ¬ Recorded events

theorem ongoing_append
    {own : OwnEvent environment key}
    (ongoing : Ongoing environment key claimed (events ++ [own])
      execution) :
    own.after.executions.get key = some execution := by
  generalize isEvents : events ++ [own] = all at ongoing
  cases ongoing with
  | claimed => simp at isEvents
  | event _ last _ goesOn =>
      have same := List.append_inj_right' isEvents rfl
      rw [List.singleton_inj] at same
      rw [same]
      exact goesOn

/-- A settlement ends the attempt. -/
theorem ongoing_of_settlement
    {earlier : List (OwnEvent environment key)}
    {settle : OwnEvent environment key} {result : TaskResult}
    {root : TaskRow}
    (attempt : Attempt environment key claimed events)
    (isLast : events = earlier ++ [settle])
    (settlement : settle.Settlement result root) :
    Ongoing environment key claimed earlier settle.execution := by
  rcases attempt with ⟨before, execution, ongoing, rfl | ⟨last, isHere, rfl⟩⟩
  · subst isLast
    exact absurd settlement
      (not_settlement_of_goesOn (ongoing_append ongoing) result root)
  · rcases List.append_inj' isLast rfl with ⟨rfl, same⟩
    rw [List.singleton_inj] at same
    rw [← same, isHere]
    exact ongoing

theorem not_records_of_settlement
    {own : OwnEvent environment key} {result : TaskResult} {root : TaskRow}
    (settlement : own.Settlement result root) : ¬ own.Records := by
  rintro ⟨answer, _, _, isFinish, _⟩
  rcases settlement.isSettle with ⟨retryDelay, isSettle⟩
  rw [isFinish] at isSettle
  cases isSettle

/-- What a settled attempt has counted. -/
theorem total_of_settlement
    (claimedFor : ClaimedFor claimed targetId)
    (attempt : Attempt environment key claimed events)
    {earlier : List (OwnEvent environment key)}
    {settle : OwnEvent environment key} {result : TaskResult}
    {root : TaskRow} (isLast : events = earlier ++ [settle])
    (settlement : settle.Settlement result root) :
    Stands earlier settle.execution targetId ∧
      (Recorded events ↔ Recorded earlier) ∧
      total events targetId = total earlier targetId +
        settledRetries settle.before targetId result root := by
  have stands := stands_of_ongoing claimedFor
    (ongoing_of_settlement attempt isLast settlement)
  apply And.intro stands
  rw [isLast]
  constructor
  · rw [recorded_append]
    exact or_iff_left (not_records_of_settlement settlement)
  · rw [total_append, counted_of_settlement stands.works settlement]

/-- What an attempt without a settlement has counted. -/
theorem total_of_unsettled
    (claimedFor : ClaimedFor claimed targetId)
    (attempt : Attempt environment key claimed events)
    (unsettled : ∀ earlier settle result root,
      events = earlier ++ [settle] → ¬ settle.Settlement result root) :
    (Recorded events → total events targetId = 1) ∧
      (¬ Recorded events → total events targetId = 0) := by
  rcases attempt with ⟨earlier, execution, ongoing, rfl | ⟨last, isHere, rfl⟩⟩
  · have stands := stands_of_ongoing claimedFor ongoing
    exact ⟨fun recorded => (stands.recorded recorded).1, stands.unrecorded⟩
  · have stands := stands_of_ongoing claimedFor ongoing
    rw [← isHere] at stands
    have notSettlement := fun result root =>
      unsettled earlier last result root rfl
    rw [recorded_append, total_append]
    by_cases records : last.Records
    · rcases counted_of_records stands.works records with ⟨one, work, working⟩
      have unrecorded : ¬ Recorded earlier := by
        intro recorded
        rcases (stands.recorded recorded).2 with ⟨result, returned, _⟩
        rw [working] at returned
        cases returned
      rw [stands.unrecorded unrecorded, one]
      exact ⟨fun _ => rfl, fun none => absurd (Or.inr records) none⟩
    · rw [counted_of_other stands.works records notSettlement]
      constructor
      · rintro (recorded | impossible)
        · rw [(stands.recorded recorded).1]
          rfl
        · exact absurd impossible records
      · intro none
        rw [stands.unrecorded fun recorded => none (Or.inl recorded)]
        rfl

/-- The result of a recorded failure is the failure, or a cancel. -/
theorem outcome_of_recorded
    {earlier : List (OwnEvent environment key)}
    {settle : OwnEvent environment key} {result : TaskResult}
    {root : TaskRow} (stands : Stands earlier settle.execution targetId)
    (recorded : Recorded earlier)
    (settlement : settle.Settlement result root) :
    result.outcome = .failed ∨ result.outcome = .cancelled := by
  rcases (stands.recorded recorded).2 with ⟨returned, isStage, failed⟩
  have isResult := settlement.settles.isResult
  simp only [resultOf, isStage] at isResult
  split at isResult
  · cases isResult
    exact Or.inr rfl
  · cases isResult
    exact Or.inl failed

theorem settledStatus_of_failed
    {result : TaskResult} {root : TaskRow}
    (failed : result.outcome = .failed)
    (notCancelled : settledStatus result root ≠ .cancelled) :
    settledStatus result root = .pending ∨
      settledStatus result root = .unavailable := by
  revert notCancelled
  simp only [settledStatus, failed]
  split
  · exact fun impossible => absurd rfl impossible
  · split
    · exact fun _ => Or.inr rfl
    · exact fun _ => Or.inl rfl

/-- The sync counts for an active Target, but not a retry of a blocked one. -/
theorem syncedRetries_of_active
    {settled : TaskStatus} {status : TargetStatus}
    (isFailed : settled = .pending ∨ settled = .unavailable)
    (isActive : status ∈ activeStatuses) :
    syncedRetries settled true status =
      if status = .blocked ∧ settled = .pending then 0 else 1 := by
  revert isActive
  rcases isFailed with rfl | rfl <;> cases status <;> decide

theorem syncedRetries_of_inactive
    {settled : TaskStatus} {failedAttempt : Bool} {status : TargetStatus}
    (inactive : status ∉ activeStatuses) :
    syncedRetries settled failedAttempt status = 0 := by
  have notErased : status ∉ activeStatuses.erase .blocked :=
    fun member => inactive (List.mem_of_mem_erase member)
  cases settled <;> simp [syncedRetries, inactive, notErased]

/-- A settled failure of an active Target. -/
theorem settledRetries_of_active
    {state : State} {result : TaskResult} {root : TaskRow} {row : TargetRow}
    (failed : result.outcome = .failed)
    (notCancelled : settledStatus result root ≠ .cancelled)
    (found : state.db.target.get targetId = some row)
    (isActive : row.status ∈ activeStatuses) :
    settledRetries state targetId result root =
      if row.status = .blocked ∧ settledStatus result root = .pending then 0
      else 1 := by
  rw [settledRetries, found, failed]
  exact syncedRetries_of_active
    (settledStatus_of_failed failed notCancelled) isActive

theorem settledRetries_of_inactive
    {state : State} {result : TaskResult} {root : TaskRow}
    (inactive : ∀ row, state.db.target.get targetId = some row →
      row.status ∉ activeStatuses) :
    settledRetries state targetId result root = 0 := by
  rw [settledRetries]
  cases found : state.db.target.get targetId with
  | none => rfl
  | some row => exact syncedRetries_of_inactive (inactive row found)

/-- The other ends count nothing. -/
theorem settledRetries_of_uncounted
    {state : State} {result : TaskResult} {root : TaskRow}
    (uncounted : settledStatus result root ∈
      [TaskStatus.succeeded, .blocked, .cancelled]) :
    settledRetries state targetId result root = 0 := by
  rw [settledRetries]
  cases state.db.target.get targetId with
  | none => rfl
  | some row =>
      simp only [List.mem_cons, List.not_mem_nil, or_false] at uncounted
      rcases uncounted with is | is | is <;> rw [is] <;> rfl

/-- An attempt counts once if and only if one party records its failure. -/
theorem attempt_counts_once_iff
    (claimedFor : ClaimedFor claimed targetId)
    (attempt : Attempt environment key claimed events) :
    CountsOnce events targetId ↔ RecordedByOne events targetId := by
  have unsettled_of_released :
      (∃ own ∈ events, own.action.event = .release key) →
        ∀ earlier settle result root, events = earlier ++ [settle] →
          ¬ settle.Settlement result root := by
    rintro ⟨own, member, isRelease⟩ earlier settle result root isLast
      settlement
    have stands := (total_of_settlement claimedFor attempt isLast
      settlement).1
    rw [isLast, List.mem_append, List.mem_singleton] at member
    rcases member with inEarlier | rfl
    · have released := stands.released ⟨own, inEarlier, isRelease⟩
      rw [settlement.settles.notReleased] at released
      cases released
    · rcases settlement.isSettle with ⟨retryDelay, isSettle⟩
      rw [isRelease] at isSettle
      cases isSettle
  constructor
  · intro counts
    constructor
    · intro settle result root ends recorded row found isActive
      rcases ends.isLast with ⟨earlier, isLast⟩
      rcases total_of_settlement claimedFor attempt isLast
        ends.settlement with ⟨stands, same, isTotal⟩
      have once := counts.failed settle result root ends
      rw [isTotal, (stands.recorded (same.mp recorded)).1,
        settledRetries_of_active ends.failed ends.notCancelled found
          isActive] at once
      by_contra twice
      rw [if_neg twice] at once
      cases once
    · intro settle result root ends unrecorded row found isBlocked isPending
      rcases ends.isLast with ⟨earlier, isLast⟩
      rcases total_of_settlement claimedFor attempt isLast
        ends.settlement with ⟨stands, same, isTotal⟩
      have isActive : row.status ∈ activeStatuses := by
        rw [isBlocked]
        decide
      have once := counts.failed settle result root ends
      rw [isTotal, stands.unrecorded (fun recorded =>
          unrecorded (same.mpr recorded)),
        settledRetries_of_active ends.failed ends.notCancelled found
          isActive, if_pos ⟨isBlocked, isPending⟩] at once
      cases once
    · intro earlier settle result root isLast settlement isCancelled recorded
      rcases total_of_settlement claimedFor attempt isLast settlement with
        ⟨stands, same, isTotal⟩
      have uncounted : settledStatus result root ∈
          [TaskStatus.succeeded, .blocked, .cancelled] := by
        rw [isCancelled]
        decide
      have none := counts.uncounted earlier settle result root isLast
        settlement uncounted
      rw [isTotal, (stands.recorded (same.mp recorded)).1,
        settledRetries_of_uncounted uncounted] at none
      cases none
    · intro released recorded
      have none := counts.released released
      rw [(total_of_unsettled claimedFor attempt
        (unsettled_of_released released)).1 recorded] at none
      cases none
  · intro one
    constructor
    · intro settle result root ends
      rcases ends.isLast with ⟨earlier, isLast⟩
      rcases total_of_settlement claimedFor attempt isLast
        ends.settlement with ⟨stands, same, isTotal⟩
      rw [isTotal]
      by_cases recorded : Recorded events
      · rw [(stands.recorded (same.mp recorded)).1]
        by_cases again : ∃ row,
            settle.before.db.target.get targetId = some row ∧
              row.status ∈ activeStatuses
        · rcases again with ⟨row, found, isActive⟩
          rw [settledRetries_of_active ends.failed ends.notCancelled found
            isActive, if_pos (one.notReopened settle result root ends
              recorded row found isActive)]
          rfl
        · rw [settledRetries_of_inactive fun row found isActive =>
            again ⟨row, found, isActive⟩]
          rfl
      · rw [stands.unrecorded fun earlier => recorded (same.mpr earlier)]
        rcases ends.active with
          ⟨own, row, ⟨member, records⟩ | ⟨_, rfl⟩, found, isActive⟩
        · exact absurd ⟨own, member, records⟩ recorded
        · have notRetried : ¬ (row.status = .blocked ∧
              settledStatus result root = .pending) := fun both =>
            one.notBlocked own result root ends recorded row found both.1
              both.2
          rw [settledRetries_of_active ends.failed ends.notCancelled found
            isActive, if_neg notRetried]
          rfl
    · intro earlier settle result root isLast settlement uncounted
      rcases total_of_settlement claimedFor attempt isLast settlement with
        ⟨stands, same, isTotal⟩
      have unrecorded : ¬ Recorded earlier := by
        intro recorded
        rcases outcome_of_recorded stands recorded settlement with
          failed | cancelled
        · have isCancelled : settledStatus result root = .cancelled := by
            by_contra notCancelled
            rcases settledStatus_of_failed failed notCancelled with is | is <;>
              rw [is] at uncounted <;> revert uncounted <;> decide
          exact one.notCancelled earlier settle result root isLast
            settlement isCancelled (same.mpr recorded)
        · have isCancelled : settledStatus result root = .cancelled := by
            simp only [settledStatus, cancelled]
          exact one.notCancelled earlier settle result root isLast
            settlement isCancelled (same.mpr recorded)
      rw [isTotal, stands.unrecorded unrecorded,
        settledRetries_of_uncounted uncounted]
      rfl
    · intro released
      exact (total_of_unsettled claimedFor attempt
        (unsettled_of_released released)).2 (one.notReleased released)

end Attempts

/-! ## The attempts of a run -/

section Run

variable {environment : Environment} {key : Nat}

/-- An event of one execution leaves the others alone. -/
theorem execution_of_stepExecution
    {state state' : State} {now : Time} {other : Nat}
    {execution : Execution} {event : Event} (ne : key ≠ other)
    (taken :
      stepExecution environment state now other execution event =
        some state') :
    state'.executions.get key = state.executions.get key := by
  unfold stepExecution at taken
  split at taken
  · cases taken
    exact Table.get_modify_of_ne _ _ ne
  · cases taken
    rfl
  · split at taken
    · rcases Option.map_eq_some_iff.mp taken with ⟨started, _, rfl⟩
      exact Table.get_modify_of_ne _ _ ne
    · cases taken
  · split at taken
    · rcases Option.map_eq_some_iff.mp taken with ⟨finished, _, rfl⟩
      exact Table.get_modify_of_ne _ _ ne
    · cases taken
  · split at taken
    · cases taken
      exact Table.get_modify_of_ne _ _ ne
    · cases taken
      exact Table.get_modify_of_ne _ _ ne
    · cases taken
  · split at taken
    · cases taken
    · rcases Option.map_eq_some_iff.mp taken with ⟨result, _, rfl⟩
      rw [Table.get_erase, if_neg ne]
  · split at taken
    · split at taken
      · cases taken
      · cases taken
        rw [Table.get_erase, if_neg ne]
    · cases taken
  · split at taken
    · cases taken
    · cases taken
      exact Table.get_modify_of_ne _ _ ne
  · cases taken
    rw [Table.get_erase, if_neg ne]
  · cases taken

/-- The other parties leave every execution alone. -/
theorem execution_of_stepDatabase
    {state state' : State} {now : Time} {event : Event}
    {execution : Execution}
    (found : state.executions.get key = some execution)
    (taken : stepDatabase environment state now event = some state') :
    state'.executions.get key = some execution := by
  cases event with
  | createTarget | reap =>
      cases taken
      exact found
  | startDiscover | blockTarget | reopenTarget | enqueueTarget
  | webCancelTask | cliCancelTask | cancelRun =>
      rcases Option.map_eq_some_iff.mp taken with ⟨_, _, rfl⟩
      exact found
  | claim =>
      simp only [stepDatabase] at taken
      split at taken
      · cases taken
      · cases taken
        exact found
      · rcases Option.map_eq_some_iff.mp taken with ⟨row, _, rfl⟩
        exact Table.get_insert_of_some _ found
  | interruptDiscover =>
      simp only [stepDatabase] at taken
      split at taken
      · cases taken
        exact found
      · cases taken
  | concludeDiscover =>
      simp only [stepDatabase] at taken
      split at taken
      · rcases Option.map_eq_some_iff.mp taken with ⟨_, _, rfl⟩
        exact found
      · cases taken
  | _ => cases taken

/-- An execution changes by its own events only. -/
theorem execution_of_other
    {state state' : State} {action : Action} {execution : Execution}
    (notOwn : action.event.execution ≠ some key)
    (found : state.executions.get key = some execution)
    (taken : step environment state action = some state') :
    state'.executions.get key = some execution := by
  unfold step at taken
  split at taken
  · exact execution_of_stepDatabase found taken
  · next other isOther =>
      rcases Option.bind_eq_some_iff.mp taken with ⟨_, _, takes⟩
      have ne : key ≠ other := by
        rintro rfl
        exact notOwn isOther
      rw [execution_of_stepExecution ne takes, found]

/-- The events of one execution in a run, as long as it lasts. -/
def eventsFrom (environment : Environment) (key : Nat) :
    State → List Action → List (OwnEvent environment key)
  | _, [] => []
  | state, action :: actions =>
      match taken : step environment state action,
          found : state.executions.get key with
      | some next, some execution =>
          if isOwn : action.event.execution = some key then
            ⟨state, execution, action, next, found, isOwn, taken⟩ ::
              eventsFrom environment key next actions
          else eventsFrom environment key next actions
      | _, _ => []

/-- The events of an execution in a run are an attempt. -/
theorem attempt_eventsFrom
    {claimed : Execution} (actions : List Action) :
    ∀ {state : State} {earlier : List (OwnEvent environment key)}
      {execution : Execution},
      Ongoing environment key claimed earlier execution →
        state.executions.get key = some execution →
          Attempt environment key claimed
            (earlier ++ eventsFrom environment key state actions) := by
  induction actions with
  | nil =>
      intro state earlier execution ongoing _
      rw [eventsFrom, List.append_nil]
      exact ⟨earlier, execution, ongoing, Or.inl rfl⟩
  | cons action actions induction =>
      intro state earlier execution ongoing isHere
      rw [eventsFrom]
      split
      · next next execution' taken found =>
          rw [isHere] at found
          cases found
          split
          · next isOwn =>
              rw [List.append_cons]
              cases goesOn : next.executions.get key with
              | some execution' =>
                  apply induction _ goesOn
                  exact ongoing.event _ rfl goesOn
              | none =>
                  have ended : eventsFrom environment key next actions =
                      [] := by
                    cases actions with
                    | nil => rfl
                    | cons action actions =>
                        rw [eventsFrom]
                        split
                        · next found =>
                            rw [goesOn] at found
                            cases found
                        · rfl
                  rw [ended, List.append_nil]
                  exact ⟨earlier, execution, ongoing, Or.inr ⟨_, rfl, rfl⟩⟩
          · next notOwn =>
              exact induction ongoing
                (execution_of_other notOwn isHere taken)
      · rw [List.append_nil]
        exact ⟨earlier, execution, ongoing, Or.inl rfl⟩

end Run

/-! ## An upload which fails, or is cancelled -/

/-- Settings of a worker, and no date. -/
def minuteEnvironment : Environment where
  config := ⟨60, 3600, 100⟩
  parseDatetime := fun _ => none

/-- A Target whose PUBLISH task is queued. -/
def verifiedClip : State where
  db :=
    { storage := Table.empty.insert { name := "media", kind := .remote }
      profile := Table.empty.insert { name := "video", kind := .video }
      playlist :=
        Table.empty.insert { name := "clips", folderName := "clips" }
      playlistProfile := Table.empty.insert
        { playlistId := 1, profileId := 1, storageId := 1 }
      item := Table.empty.insert { playlistId := 1, sourceId := "clip" }
      target := Table.empty.insert
        { itemId := 1, playlistProfileId := 1, status := .processing }
      task := (Table.empty.insert
        { type := .postprocess, targetRefType := "target", targetRefId := 1,
          payloadJson := some
            [("file_path", .str "/staging/work/clip.mp4")],
          workerClass := .compute, status := .succeeded,
          finishedAt := some 5 }).insert
        { type := .publish, targetRefType := "target", targetRefId := 1,
          payloadJson := some
            [("work_id", .str "work"), ("target_id", .int 1)],
          workerClass := .network, status := .queued,
          dependsOnTaskId := some 1 } }

/-- The state when a worker has claimed the PUBLISH task. -/
def claimedPublish : State :=
  (step minuteEnvironment verifiedClip
    ⟨.claim .network "worker" none, 10⟩).getD {}

/-- The cancel ends the upload, which the handler reports as a failure. -/
def cancelledUpload : List Action :=
  [⟨.start 1, 11⟩, ⟨.cliCancelTask 2, 12⟩, ⟨.heartbeat 1, 13⟩,
    ⟨.finish 1 (.publish (.failed .failed "upload failed")), 14⟩,
    ⟨.settle 1 30, 15⟩]

/-- The upload fails, and the handler records it. -/
def failedUpload : List Action :=
  [⟨.start 1, 11⟩,
    ⟨.finish 1 (.publish (.failed .failed "upload failed")), 12⟩,
    ⟨.settle 1 30, 13⟩]

/-- The attempt of the claimed PUBLISH task. -/
def uploadEvents (actions : List Action) :
    List (OwnEvent minuteEnvironment 1) :=
  eventsFrom minuteEnvironment 1 claimedPublish actions

theorem attempt_uploadEvents (actions : List Action) :
    ∃ claimed, ClaimedFor claimed 1 ∧
      Attempt minuteEnvironment 1 claimed (uploadEvents actions) := by
  have found : ∃ claimed, claimedPublish.executions.get 1 = some claimed ∧
      ClaimedFor claimed 1 := by
    refine ⟨_, rfl, ?_⟩
    constructor
    · rfl
    · rfl
    · rfl
    · decide
    · rfl
  rcases found with ⟨claimed, isHere, claimedFor⟩
  exact ⟨claimed, claimedFor, attempt_eventsFrom actions .claimed isHere⟩

theorem getLast?_of_append
    {α : Type} {items earlier : List α} {last : α}
    (isLast : items = earlier ++ [last]) : items.getLast? = some last := by
  rw [isLast, List.getLast?_concat]

/-- The last event finds a failed Target and a task nobody cancels. -/
theorem recordedByOne_failedUpload :
    RecordedByOne (uploadEvents failedUpload) 1 := by
  have target : ∀ {settle : OwnEvent minuteEnvironment 1},
      (∃ earlier, uploadEvents failedUpload = earlier ++ [settle]) →
        ∀ row, settle.before.db.target.get 1 = some row →
          row.status = .failed := by
    rintro settle ⟨earlier, isLast⟩ row found
    have isSettle := getLast?_of_append isLast
    cases isSettle
    cases found
    rfl
  constructor
  · intro settle result root ends _ row found isActive
    rw [target ends.isLast row found] at isActive
    exact absurd isActive (by decide)
  · intro settle result root ends _ row found isBlocked
    rw [target ends.isLast row found] at isBlocked
    cases isBlocked
  · intro earlier settle result root isLast settlement isCancelled
    have isSettle := getLast?_of_append isLast
    cases isSettle
    have found := settlement.settles.found
    cases found
    have isResult := settlement.settles.isResult
    cases isResult
    have foundRoot := settlement.settles.foundRoot
    cases foundRoot
    cases isCancelled
  · rintro ⟨own, member, isRelease⟩
    have events : ((uploadEvents failedUpload).all fun own =>
        match own.action.event with
        | .release _ => false
        | _ => true) = true := by rfl
    have notRelease := List.all_eq_true.mp events own member
    rw [isRelease] at notRelease
    cases notRelease

theorem attempt_counts_once_failedUpload :
    RecordedByOne (uploadEvents failedUpload) 1 ∧
      CountsOnce (uploadEvents failedUpload) 1 := by
  rcases attempt_uploadEvents failedUpload with ⟨claimed, claimedFor, attempt⟩
  exact ⟨recordedByOne_failedUpload,
    (attempt_counts_once_iff claimedFor attempt).mpr
      recordedByOne_failedUpload⟩

/-- The cancelled attempt has counted its failure. -/
theorem not_countsOnce_cancelledUpload :
    ∃ claimed, ClaimedFor claimed 1 ∧
      Attempt minuteEnvironment 1 claimed (uploadEvents cancelledUpload) ∧
      ¬ CountsOnce (uploadEvents cancelledUpload) 1 := by
  rcases attempt_uploadEvents cancelledUpload with
    ⟨claimed, claimedFor, attempt⟩
  refine ⟨claimed, claimedFor, attempt, ?_⟩
  intro counts
  have last : ∃ earlier settle,
      uploadEvents cancelledUpload = earlier ++ [settle] ∧
        ∃ result root, settle.Settlement result root ∧
          settledStatus result root = .cancelled :=
    ⟨(uploadEvents cancelledUpload).dropLast,
      (uploadEvents cancelledUpload).getLast (by decide), rfl, _, _,
      ⟨⟨30, rfl⟩, rfl, rfl, rfl, rfl, rfl⟩, rfl⟩
  rcases last with
    ⟨earlier, settle, isLast, result, root, settlement, isCancelled⟩
  have none := counts.uncounted earlier settle result root isLast settlement
    (by
      rw [isCancelled]
      decide)
  have one : total (uploadEvents cancelledUpload) 1 = 1 := by rfl
  rw [one] at none
  cases none

end Sluicery.System
