import Sluicery.Tasks.Queue

/-!
# Task records and attempt counts

The status of a task decides which of its other columns are set, and
`attempts` counts the retryable failures and the stale recoveries since the
task was enqueued or retried by hand.  The count is taken from the answers of
the methods, next to the table and not in it.
-/

namespace Sluicery.Tasks.Queue

open Sluicery.Library Sluicery.Library.Transition
open Sluicery.Db Sluicery.Db.TaskRepository

/-! ## Columns -/

/-- The columns a status requires. -/
structure WellFormed (row : TaskRow) : Prop where
  positive : 1 ≤ row.maxAttempts
  bounded : row.attempts ≤ row.maxAttempts
  running (running : row.status = .running) :
    row.workerId.isSome = true ∧ row.heartbeatAt.isSome = true
  notRunning (notRunning : row.status ≠ .running) :
    row.workerId = none ∧ row.heartbeatAt = none
  unfinished (unfinished : isUnfinished row.status = true) :
    row.finishedAt = none ∧ row.attempts < row.maxAttempts
  waiting (waiting : isWaiting row.status = true) : row.startedAt = none
  terminal (terminal : isUnfinished row.status = false) :
    row.finishedAt.isSome = true

theorem WellFormed.of_fresh {row : TaskRow} (fresh : Fresh row)
    (positive : 1 ≤ row.maxAttempts) : WellFormed row where
  positive := positive
  bounded := by simp [fresh.attempts]
  running running := by simp [fresh.status] at running
  notRunning _ := ⟨fresh.workerId, fresh.heartbeatAt⟩
  unfinished _ := ⟨fresh.finishedAt, by rw [fresh.attempts]; exact positive⟩
  waiting _ := fresh.startedAt
  terminal terminal := by simp [fresh.status, isUnfinished] at terminal

theorem not_running_of_waiting {row : TaskRow}
    (waiting : isWaiting row.status = true) : row.status ≠ .running := by
  intro running
  rw [running] at waiting
  cases waiting

/-- A row which waits again. -/
theorem WellFormed.of_waiting {row : TaskRow}
    (positive : 1 ≤ row.maxAttempts) (waiting : isWaiting row.status = true)
    (free : row.workerId = none ∧ row.heartbeatAt = none)
    (notStarted : row.startedAt = none) (notFinished : row.finishedAt = none)
    (left : row.attempts < row.maxAttempts) : WellFormed row where
  positive := positive
  bounded := Nat.le_of_lt left
  running running := absurd running (not_running_of_waiting waiting)
  notRunning _ := free
  unfinished _ := ⟨notFinished, left⟩
  waiting _ := notStarted
  terminal terminal := by
    rw [unfinished_of_waiting waiting] at terminal
    cases terminal

/-- A row which has ended. -/
theorem WellFormed.of_terminal {row : TaskRow}
    (positive : 1 ≤ row.maxAttempts)
    (bounded : row.attempts ≤ row.maxAttempts)
    (terminal : isUnfinished row.status = false)
    (free : row.workerId = none ∧ row.heartbeatAt = none)
    (finished : row.finishedAt.isSome = true) : WellFormed row where
  positive := positive
  bounded := bounded
  running running := by simp [running, isUnfinished] at terminal
  notRunning _ := free
  unfinished unfinished := by
    rw [terminal] at unfinished
    cases unfinished
  waiting waiting := by
    rw [unfinished_of_waiting waiting] at terminal
    cases terminal
  terminal _ := finished

/-- Every statement restores the columns. -/
theorem WellFormed.values
    {change : Change} {row : TaskRow}
    (wellFormed : WellFormed row) (enabled : change.enabled row) :
    WellFormed (change.values row) := by
  have running : row.status = .running →
      row.attempts < row.maxAttempts := by
    intro running
    exact (wellFormed.unfinished (by rw [running]; rfl)).2
  cases change with
  | claim workerId claimedAt =>
      have unfinished := unfinished_of_waiting enabled.1
      constructor
      · exact wellFormed.positive
      · exact wellFormed.bounded
      · exact fun _ => ⟨rfl, rfl⟩
      · exact fun notRunning => absurd rfl notRunning
      · exact fun _ => ⟨rfl, (wellFormed.unfinished unfinished).2⟩
      · rintro ⟨⟩
      · rintro ⟨⟩
  | heartbeat now =>
      constructor
      · exact wellFormed.positive
      · exact wellFormed.bounded
      · exact fun running => ⟨(wellFormed.running running).1, rfl⟩
      · exact fun notRunning => absurd enabled notRunning
      · exact wellFormed.unfinished
      · exact wellFormed.waiting
      · exact wellFormed.terminal
  | payload fields => exact { wellFormed with }
  | flag => exact { wellFormed with }
  | finish status now errorMessage =>
      exact .of_terminal wellFormed.positive wellFormed.bounded enabled.2
        ⟨rfl, rfl⟩ rfl
  | failForRetry failedAt retryDelay errorMessage =>
      have left := running enabled
      simp only [Change.values, retryValues]
      by_cases cancelled : row.cancelRequested = true
      · apply WellFormed.of_terminal <;>
          simp [cancelled, isUnfinished, wellFormed.positive,
            wellFormed.bounded]
      · by_cases exhausted : row.attempts + 1 ≥ row.maxAttempts
        · apply WellFormed.of_terminal <;>
            simp [cancelled, exhausted, isUnfinished, wellFormed.positive]
          omega
        · apply WellFormed.of_waiting <;>
            simp [cancelled, exhausted, isWaiting, wellFormed.positive]
          omega
  | block blockedAt retryAfter reason =>
      have left := running enabled
      simp only [Change.values, blockValues]
      by_cases cancelled : row.cancelRequested = true
      · apply WellFormed.of_terminal <;>
          simp [cancelled, isUnfinished, wellFormed.positive,
            wellFormed.bounded]
      · apply WellFormed.of_waiting <;>
          simp [cancelled, isWaiting, wellFormed.positive, left]
  | release now =>
      exact .of_waiting wellFormed.positive rfl ⟨rfl, rfl⟩ rfl rfl
        (running enabled)
  | requestCancel requestedAt =>
      by_cases isRunning : row.status = .running
      · simp only [Change.values, requestCancelValues, if_pos isRunning]
        exact { wellFormed with }
      · simp only [Change.values, requestCancelValues, if_neg isRunning]
        exact .of_terminal wellFormed.positive wellFormed.bounded rfl
          ⟨rfl, rfl⟩ rfl
  | cancelRunWaiting requestedAt =>
      exact .of_terminal wellFormed.positive wellFormed.bounded rfl
        ⟨rfl, rfl⟩ rfl
  | close cancelledAt =>
      exact .of_terminal wellFormed.positive wellFormed.bounded rfl
        (wellFormed.notRunning (not_running_of_waiting enabled)) rfl
  | recover recoveredAt =>
      have left := running enabled
      simp only [Change.values, recoverValues]
      by_cases terminal : recoveryIsTerminal row = true
      · apply WellFormed.of_terminal <;>
          simp [terminal, isUnfinished, wellFormed.positive]
        omega
      · apply WellFormed.of_waiting <;>
          simp [terminal, isWaiting, wellFormed.positive]
        simp only [recoveryIsTerminal, ge_iff_le, decide_eq_true_eq,
          Nat.not_le] at terminal
        exact terminal
  | manualRetry now =>
      exact .of_waiting wellFormed.positive rfl ⟨rfl, rfl⟩ rfl rfl
        wellFormed.positive

/-- The tasks of the application have at least one attempt. -/
def positiveAttempts : Action → Prop
  | .enqueue _ _ _ _ _ maxAttempts _ => 1 ≤ maxAttempts
  | .createTestTask _ _ _ _ maxAttempts => 1 ≤ maxAttempts
  | .enqueuePipeline _ _ _ maxAttempts => 1 ≤ maxAttempts
  | _ => True

/-- New rows have at least one attempt. -/
theorem positive_of_insert
    {tasks tasks' : Table TaskRow} {action : Action} {key : Nat}
    {row : TaskRow} (positive : positiveAttempts action)
    (insert : isInsert action = true)
    (taken : step tasks action = some tasks')
    (missing : tasks.get key = none) (found : tasks'.get key = some row) :
    1 ≤ row.maxAttempts := by
  cases action with
  | enqueue type targetRefType targetRefId payload workerClass maxAttempts =>
      rcases taken
      rw [Table.eq_of_get_insert missing found]
      exact positive
  | createTestTask type payload workerClass priority maxAttempts =>
      rcases taken
      rw [Table.eq_of_get_insert missing found]
      exact positive
  | enqueuePipeline targetId runId workId maxAttempts =>
      rcases taken
      rw [(enqueuePipeline_columns missing found).2]
      exact positive
  | _ => cases insert

theorem wellFormed_step
    {tasks tasks' : Table TaskRow} {action : Action}
    (wellFormed : ∀ key row, tasks.get key = some row → WellFormed row)
    (positive : positiveAttempts action)
    (taken : step tasks action = some tasks') :
    ∀ key row, tasks'.get key = some row → WellFormed row := by
  intro key row found
  cases insert : isInsert action with
  | true =>
      have inserts := step_inserts insert taken
      cases foundBefore : tasks.get key with
      | some old =>
          have kept := inserts.kept foundBefore
          rw [found, Option.some.injEq] at kept
          rw [kept]
          exact wellFormed key old foundBefore
      | none =>
          exact .of_fresh (inserts.new foundBefore found).1
            (positive_of_insert positive insert taken foundBefore found)
  | false =>
      refine (step_rewrites insert taken).forall_rows wellFormed ?_ found
      intro key change row holds enabled _
      exact holds.values enabled

/-! ## Counting -/

/-- A failure which is retried, or was the last one. -/
def failedRetryably (tasks : Table TaskRow) (key : Nat) : Action → Bool
  | .write taskId workerId
      (.failedForRetry retryDelay errorMessage failedAt) =>
      let answer := (markFailedForRetry tasks taskId workerId retryDelay
        errorMessage failedAt).1
      taskId == key &&
        (answer == some .pending || answer == some .unavailable)
  | _ => false

/-- The task is one of those the recovery returns. -/
def wasRecovered (tasks : Table TaskRow) (key : Nat) : Action → Bool
  | .recoverStale staleBefore recoveredAt =>
      (TaskRepository.recoverStale tasks staleBefore
        recoveredAt).1.contains key
  | _ => false

/-- The task is put back by hand. -/
def wasRetried (tasks : Table TaskRow) (key : Nat) : Action → Bool
  | .retry taskId now =>
      taskId == key && (TaskRepository.retry tasks taskId now).1
  | _ => false

/-- The failures and recoveries of a task, with those of this action. -/
def countFailure (tasks : Table TaskRow) (action : Action)
    (counts : Nat → Nat) (key : Nat) : Nat :=
  if wasRetried tasks key action then 0
  else if failedRetryably tasks key action || wasRecovered tasks key action
    then counts key + 1
  else counts key

/-- The queue next to the counts. -/
def countedStep (state : Table TaskRow × (Nat → Nat)) (action : Action) :
    Option (Table TaskRow × (Nat → Nat)) :=
  (step state.1 action).map fun tasks =>
    (tasks, countFailure state.1 action state.2)

/-- The statements which do not count keep the column. -/
theorem attempts_values
    {change : Change} (row : TaskRow)
    (notFailed : ∀ failedAt retryDelay errorMessage,
      change ≠ .failForRetry failedAt retryDelay errorMessage)
    (notRecovered : ∀ recoveredAt, change ≠ .recover recoveredAt)
    (notRetried : ∀ now, change ≠ .manualRetry now) :
    (change.values row).attempts = row.attempts := by
  cases change with
  | failForRetry failedAt retryDelay errorMessage =>
      exact absurd rfl (notFailed _ _ _)
  | recover recoveredAt => exact absurd rfl (notRecovered _)
  | manualRetry now => exact absurd rfl (notRetried _)
  | requestCancel requestedAt =>
      by_cases running : row.status = .running <;>
        simp [Change.values, requestCancelValues, running]
  | _ => rfl

theorem attempts_cancelDescendants
    {tasks : Table TaskRow} {root key : Nat} {cancelledAt : Time}
    {row' : TaskRow}
    (found : (cancelDescendants tasks root cancelledAt).2.get key =
      some row') :
    ∃ row, tasks.get key = some row ∧ row'.attempts = row.attempts := by
  rcases (rewrites_cancelDescendants tasks root cancelledAt).origin found
    with ⟨row, foundBefore, chain⟩
  refine ⟨row, foundBefore, chain.same TaskRow.attempts ?_⟩
  rintro change other - ⟨⟨_, rfl⟩, -⟩
  rfl

theorem attempts_cancelAllDescendants
    {tasks : Table TaskRow} {roots : List Nat} {key : Nat}
    {cancelledAt : Time} {row' : TaskRow}
    (found : (cancelAllDescendants tasks cancelledAt roots).get key =
      some row') :
    ∃ row, tasks.get key = some row ∧ row'.attempts = row.attempts := by
  rcases (rewrites_cancelAllDescendants tasks cancelledAt roots).origin found
    with ⟨row, foundBefore, chain⟩
  refine ⟨row, foundBefore, chain.same TaskRow.attempts ?_⟩
  rintro change other - ⟨_, -, ⟨_, rfl⟩, -⟩
  rfl

/-- Actions which are neither a retryable failure nor a recovery or retry. -/
def keepsAttempts : Action → Bool
  | .write _ _ (.failedForRetry ..) | .recoverStale .. | .retry .. => false
  | _ => true

theorem attempts_of_keepsAttempts
    {tasks tasks' : Table TaskRow} {action : Action} {key : Nat}
    {row row' : TaskRow} (keeps : keepsAttempts action = true)
    (taken : step tasks action = some tasks')
    (found : tasks.get key = some row)
    (found' : tasks'.get key = some row') :
    row'.attempts = row.attempts := by
  rcases step_cases taken with inserts | rewrites
  · have kept := inserts.kept found
    rw [found', Option.some.injEq] at kept
    rw [kept]
  · rcases rewrites.found found with ⟨other, foundOther, chain⟩
    rw [found', Option.some.injEq] at foundOther
    subst foundOther
    refine chain.same TaskRow.attempts fun change other _ permitted => ?_
    apply attempts_values
    · rintro failedAt retryDelay errorMessage rfl
      cases permitted with
      | @write taskId workerId write _ _ _ _ isChange =>
          cases write <;> cases isChange
          cases keeps
    · rintro recoveredAt rfl
      rcases permitted.of_recover with ⟨_, rfl, -⟩
      cases keeps
    · rintro now rfl
      cases permitted with
      | @write taskId workerId write _ _ _ _ isChange =>
          cases write <;> cases isChange
      | retry => cases keeps

/-- A retryable failure counts once, unless a cancel was requested. -/
theorem attempts_failedForRetry
    {tasks : Table TaskRow} {taskId key : Nat} {workerId : String}
    {retryDelay failedAt : Time} {errorMessage : Option String}
    {row row' : TaskRow} (found : tasks.get key = some row)
    (found' : (Write.perform tasks taskId workerId
      (.failedForRetry retryDelay errorMessage failedAt)).2.get key =
        some row') :
    row'.attempts =
      if failedRetryably tasks key (.write taskId workerId
        (.failedForRetry retryDelay errorMessage failedAt))
      then row.attempts + 1 else row.attempts := by
  by_cases owned : ∃ owner, tasks.get taskId = some owner ∧
      ownedBy taskId workerId taskId owner = true
  · rcases owned with ⟨owner, foundOwner, owned⟩
    -- The closing of the descendants does not count.
    have modified : ∃ other,
        (tasks.modify taskId
          (retryValues failedAt retryDelay errorMessage)).get key =
            some other ∧ row'.attempts = other.attempts := by
      rcases Write.perform_of_owned _ foundOwner owned with
        ⟨performed, -⟩ | ⟨-, cancelledAt, performed⟩
      · rw [performed] at found'
        exact ⟨row', found', rfl⟩
      · rw [performed] at found'
        exact attempts_cancelDescendants found'
    rcases modified with ⟨other, foundOther, same⟩
    have answer : (markFailedForRetry tasks taskId workerId retryDelay
        errorMessage failedAt).1 =
          some (retryValues failedAt retryDelay errorMessage owner).status
        := by
      simp only [markFailedForRetry, updateOwned_of_owned _ foundOwner owned,
        Option.map_some]
      split <;> rfl
    rw [same, failedRetryably, answer]
    by_cases isTask : key = taskId
    · subst isTask
      rw [foundOwner, Option.some.injEq] at found
      subst found
      rw [Table.get_modify_self, foundOwner, Option.map_some,
        Option.some.injEq] at foundOther
      subst foundOther
      simp only [retryValues]
      by_cases cancelled : owner.cancelRequested = true
      · simp [cancelled]
      · by_cases exhausted : owner.attempts + 1 ≥ owner.maxAttempts <;>
          simp [cancelled, exhausted]
    · rw [Table.get_modify_of_ne _ _ isTask, found,
        Option.some.injEq] at foundOther
      subst foundOther
      simp [Ne.symm isTask]
  · have notOwned : ∀ owner, tasks.get taskId = some owner →
        ownedBy taskId workerId taskId owner = false := fun owner found =>
      Bool.eq_false_iff.mpr fun isOwner => owned ⟨owner, found, isOwner⟩
    rw [Write.perform_of_not_owned _ notOwned, found,
      Option.some.injEq] at found'
    simp [failedRetryably, markFailedForRetry,
      updateOwned_of_not_owned _ notOwned, found']

theorem attempts_recoverStale
    {tasks : Table TaskRow} {staleBefore recoveredAt : Time} {key : Nat}
    {row row' : TaskRow} (found : tasks.get key = some row)
    (found' : (TaskRepository.recoverStale tasks staleBefore
      recoveredAt).2.get key = some row') :
    row'.attempts =
      if wasRecovered tasks key (.recoverStale staleBefore recoveredAt)
      then row.attempts + 1 else row.attempts := by
  rcases attempts_cancelAllDescendants found' with ⟨other, foundOther, same⟩
  rw [Table.get_updateWhere, found, Option.map_some,
    Option.some.injEq] at foundOther
  subst foundOther
  have recovered : wasRecovered tasks key
      (.recoverStale staleBefore recoveredAt) = isStale staleBefore row := by
    rw [Bool.eq_iff_iff]
    simp only [wasRecovered, TaskRepository.recoverStale,
      List.contains_iff_mem, List.mem_map, Prod.exists,
      Table.mem_select_iff]
    constructor
    · rintro ⟨_, other, ⟨foundOther, stale⟩, rfl⟩
      rw [found, Option.some.injEq] at foundOther
      subst foundOther
      exact stale
    · intro stale
      exact ⟨key, row, ⟨found, stale⟩, rfl⟩
  rw [same, recovered]
  split <;> rfl

theorem attempts_retry
    {tasks : Table TaskRow} {taskId key : Nat} {now : Time}
    {row row' : TaskRow} (found : tasks.get key = some row)
    (found' : (TaskRepository.retry tasks taskId now).2.get key = some row') :
    row'.attempts =
      if wasRetried tasks key (.retry taskId now) then 0
      else row.attempts := by
  simp only [TaskRepository.retry, Table.get_updateWhere, found,
    Option.map_some, Option.some.injEq] at found'
  subst found'
  simp only [wasRetried, TaskRepository.retry]
  by_cases isTask : key = taskId
  · subst isTask
    cases running : (row.status != .running) <;>
      simp [found, running, manualRetryValues]
  · simp [isTask, Ne.symm isTask]

/-- Every action counts what `countFailure` counts. -/
theorem attempts_step
    {tasks tasks' : Table TaskRow} {action : Action} {key : Nat}
    {row row' : TaskRow} (taken : step tasks action = some tasks')
    (found : tasks.get key = some row)
    (found' : tasks'.get key = some row') :
    row'.attempts =
      if wasRetried tasks key action then 0
      else if failedRetryably tasks key action ||
          wasRecovered tasks key action then row.attempts + 1
      else row.attempts := by
  cases action with
  | retry taskId now =>
      rcases taken
      simpa [failedRetryably, wasRecovered] using attempts_retry found found'
  | recoverStale staleBefore recoveredAt =>
      rcases taken
      simpa [failedRetryably, wasRetried] using
        attempts_recoverStale found found'
  | write taskId workerId write =>
      cases write with
      | failedForRetry retryDelay errorMessage failedAt =>
          rcases taken
          simpa [wasRecovered, wasRetried] using
            attempts_failedForRetry found found'
      | _ => exact attempts_of_keepsAttempts rfl taken found found'
  | _ => exact attempts_of_keepsAttempts rfl taken found found'

/-- The table agrees with the counts. -/
structure Counted (state : Table TaskRow × (Nat → Nat)) : Prop where
  attempts {key : Nat} {row : TaskRow}
    (found : state.1.get key = some row) : row.attempts = state.2 key
  absent {key : Nat} (missing : state.1.get key = none) : state.2 key = 0

/-- No action counts a task which does not exist. -/
theorem countFailure_of_missing
    {tasks : Table TaskRow} {key : Nat} (missing : tasks.get key = none)
    (action : Action) {counts : Nat → Nat} (absent : counts key = 0) :
    countFailure tasks action counts key = 0 := by
  have notFailed : failedRetryably tasks key action = false := by
    cases action with
    | write taskId workerId write =>
        cases write with
        | failedForRetry retryDelay errorMessage failedAt =>
            by_cases isTask : taskId = key
            · subst isTask
              simp [failedRetryably, markFailedForRetry, updateOwned,
                missing]
            · simp [failedRetryably, isTask]
        | _ => rfl
    | _ => rfl
  have notRecovered : wasRecovered tasks key action = false := by
    cases action with
    | recoverStale staleBefore recoveredAt =>
        rw [Bool.eq_false_iff]
        intro recovered
        simp only [wasRecovered, TaskRepository.recoverStale,
          List.contains_iff_mem, List.mem_map, Prod.exists,
          Table.mem_select_iff] at recovered
        rcases recovered with ⟨_, row, ⟨found, -⟩, rfl⟩
        rw [missing] at found
        cases found
    | _ => rfl
  simp [countFailure, notFailed, notRecovered, absent]

theorem counted_step
    {state state' : Table TaskRow × (Nat → Nat)} {action : Action}
    (counted : Counted state) (taken : countedStep state action = some state')
    : Counted state' := by
  rcases Option.map_eq_some_iff.mp taken with ⟨tasks', stepped, rfl⟩
  constructor
  · intro key row' found'
    show row'.attempts = countFailure state.1 action state.2 key
    cases found : state.1.get key with
    | some row =>
        rw [attempts_step stepped found found', countFailure,
          counted.attempts found]
    | none =>
        rw [countFailure_of_missing found action (counted.absent found)]
        rcases step_cases stepped with inserts | rewrites
        · exact (inserts.new found found').1.attempts
        · rw [rewrites.absent found] at found'
          cases found'
  · intro key missing'
    have missing : state.1.get key = none := by
      cases found : state.1.get key with
      | none => rfl
      | some row =>
          rcases step_fixedColumns stepped found with ⟨row', found', -⟩
          rw [missing'] at found'
          cases found'
    exact countFailure_of_missing missing action (counted.absent missing)

/-- Blocking, cancelling, a shutdown release, and what does not count either. -/
def keepsCount (tasks : Table TaskRow) : Action → Bool
  | .write taskId workerId
      (.failedForRetry retryDelay errorMessage failedAt) =>
      (markFailedForRetry tasks taskId workerId retryDelay errorMessage
        failedAt).1 == some .cancelled
  | action => keepsAttempts action

theorem attempts_of_keepsCount
    {tasks tasks' : Table TaskRow} {action : Action} {key : Nat}
    {row row' : TaskRow} (keeps : keepsCount tasks action = true)
    (taken : step tasks action = some tasks')
    (found : tasks.get key = some row)
    (found' : tasks'.get key = some row') :
    row'.attempts = row.attempts := by
  cases action with
  | write taskId workerId write =>
      cases write with
      | failedForRetry retryDelay errorMessage failedAt =>
          rcases taken
          simp only [keepsCount, beq_iff_eq] at keeps
          rw [attempts_failedForRetry found found']
          simp [failedRetryably, keeps]
      | _ => exact attempts_of_keepsAttempts rfl taken found found'
  | retry | recoverStale => cases keeps
  | _ => exact attempts_of_keepsAttempts rfl taken found found'

/-! ## Every run -/

/--
In every state every order of methods reaches, the status of a task decides
its other columns, and its attempts are the retryable failures and stale
recoveries since it was enqueued or retried.
-/
theorem task_record_well_formed
    {tasks : Table TaskRow} {counts : Nat → Nat} {key : Nat} {row : TaskRow}
    (steps : Steps countedStep (fun _ action => positiveAttempts action)
      (.empty, fun _ => 0) (tasks, counts))
    (found : tasks.get key = some row) :
    (row.status = .running ↔
      row.workerId.isSome = true ∧ row.heartbeatAt.isSome = true) ∧
    (isWaiting row.status = true →
      row.workerId = none ∧ row.startedAt = none ∧ row.finishedAt = none ∧
        row.attempts < row.maxAttempts) ∧
    (isUnfinished row.status = false → row.finishedAt.isSome = true) ∧
    row.attempts = counts key ∧
    row.attempts ≤ row.maxAttempts ∧
    ∀ action tasks' row', keepsCount tasks action = true →
      step tasks action = some tasks' → tasks'.get key = some row' →
        row'.attempts = row.attempts := by
  have invariant := steps.invariant
    (fun state => Counted state ∧
      ∀ key row, state.1.get key = some row → WellFormed row)
    (by
      refine ⟨⟨?_, fun _ => rfl⟩, ?_⟩
      · rintro key row ⟨⟩
      · rintro key row ⟨⟩)
    (by
      rintro state action next ⟨counted, wellFormed⟩ positive taken
      refine ⟨counted_step counted taken, ?_⟩
      rcases Option.map_eq_some_iff.mp taken with ⟨tasks', stepped, rfl⟩
      exact wellFormed_step wellFormed positive stepped)
  rcases invariant with ⟨counted, wellFormed⟩
  have record := wellFormed key row found
  refine ⟨⟨record.running, ?_⟩, ?_, record.terminal, counted.attempts found,
    record.bounded, ?_⟩
  · rintro ⟨owned, -⟩
    by_contra notRunning
    rw [(record.notRunning notRunning).1] at owned
    cases owned
  · intro waiting
    have unfinished := record.unfinished (unfinished_of_waiting waiting)
    exact ⟨(record.notRunning (not_running_of_waiting waiting)).1,
      record.waiting waiting, unfinished.1, unfinished.2⟩
  · intro action tasks' row' keeps taken found'
    exact attempts_of_keepsCount keeps taken found found'

/-- A download which fails once, is recovered once and runs again. -/
def countedDownload : List Action :=
  [.enqueue .download "target" 1 [] .network 3 none,
    .claimNext .network "first" 0 none,
    .write 1 "first" (.failedForRetry 10 none 5),
    .claimNext .network "second" 20 none,
    .recoverStale 100 110,
    .claimNext .network "third" 120 none]

theorem task_record_well_formed_countedDownload :
    ∃ tasks counts row,
      run countedStep (.empty, fun _ => 0) countedDownload =
        some (tasks, counts) ∧
      tasks.get 1 = some row ∧ row.status = .running ∧ counts 1 = 2 ∧
      row.workerId.isSome = true ∧ row.attempts = counts 1 := by
  refine ⟨_, _, _, rfl, rfl, rfl, rfl, ?_⟩
  have holds := @task_record_well_formed _ _ 1 _
    (Steps.of_checked_run
      (fun _ action => match action with
        | .enqueue _ _ _ _ _ maxAttempts _ => decide (1 ≤ maxAttempts)
        | .claimNext .. | .write .. | .recoverStale .. => true
        | _ => false)
      (fun _ action passed => by
        cases action <;> simp [positiveAttempts] at passed ⊢
        exact passed) countedDownload rfl)
    rfl
  exact ⟨(holds.1.mp rfl).1, holds.2.2.2.1⟩

end Sluicery.Tasks.Queue
