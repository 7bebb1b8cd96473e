import Sluicery.Core.DownloadPhase

/-!
# What becomes of the candidates

A call of `queue_download_phase` is the list of its commits; between two
commits the other parties change the database as they like.  Every candidate
is blocked, queued, left by the limit or lost, and the statistics count them.
-/

namespace Sluicery.Core.DownloadRun

open Sluicery.Library Sluicery.Db Sluicery.Db.TargetRepository

/-! ## Commits -/

/-- One commit of a call, with the database before it and after it. -/
structure Commit where
  run : DownloadRun
  before : Database
  answer : Option String
  workId : String
  now : Time
  next : DownloadRun
  after : Database
  proceeds : run.proceed before answer workId now = .ok (some next, after)

/-- The commits of a call, which takes up where its last commit ended. -/
inductive Phase : DownloadRun → List Commit → DownloadRun → Prop where
  | here (run : DownloadRun) : Phase run [] run
  | commit (commit : Commit) {later : List Commit} {final : DownloadRun}
      (goesOn : Phase commit.next later final) :
      Phase commit.run (commit :: later) final

/-- What the cache, or the check, says of the Storage of a candidate. -/
def unusable (candidate : DownloadCandidate)
    (storageChecks : List (Nat × Option String)) (answer : Option String) :
    Option String :=
  (storageChecks.lookup candidate.assignment.storageId).getD
    (checkStorage candidate.storage answer)

/-- The Targets after a candidate with a usable Storage. -/
inductive Reopens (targets : Table TargetRow)
    (candidate : DownloadCandidate) (now : Time) : Table TargetRow → Prop where
  | unchanged (isOpen : ¬ (candidate.target.status = .failed ∨
        candidate.target.status = .blocked)) :
      Reopens targets candidate now targets
  | reopened {row : TargetRow}
      (found : targets.get candidate.targetId = some row)
      (asRead : row.status = candidate.target.status) :
      Reopens targets candidate now
        (targets.modify candidate.targetId
          (statusValues .pending none none false now))

/-- What one commit can do. -/
inductive Advances (run : DownloadRun) (db : Database)
    (answer : Option String) (workId : String) (now : Time) :
    DownloadRun → Database → Prop where
  | selected (isStage : run.stage = .started) :
      Advances run db answer workId now
        { run with
          queuedAt := now
          stage := .checking
            (listDownloadCandidates db run.playlistId run.retryLimit) [] [] }
        db
  | checkedAll {storageChecks : List (Nat × Option String)}
      {eligibleIds : List Nat}
      (isStage : run.stage = .checking [] storageChecks eligibleIds) :
      Advances run db answer workId now
        { run with stage := .queueing eligibleIds 0 0 } db
  | blocked {candidate : DownloadCandidate} {rest : List DownloadCandidate}
      {storageChecks : List (Nat × Option String)} {eligibleIds : List Nat}
      {reason : String} {row : TargetRow}
      (isStage : run.stage =
        .checking (candidate :: rest) storageChecks eligibleIds)
      (isUnusable : unusable candidate storageChecks answer = some reason)
      (found : db.target.get candidate.targetId = some row)
      (asRead : row.status = candidate.target.status) :
      Advances run db answer workId now
        { run with
          stage := .checking rest
            ((candidate.assignment.storageId, some reason) :: storageChecks)
            eligibleIds }
        { db with
          target := db.target.modify candidate.targetId
            (statusValues .blocked (some reason) (some reason) false now) }
  | usable {candidate : DownloadCandidate} {rest : List DownloadCandidate}
      {storageChecks : List (Nat × Option String)} {eligibleIds : List Nat}
      {target : Table TargetRow}
      (isStage : run.stage =
        .checking (candidate :: rest) storageChecks eligibleIds)
      (isUsable : unusable candidate storageChecks answer = none)
      (reopens : Reopens db.target candidate now target) :
      Advances run db answer workId now
        { run with
          stage := .checking rest
            ((candidate.assignment.storageId, none) :: storageChecks)
            (eligibleIds ++ [candidate.targetId]) }
        { db with target }
  | left {targetId : Nat} {rest : List Nat} {queued remaining : Nat}
      (isStage : run.stage = .queueing (targetId :: rest) queued remaining)
      (atLimit : run.targetLimit ≤ queued) :
      Advances run db answer workId now
        { run with stage := .queueing rest queued (remaining + 1) } db
  | queued {targetId : Nat} {rest : List Nat} {queued remaining : Nat}
      {row : TargetRow}
      (isStage : run.stage = .queueing (targetId :: rest) queued remaining)
      (belowLimit : queued < run.targetLimit)
      (found : db.target.get targetId = some row)
      (isPending : row.status = .pending) :
      Advances run db answer workId now
        { run with stage := .queueing rest (queued + 1) remaining }
        { db with
          target := db.target.modify targetId
            (statusValues .queued none none false now)
          task := (Tasks.enqueuePipeline db.task targetId (some run.runId)
            workId run.retryLimit).2 }
  | lost {targetId : Nat} {rest : List Nat} {queued remaining : Nat}
      {row : TargetRow}
      (isStage : run.stage = .queueing (targetId :: rest) queued remaining)
      (belowLimit : queued < run.targetLimit)
      (found : db.target.get targetId = some row)
      (notPending : row.status ≠ .pending) :
      Advances run db answer workId now
        { run with stage := .queueing rest queued remaining } db
  | counted {queued remaining : Nat}
      (isStage : run.stage = .queueing [] queued remaining) :
      Advances run db answer workId now
        { run with
          stage := .counted queued
            (countByStatus
              (setLastDownloadAt db run.playlistId run.queuedAt now)
              run.playlistId .blocked)
            (let counts := countByStatus
              (setLastDownloadAt db run.playlistId run.queuedAt now)
              run.playlistId
            syncStats queued remaining (counts .downloaded) (counts .failed)
              (counts .blocked)) }
        (setLastDownloadAt db run.playlistId run.queuedAt now)

theorem transitionRead_eq_ok
    {targets after : Table TargetRow} {targetId : Nat}
    {current status : TargetStatus} {error blockedReason : Option String}
    {now : Time}
    (taken : transitionRead targets targetId current status error
      blockedReason now = .ok after) :
    ∃ row, targets.get targetId = some row ∧ row.status = current ∧
      after = targets.modify targetId
        (statusValues status error blockedReason false now) := by
  simp only [transitionRead] at taken
  split at taken
  · next allowed =>
      split at taken
      · next accepted =>
          rw [compareAndSetStatus_accepted] at accepted
          rcases accepted with ⟨row, found, expected⟩
          rw [List.mem_singleton] at expected
          have isAllowed : status ∈
              normalTransitions row.status ++ anyTransitions := by
            rw [expected]
            exact List.contains_iff_mem.mp allowed
          have moved := transitionTarget_of_allowed error blockedReason false
            now found isAllowed
          simp only [transitionTarget, found, expected, allowed,
            ite_true] at moved
          cases taken
          split at moved
          · exact ⟨row, found, expected, Except.ok.inj moved⟩
          · cases moved
      · cases taken
  · cases taken

theorem raiseTransition_eq_ok {Value : Type}
    {answer : Except TransitionError Value} {value : Value}
    (taken : raiseTransition answer = .ok value) : answer = .ok value := by
  cases answer with
  | ok other => exact congrArg _ (Except.ok.inj taken)
  | error error => cases error <;> cases taken

theorem map_eq_ok {Error Value Result : Type}
    {answer : Except Error Value} {change : Value → Result} {result : Result}
    (mapped : answer.map change = .ok result) :
    ∃ value, answer = .ok value ∧ change value = result := by
  cases answer with
  | ok value => exact ⟨value, rfl, Except.ok.inj mapped⟩
  | error error => cases mapped

theorem reopens_of_reopenCandidate
    {targets after : Table TargetRow} {candidate : DownloadCandidate}
    {now : Time}
    (taken : reopenCandidate targets candidate now = .ok after) :
    Reopens targets candidate now after := by
  simp only [reopenCandidate] at taken
  split at taken
  · rcases transitionRead_eq_ok taken with ⟨row, found, asRead, rfl⟩
    exact .reopened found asRead
  · next isOpen =>
      cases taken
      exact .unchanged isOpen

theorem enqueueTargetPipeline_eq_ok
    {db after : Database} {targetId : Nat} {runId : Option Nat}
    {workId : String} {maxAttempts : Nat} {now : Time}
    {chain : Option (List Nat)}
    (enqueued : enqueueTargetPipeline db targetId runId workId maxAttempts
      now = .ok (chain, after)) :
    ∃ row, db.target.get targetId = some row ∧
      ((row.status = .pending ∧ chain.isSome ∧
          after = { db with
            target := db.target.modify targetId
              (statusValues .queued none none false now)
            task := (Tasks.enqueuePipeline db.task targetId runId workId
              maxAttempts).2 }) ∨
        (row.status ≠ .pending ∧ chain = none ∧ after = db)) := by
  simp only [enqueueTargetPipeline] at enqueued
  cases found : db.target.get targetId with
  | none =>
      rw [transitionTarget_of_missing _ _ _ _ _ found] at enqueued
      cases enqueued
  | some row =>
      apply Exists.intro row
      apply And.intro rfl
      by_cases isPending : row.status = .pending
      · left
        have allowed : TargetStatus.queued ∈
            normalTransitions row.status ++ anyTransitions := by
          rw [isPending]
          decide
        rw [transitionTarget_of_allowed none none false now found
          allowed] at enqueued
        cases enqueued
        exact ⟨isPending, rfl, rfl⟩
      · right
        have refused : (normalTransitions row.status ++
            anyTransitions).contains TargetStatus.queued = false := by
          cases isStatus : row.status <;> first
            | decide
            | exact absurd isStatus isPending
        simp only [transitionTarget, found, refused] at enqueued
        cases enqueued
        exact ⟨isPending, rfl, rfl⟩

/-- Every commit is one of these. -/
theorem advances_of_proceed
    {run next : DownloadRun} {db after : Database} {answer : Option String}
    {workId : String} {now : Time}
    (taken : run.proceed db answer workId now = .ok (some next, after)) :
    Advances run db answer workId now next after := by
  rw [proceed.eq_def] at taken
  split at taken
  · next isStage =>
      rcases map_eq_ok taken with ⟨selected, selects, same⟩
      cases same
      simp only [DownloadRun.select] at selects
      split at selects
      · cases selects
      · split at selects
        · cases selects
        · split at selects
          · cases selects
          · cases selects
            exact .selected isStage
  · next isStage =>
      cases taken
      exact .checkedAll isStage
  · next candidate rest storageChecks eligibleIds isStage =>
      rcases map_eq_ok taken with ⟨checked, checks, same⟩
      cases same
      simp only [DownloadRun.check] at checks
      split at checks
      · next reason isUnusable =>
          rcases map_eq_ok checks with ⟨target, blocks, same⟩
          cases same
          rcases transitionRead_eq_ok (raiseTransition_eq_ok blocks) with
            ⟨row, found, asRead, rfl⟩
          rw [isUnusable]
          exact .blocked isStage isUnusable found asRead
      · next isUsable =>
          rcases map_eq_ok checks with ⟨target, reopens, same⟩
          cases same
          rw [isUsable]
          exact .usable isStage isUsable
            (reopens_of_reopenCandidate (raiseTransition_eq_ok reopens))
  · next isStage =>
      cases taken
      exact .counted isStage
  · next targetId rest queued remaining isStage =>
      rcases map_eq_ok taken with ⟨enqueued, enqueues, same⟩
      cases same
      simp only [DownloadRun.enqueue] at enqueues
      split at enqueues
      · next atLimit =>
          cases enqueues
          exact .left isStage atLimit
      · next belowLimit =>
          rcases map_eq_ok enqueues with ⟨⟨chain, after⟩, enqueued, same⟩
          cases same
          rcases enqueueTargetPipeline_eq_ok (raiseTransition_eq_ok
            enqueued) with ⟨row, found, ⟨isPending, isSome, rfl⟩ |
              ⟨notPending, rfl, rfl⟩⟩
          · rw [if_pos isSome]
            exact .queued isStage (Nat.lt_of_not_le belowLimit) found
              isPending
          · exact .lost isStage (Nat.lt_of_not_le belowLimit) found
              notPending
  · cases taken

/-! ## Outcomes -/

/-- What becomes of a candidate; `tasks` are the tasks of the new chain. -/
inductive Outcome where
  | blocked (reason : String)
  | queued (tasks : List Nat)
  | left
  | lost
  deriving DecidableEq

namespace Outcome

/-- The status in which the call leaves the candidate. -/
def status : Outcome → Option TargetStatus
  | blocked _ => some .blocked
  | queued _ => some .queued
  | left => some .pending
  | lost => none

def isQueued : Outcome → Bool
  | queued _ => true
  | _ => false

def isLeft : Outcome → Bool
  | left => true
  | _ => false

end Outcome

/-- The tasks are a chain for the Target, and the only new ones. -/
structure NewChain (before after : Table TaskRow) (targetId : Nat)
    (tasks : List Nat) : Prop where
  types : tasks.map (fun key => (after.get key).map TaskRow.type) =
    Tasks.pipelineSteps.map fun step => some step.1
  links : tasks.map (fun key => (after.get key).map
      TaskRow.dependsOnTaskId) =
    some none :: tasks.dropLast.map fun key => some (some key)
  target : ∀ key ∈ tasks, ∀ row, after.get key = some row →
    row.targetRefType = "target" ∧ row.targetRefId = targetId
  new : ∀ key ∈ tasks, before.get key = none
  others : ∀ key, key ∉ tasks → after.get key = before.get key

theorem get_of_mem_enqueuePipeline
    {before : Table TaskRow} {targetId : Nat} {runId : Option Nat}
    {workId : String} {maxAttempts key : Nat}
    (member : key ∈ (Tasks.enqueuePipeline before targetId runId workId
      maxAttempts).1) :
    before.get key = none := by
  cases found : before.get key with
  | none => rfl
  | some row =>
      have below := Table.lt_nextKey found
      simp only [Tasks.enqueuePipeline, Tasks.pipelineSteps,
        Tasks.enqueueSteps, Table.nextKey_insert, List.mem_cons,
        List.not_mem_nil, or_false] at member
      omega

theorem newChain_enqueuePipeline
    (before : Table TaskRow) (targetId : Nat) (runId : Option Nat)
    (workId : String) (maxAttempts : Nat) :
    NewChain before
      (Tasks.enqueuePipeline before targetId runId workId maxAttempts).2
      targetId
      (Tasks.enqueuePipeline before targetId runId workId
        maxAttempts).1 where
  types := by
    simp [Tasks.enqueuePipeline, Tasks.pipelineSteps, Tasks.enqueueSteps,
      Table.get_insert, Tasks.pipelineRow, Nat.add_assoc]
  links := by
    simp [Tasks.enqueuePipeline, Tasks.pipelineSteps, Tasks.enqueueSteps,
      Table.get_insert, Tasks.pipelineRow, Nat.add_assoc]
  target := by
    intro key member row found
    have isTask := (Tasks.enqueuePipeline_extends before targetId runId
      workId maxAttempts).new (get_of_mem_enqueuePipeline member) found
    exact ⟨isTask.targetRefType, isTask.targetRefId⟩
  new := fun _ member => get_of_mem_enqueuePipeline member
  others := by
    intro key outside
    simp only [Tasks.enqueuePipeline, Tasks.pipelineSteps,
      Tasks.enqueueSteps, Table.nextKey_insert, List.mem_cons,
      List.not_mem_nil, or_false, not_or] at outside
    simp only [Tasks.enqueuePipeline, Tasks.pipelineSteps,
      Tasks.enqueueSteps, Table.get_insert, Table.nextKey_insert, outside,
      if_false]

/-- The status of a Target. -/
def statusOf (db : Database) (targetId : Nat) : Option TargetStatus :=
  (db.target.get targetId).map TargetRow.status

theorem statusOf_of_get {db : Database} {targetId : Nat} {row : TargetRow}
    (found : db.target.get targetId = some row) :
    statusOf db targetId = some row.status := by
  rw [statusOf, found, Option.map_some]

namespace Commit

/-- The candidate which a commit decides on, and its outcome. -/
def outcome (commit : Commit) : Option (Nat × Outcome) :=
  match commit.run.stage with
  | .checking (candidate :: _) storageChecks _ =>
      (unusable candidate storageChecks commit.answer).map fun reason =>
        (candidate.targetId, .blocked reason)
  | .queueing (targetId :: _) queued _ =>
      some (targetId,
        if commit.run.targetLimit ≤ queued then .left
        else if statusOf commit.before targetId = some .pending then
          .queued (Tasks.enqueuePipeline commit.before.task targetId
            (some commit.run.runId) commit.workId commit.run.retryLimit).1
        else .lost)
  | _ => none

/-- The check of a Storage which a commit makes, and its result. -/
def storageCheck (commit : Commit) : Option (Nat × Option String) :=
  match commit.run.stage with
  | .checking (candidate :: _) storageChecks _ =>
      if (storageChecks.lookup candidate.assignment.storageId).isNone then
        some (candidate.assignment.storageId,
          checkStorage candidate.storage commit.answer)
      else none
  | _ => none

/-- What a commit does to the candidate it decides on, and to nothing else. -/
def Settles (commit : Commit) (targetId : Nat) : Outcome → Prop
  | .blocked reason =>
      commit.after = { commit.before with
        target := commit.before.target.modify targetId
          (statusValues .blocked (some reason) (some reason) false
            commit.now) }
  | .queued tasks =>
      statusOf commit.before targetId = some .pending ∧
        NewChain commit.before.task commit.after.task targetId tasks ∧
        commit.after = { commit.before with
          target := commit.before.target.modify targetId
            (statusValues .queued none none false commit.now)
          task := commit.after.task }
  | .left => commit.after = commit.before
  | .lost =>
      statusOf commit.before targetId ≠ some .pending ∧
        commit.after = commit.before

end Commit

/-- The outcomes of a call, in the order of its commits. -/
def outcomes (commits : List Commit) : List (Nat × Outcome) :=
  commits.filterMap Commit.outcome

/-- The checks which a call makes. -/
def storageChecks (commits : List Commit) : List (Nat × Option String) :=
  commits.filterMap Commit.storageCheck

/-- The candidates whose outcome is of a kind. -/
def idsOf (kind : Outcome → Bool) (commits : List Commit) : List Nat :=
  ((outcomes commits).filter fun entry => kind entry.2).map Prod.fst

/-- Nobody else changes the status of the Target between two commits. -/
def Undisturbed (targetId : Nat) (commits : List Commit) : Prop :=
  commits.IsChain fun earlier later =>
    statusOf later.before targetId = statusOf earlier.after targetId

/-- The candidates of a finished call, its outcomes and its statistics. -/
structure Conserves (limit : Nat) (candidates : List DownloadCandidate)
    (first : Commit) (later : List Commit) (queued : Nat)
    (stats : Json.Fields) : Prop where
  distinct : (candidates.map DownloadCandidate.targetId).Nodup
  /-- Every candidate has exactly one outcome, and nothing else has one. -/
  once : ((outcomes (first :: later)).map Prod.fst).Perm
    (candidates.map DownloadCandidate.targetId)
  settles : ∀ commit ∈ first :: later, ∀ targetId outcome,
    commit.outcome = some (targetId, outcome) →
      commit.Settles targetId outcome
  noChain : ∀ commit ∈ first :: later,
    (∀ targetId tasks, commit.outcome ≠ some (targetId, .queued tasks)) →
      commit.after.task = commit.before.task
  /-- The queued candidates come before those which the limit leaves. -/
  ordered : (idsOf Outcome.isQueued (first :: later) ++
      idsOf Outcome.isLeft (first :: later)).Sublist
    (candidates.map DownloadCandidate.targetId)
  limited : (idsOf Outcome.isQueued (first :: later)).length ≤ limit
  reached : idsOf Outcome.isLeft (first :: later) ≠ [] →
    (idsOf Outcome.isQueued (first :: later)).length = limit
  isQueued : queued = (idsOf Outcome.isQueued (first :: later)).length
  targetsQueued : stats.lookup "targets_queued" =
    some (.int (idsOf Outcome.isQueued (first :: later)).length)
  targetsRemaining : stats.lookup "targets_remaining" =
    some (.int (idsOf Outcome.isLeft (first :: later)).length)
  /-- A candidate is blocked if the check of its Storage says so. -/
  blocked : ∀ candidate ∈ candidates, ∃ result,
    (candidate.assignment.storageId, result) ∈
        storageChecks (first :: later) ∧
      ∀ reason, (candidate.targetId, .blocked reason) ∈
          outcomes (first :: later) ↔ result = some reason
  checkedOnce : ((storageChecks (first :: later)).map Prod.fst).Nodup
  /-- Without others, a candidate ends as its outcome says, and not lost. -/
  final : ∀ targetId outcome,
    (targetId, outcome) ∈ outcomes (first :: later) →
      Undisturbed targetId (first :: later) →
        ∃ status, outcome.status = some status ∧
          statusOf ((first :: later).getLast (List.cons_ne_nil _ _)).after
            targetId = some status

/-! ## One commit -/

namespace Commit

variable {commit : Commit} {candidate : DownloadCandidate}
  {candidates : List DownloadCandidate} {cache : List (Nat × Option String)}
  {targetId : Nat} {ids : List Nat} {queued remaining : Nat}

theorem outcome_blocked {reason : String}
    (isStage : commit.run.stage = .checking (candidate :: candidates) cache
      ids)
    (isUnusable : unusable candidate cache commit.answer = some reason) :
    commit.outcome = some (candidate.targetId, .blocked reason) := by
  simp only [outcome, isStage, isUnusable, Option.map_some]

theorem outcome_usable
    (isStage : commit.run.stage = .checking (candidate :: candidates) cache
      ids)
    (isUsable : unusable candidate cache commit.answer = none) :
    commit.outcome = none := by
  simp only [outcome, isStage, isUsable, Option.map_none]

theorem outcome_left
    (isStage : commit.run.stage = .queueing (targetId :: ids) queued
      remaining)
    (atLimit : commit.run.targetLimit ≤ queued) :
    commit.outcome = some (targetId, .left) := by
  simp only [outcome, isStage, atLimit, if_true]

theorem outcome_queued {row : TargetRow}
    (isStage : commit.run.stage = .queueing (targetId :: ids) queued
      remaining)
    (belowLimit : queued < commit.run.targetLimit)
    (found : commit.before.target.get targetId = some row)
    (isPending : row.status = .pending) :
    commit.outcome = some (targetId, .queued
      (Tasks.enqueuePipeline commit.before.task targetId
        (some commit.run.runId) commit.workId commit.run.retryLimit).1) := by
  have pending := statusOf_of_get found
  rw [isPending] at pending
  simp only [outcome, isStage, Nat.not_le.mpr belowLimit, pending, if_true,
    if_false]

theorem outcome_lost {row : TargetRow}
    (isStage : commit.run.stage = .queueing (targetId :: ids) queued
      remaining)
    (belowLimit : queued < commit.run.targetLimit)
    (found : commit.before.target.get targetId = some row)
    (notPending : row.status ≠ .pending) :
    commit.outcome = some (targetId, .lost) := by
  have changed := statusOf_of_get found
  have differs : ¬ some row.status = some TargetStatus.pending :=
    fun same => notPending (Option.some.inj same)
  simp only [outcome, isStage, Nat.not_le.mpr belowLimit, changed, differs,
    if_false]

theorem advances (commit : Commit) :
    Advances commit.run commit.before commit.answer commit.workId commit.now
      commit.next commit.after :=
  advances_of_proceed commit.proceeds

/-- A commit writes what its outcome says. -/
theorem settles {outcome : Outcome}
    (decides : commit.outcome = some (targetId, outcome)) :
    commit.Settles targetId outcome := by
  have advances := commit.advances
  generalize isNext : commit.next = next at advances
  generalize isAfter : commit.after = after at advances
  cases advances with
  | selected isStage | checkedAll isStage | counted isStage =>
      simp only [Commit.outcome, isStage] at decides
      cases decides
  | blocked isStage isUnusable found asRead =>
      rw [outcome_blocked isStage isUnusable] at decides
      cases decides
      exact isAfter
  | usable isStage isUsable reopens =>
      rw [outcome_usable isStage isUsable] at decides
      cases decides
  | left isStage atLimit =>
      rw [outcome_left isStage atLimit] at decides
      cases decides
      exact isAfter
  | queued isStage belowLimit found isPending =>
      rw [outcome_queued isStage belowLimit found isPending] at decides
      cases decides
      have pending := statusOf_of_get found
      rw [isPending] at pending
      apply And.intro pending
      rw [isAfter]
      exact ⟨newChain_enqueuePipeline .., rfl⟩
  | lost isStage belowLimit found notPending =>
      rw [outcome_lost isStage belowLimit found notPending] at decides
      cases decides
      apply And.intro _ isAfter
      rw [statusOf_of_get found]
      exact fun same => notPending (Option.some.inj same)

/-- A commit which queues nothing creates no task. -/
theorem task_of_outcome (commit : Commit)
    (noChain : ∀ targetId tasks,
      commit.outcome ≠ some (targetId, .queued tasks)) :
    commit.after.task = commit.before.task := by
  have advances := commit.advances
  generalize isNext : commit.next = next at advances
  generalize isAfter : commit.after = after at advances
  cases advances with
  | queued isStage belowLimit found isPending =>
      exact absurd (outcome_queued isStage belowLimit found isPending)
        (noChain _ _)
  | _ => rfl

end Commit

theorem idsOf_cons_of_none
    {commit : Commit} {commits : List Commit} (kind : Outcome → Bool)
    (undecided : commit.outcome = none) :
    idsOf kind (commit :: commits) = idsOf kind commits := by
  simp only [idsOf, outcomes, List.filterMap_cons, undecided]

theorem idsOf_cons_of_some
    {commit : Commit} {commits : List Commit} {targetId : Nat}
    {outcome : Outcome} (kind : Outcome → Bool)
    (decides : commit.outcome = some (targetId, outcome)) :
    idsOf kind (commit :: commits) =
      if kind outcome then targetId :: idsOf kind commits
      else idsOf kind commits := by
  simp only [idsOf, outcomes, List.filterMap_cons, decides,
    List.filter_cons]
  split <;> rfl

theorem outcomes_cons_of_none
    {commit : Commit} {commits : List Commit}
    (undecided : commit.outcome = none) :
    outcomes (commit :: commits) = outcomes commits := by
  simp only [outcomes, List.filterMap_cons, undecided]

theorem outcomes_cons_of_some
    {commit : Commit} {commits : List Commit} {entry : Nat × Outcome}
    (decides : commit.outcome = some entry) :
    outcomes (commit :: commits) = entry :: outcomes commits := by
  simp only [outcomes, List.filterMap_cons, decides]

theorem storageChecks_cons_of_none
    {commit : Commit} {commits : List Commit}
    (unchecked : commit.storageCheck = none) :
    storageChecks (commit :: commits) = storageChecks commits := by
  simp only [storageChecks, List.filterMap_cons, unchecked]

theorem storageChecks_cons_of_some
    {commit : Commit} {commits : List Commit} {entry : Nat × Option String}
    (checks : commit.storageCheck = some entry) :
    storageChecks (commit :: commits) = entry :: storageChecks commits := by
  simp only [storageChecks, List.filterMap_cons, checks]

/-! ## The loop over `eligible_ids` -/

/-- What the second loop makes of the Targets before it. -/
structure Queues (limit : Nat) (commits : List Commit) (ids : List Nat)
    (queuedBefore remainingBefore queued remaining : Nat) : Prop where
  once : (outcomes commits).map Prod.fst = ids
  unchecked : storageChecks commits = []
  unblocked : ∀ targetId reason,
    (targetId, .blocked reason) ∉ outcomes commits
  ordered : (idsOf Outcome.isQueued commits ++
    idsOf Outcome.isLeft commits).Sublist ids
  isQueued : queued = queuedBefore + (idsOf Outcome.isQueued commits).length
  isRemaining :
    remaining = remainingBefore + (idsOf Outcome.isLeft commits).length
  limited : queuedBefore ≤ limit → queued ≤ limit
  full : limit ≤ queuedBefore → idsOf Outcome.isQueued commits = []
  reached : idsOf Outcome.isLeft commits ≠ [] → limit ≤ queued

theorem commits_of_counted
    {run final : DownloadRun} {commits : List Commit} {queued blocked : Nat}
    {stats : Json.Fields} (phase : Phase run commits final)
    (isStage : run.stage = .counted queued blocked stats) :
    commits = [] ∧ final = run := by
  cases phase with
  | here => exact ⟨rfl, rfl⟩
  | commit commit goesOn =>
      have ended := commit.proceeds
      rw [proceed.eq_def, isStage] at ended
      cases ended

/-- After the second loop. -/
theorem queues_nil_of_none
    {commit : Commit} (limit queued remaining : Nat)
    (undecided : commit.outcome = none)
    (unchecked : commit.storageCheck = none) :
    Queues limit [commit] [] queued remaining queued remaining := by
  have queuedIds := @idsOf_cons_of_none commit [] Outcome.isQueued undecided
  have leftIds := @idsOf_cons_of_none commit [] Outcome.isLeft undecided
  have none := @outcomes_cons_of_none commit [] undecided
  constructor
  · rw [none]
    rfl
  · exact storageChecks_cons_of_none unchecked
  · intro targetId reason member
    rw [none] at member
    cases member
  · rw [queuedIds, leftIds]
    exact List.Sublist.refl []
  · rw [queuedIds]
    rfl
  · rw [leftIds]
    rfl
  · exact id
  · exact fun _ => queuedIds
  · exact fun some => absurd leftIds some

/-- A commit of the second loop before the others. -/
theorem Queues.cons
    {limit : Nat} {commit : Commit} {commits : List Commit} {targetId : Nat}
    {ids : List Nat} {outcome : Outcome}
    {queuedBefore remainingBefore queuedNext remainingNext queued
      remaining : Nat}
    (rest : Queues limit commits ids queuedNext remainingNext queued
      remaining)
    (unchecked : commit.storageCheck = none)
    (decides : commit.outcome = some (targetId, outcome))
    (counts : outcome = .left ∧ limit ≤ queuedBefore ∧
        queuedNext = queuedBefore ∧ remainingNext = remainingBefore + 1 ∨
      (∃ tasks, outcome = .queued tasks) ∧ queuedBefore < limit ∧
        queuedNext = queuedBefore + 1 ∧ remainingNext = remainingBefore ∨
      outcome = .lost ∧ queuedBefore < limit ∧ queuedNext = queuedBefore ∧
        remainingNext = remainingBefore) :
    Queues limit (commit :: commits) (targetId :: ids) queuedBefore
      remainingBefore queued remaining := by
  have queuedIds := @idsOf_cons_of_some commit commits targetId outcome
    Outcome.isQueued decides
  have leftIds := @idsOf_cons_of_some commit commits targetId outcome
    Outcome.isLeft decides
  have first := @outcomes_cons_of_some commit commits _ decides
  have once : (outcomes (commit :: commits)).map Prod.fst =
      targetId :: ids := by
    rw [first, List.map_cons, rest.once]
  have unchecked : storageChecks (commit :: commits) = [] := by
    rw [storageChecks_cons_of_none unchecked, rest.unchecked]
  have unblocked : ∀ targetId reason,
      (targetId, .blocked reason) ∉ outcomes (commit :: commits) := by
    intro blockedId reason member
    rw [first, List.mem_cons] at member
    rcases member with isFirst | isLater
    · cases isFirst
      rcases counts with ⟨other, _⟩ | ⟨⟨_, other⟩, _⟩ | ⟨other, _⟩ <;>
        cases other
    · exact rest.unblocked _ _ isLater
  rcases counts with ⟨rfl, atLimit, rfl, rfl⟩ |
    ⟨⟨tasks, rfl⟩, belowLimit, rfl, rfl⟩ | ⟨rfl, belowLimit, rfl, rfl⟩
  · -- from the limit on, everything is left
    have nothing := rest.full atLimit
    have ordered := rest.ordered
    rw [nothing, List.nil_append] at ordered
    have isQueued := rest.isQueued
    have isRemaining := rest.isRemaining
    simp only [Outcome.isQueued, Outcome.isLeft, nothing, if_true,
      if_false, Bool.false_eq_true] at queuedIds leftIds
    constructor
    · exact once
    · exact unchecked
    · exact unblocked
    · rw [queuedIds, leftIds, List.nil_append]
      exact ordered.cons_cons targetId
    · rw [queuedIds, isQueued, nothing]
    · rw [leftIds, List.length_cons]
      omega
    · exact rest.limited
    · exact fun _ => queuedIds
    · intro _
      rw [isQueued]
      omega
  · have isQueued := rest.isQueued
    have isRemaining := rest.isRemaining
    simp only [Outcome.isQueued, Outcome.isLeft, if_true,
      if_false, Bool.false_eq_true] at queuedIds leftIds
    constructor
    · exact once
    · exact unchecked
    · exact unblocked
    · rw [queuedIds, leftIds, List.cons_append]
      exact rest.ordered.cons_cons targetId
    · rw [queuedIds, List.length_cons]
      omega
    · rw [leftIds]
      exact isRemaining
    · exact fun _ => rest.limited belowLimit
    · exact fun atLimit => absurd belowLimit (Nat.not_lt.mpr atLimit)
    · rw [leftIds]
      exact rest.reached
  · simp only [Outcome.isQueued, Outcome.isLeft,
      if_false, Bool.false_eq_true] at queuedIds leftIds
    constructor
    · exact once
    · exact unchecked
    · exact unblocked
    · rw [queuedIds, leftIds]
      exact rest.ordered.cons targetId
    · rw [queuedIds]
      exact rest.isQueued
    · rw [leftIds]
      exact rest.isRemaining
    · exact rest.limited
    · exact fun atLimit => absurd belowLimit (Nat.not_lt.mpr atLimit)
    · rw [leftIds]
      exact rest.reached

/-- The second loop, from any of its rounds on. -/
theorem queues_of_phase
    {run final : DownloadRun} {commits : List Commit} {ids : List Nat}
    {queuedBefore remainingBefore queued blocked : Nat}
    {stats : Json.Fields} (phase : Phase run commits final)
    (isStage : run.stage = .queueing ids queuedBefore remainingBefore)
    (returns : final.stage = .counted queued blocked stats) :
    ∃ remaining downloaded failed,
      stats = syncStats queued remaining downloaded failed blocked ∧
        Queues run.targetLimit commits ids queuedBefore remainingBefore
          queued remaining := by
  induction phase generalizing ids queuedBefore remainingBefore with
  | here run =>
      rw [isStage] at returns
      cases returns
  | commit commit goesOn induction =>
      have advances := commit.advances
      have unchecked : commit.storageCheck = none := by
        simp only [Commit.storageCheck, isStage]
      generalize isNext : commit.next = next at advances goesOn induction
      generalize isAfter : commit.after = after at advances
      cases advances with
      | selected isOther | checkedAll isOther | blocked isOther
      | usable isOther =>
          rw [isOther] at isStage
          cases isStage
      | counted isOther =>
          rw [isOther] at isStage
          cases isStage
          rcases commits_of_counted goesOn rfl with ⟨rfl, rfl⟩
          cases returns
          have undecided : commit.outcome = none := by
            simp only [Commit.outcome, isOther]
          exact ⟨_, _, _, rfl, queues_nil_of_none _ _ _ undecided
            unchecked⟩
      | left isOther atLimit =>
          rcases induction rfl returns with ⟨remaining, _, _, isStats, rest⟩
          rw [isOther] at isStage
          cases isStage
          exact ⟨remaining, _, _, isStats, rest.cons unchecked
            (Commit.outcome_left isOther atLimit)
            (Or.inl ⟨rfl, atLimit, rfl, rfl⟩)⟩
      | queued isOther belowLimit found isPending =>
          rcases induction rfl returns with ⟨remaining, _, _, isStats, rest⟩
          rw [isOther] at isStage
          cases isStage
          exact ⟨remaining, _, _, isStats, rest.cons unchecked
            (Commit.outcome_queued isOther belowLimit found isPending)
            (Or.inr (Or.inl ⟨⟨_, rfl⟩, belowLimit, rfl, rfl⟩))⟩
      | lost isOther belowLimit found notPending =>
          rcases induction rfl returns with ⟨remaining, _, _, isStats, rest⟩
          rw [isOther] at isStage
          cases isStage
          exact ⟨remaining, _, _, isStats, rest.cons unchecked
            (Commit.outcome_lost isOther belowLimit found notPending)
            (Or.inr (Or.inr ⟨rfl, belowLimit, rfl, rfl⟩))⟩

/-! ## The loop over the candidates -/

/-- The result for a Storage is in the cache or comes from a later check. -/
def Known (cache : List (Nat × Option String)) (commits : List Commit)
    (storageId : Nat) (result : Option String) : Prop :=
  cache.lookup storageId = some result ∨
    (storageId, result) ∈ storageChecks commits

/-- No Storage is checked again. -/
structure ChecksOnce (cache : List (Nat × Option String))
    (commits : List Commit) : Prop where
  distinct : ((storageChecks commits).map Prod.fst).Nodup
  uncached : ∀ entry ∈ storageChecks commits, cache.lookup entry.1 = none

section Cache

variable {commit : Commit} {candidate : DownloadCandidate}
  {candidates : List DownloadCandidate} {cache : List (Nat × Option String)}
  {ids : List Nat} {result : Option String}

/-- A Storage is checked if the cache does not know it. -/
theorem Commit.storageCheck_cases
    (isStage : commit.run.stage = .checking (candidate :: candidates) cache
      ids)
    (isResult : unusable candidate cache commit.answer = result) :
    commit.storageCheck = none ∧
        cache.lookup candidate.assignment.storageId = some result ∨
      commit.storageCheck =
          some (candidate.assignment.storageId, result) ∧
        cache.lookup candidate.assignment.storageId = none := by
  simp only [Commit.storageCheck, isStage]
  rw [unusable] at isResult
  cases cached :
      cache.lookup candidate.assignment.storageId with
  | none =>
      right
      rw [cached] at isResult
      simpa using isResult
  | some other =>
      left
      rw [cached] at isResult
      simpa using isResult

variable {commits : List Commit}
  (isStage : commit.run.stage = .checking (candidate :: candidates) cache
    ids)
  (isResult : unusable candidate cache commit.answer = result)

include isStage isResult

theorem known_cons :
    Known cache (commit :: commits) candidate.assignment.storageId
      result := by
  rcases Commit.storageCheck_cases isStage isResult with
    ⟨unchecked, cached⟩ | ⟨checked, missing⟩
  · exact Or.inl cached
  · right
    rw [storageChecks_cons_of_some checked]
    exact List.mem_cons_self

theorem known_of_known
    {storageId : Nat} {other : Option String}
    (known : Known ((candidate.assignment.storageId, result) :: cache)
      commits storageId other) :
    Known cache (commit :: commits) storageId other := by
  rcases known with cached | checked
  · rw [List.lookup_cons] at cached
    split at cached
    · next same =>
        cases cached
        rw [eq_of_beq same]
        exact known_cons isStage isResult
    · exact Or.inl cached
  · right
    rcases Commit.storageCheck_cases isStage isResult with
      ⟨unchecked, _⟩ | ⟨isChecked, _⟩
    · rwa [storageChecks_cons_of_none unchecked]
    · rw [storageChecks_cons_of_some isChecked]
      exact List.mem_cons_of_mem _ checked

theorem ChecksOnce.cons
    (rest : ChecksOnce ((candidate.assignment.storageId, result) :: cache)
      commits) :
    ChecksOnce cache (commit :: commits) := by
  have uncached : ∀ entry ∈ storageChecks commits,
      entry.1 ≠ candidate.assignment.storageId ∧
        cache.lookup entry.1 = none := by
    intro entry member
    have missing := rest.uncached entry member
    rw [List.lookup_cons] at missing
    split at missing
    · cases missing
    · next differs =>
        exact ⟨by simpa using differs, missing⟩
  rcases Commit.storageCheck_cases isStage isResult with
    ⟨unchecked, _⟩ | ⟨checked, missing⟩
  · constructor
    · rw [storageChecks_cons_of_none unchecked]
      exact rest.distinct
    · rw [storageChecks_cons_of_none unchecked]
      exact fun entry member => (uncached entry member).2
  · constructor
    · rw [storageChecks_cons_of_some checked, List.map_cons,
        List.nodup_cons]
      apply And.intro _ rest.distinct
      intro member
      rcases List.mem_map.mp member with ⟨entry, isEntry, same⟩
      exact (uncached entry isEntry).1 same
    · rw [storageChecks_cons_of_some checked]
      intro entry member
      rcases List.mem_cons.mp member with rfl | later
      · exact missing
      · exact (uncached entry later).2

end Cache

/-- What the first loop makes of the candidates before it. -/
structure Checks (limit : Nat) (commits : List Commit)
    (candidates : List DownloadCandidate)
    (cache : List (Nat × Option String)) (eligibleIds : List Nat)
    (queued remaining : Nat) : Prop where
  once : ((outcomes commits).map Prod.fst).Perm
    (eligibleIds ++ candidates.map DownloadCandidate.targetId)
  ordered : (idsOf Outcome.isQueued commits ++
      idsOf Outcome.isLeft commits).Sublist
    (eligibleIds ++ candidates.map DownloadCandidate.targetId)
  isQueued : queued = (idsOf Outcome.isQueued commits).length
  isRemaining : remaining = (idsOf Outcome.isLeft commits).length
  limited : queued ≤ limit
  reached : idsOf Outcome.isLeft commits ≠ [] → limit ≤ queued
  unblocked : ∀ targetId ∈ eligibleIds, ∀ reason,
    (targetId, .blocked reason) ∉ outcomes commits
  blocked : ∀ candidate ∈ candidates, ∃ result,
    Known cache commits candidate.assignment.storageId result ∧
      ∀ reason, (candidate.targetId, .blocked reason) ∈ outcomes commits ↔
        result = some reason
  checksOnce : ChecksOnce cache commits

section Rounds

variable {limit : Nat} {commit : Commit} {commits : List Commit}
  {candidate : DownloadCandidate} {rest : List DownloadCandidate}
  {cache : List (Nat × Option String)} {eligibleIds : List Nat}
  {queued remaining : Nat}

theorem not_mem_of_distinct
    (distinct : (eligibleIds ++ (candidate :: rest).map
      DownloadCandidate.targetId).Nodup) :
    candidate.targetId ∉
      eligibleIds ++ rest.map DownloadCandidate.targetId := by
  rw [List.map_cons, List.nodup_middle, List.nodup_cons] at distinct
  exact distinct.1

/-- A round of the first loop which blocks its candidate. -/
theorem Checks.cons_blocked {reason : String}
    (later : Checks limit commits rest
      ((candidate.assignment.storageId, some reason) :: cache) eligibleIds
      queued remaining)
    (distinct : (eligibleIds ++ (candidate :: rest).map
      DownloadCandidate.targetId).Nodup)
    (isStage : commit.run.stage = .checking (candidate :: rest) cache
      eligibleIds)
    (isUnusable : unusable candidate cache commit.answer = some reason) :
    Checks limit (commit :: commits) (candidate :: rest) cache eligibleIds
      queued remaining := by
  have decides := Commit.outcome_blocked isStage isUnusable
  have queuedIds := @idsOf_cons_of_some commit commits _ _
    Outcome.isQueued decides
  have leftIds := @idsOf_cons_of_some commit commits _ _
    Outcome.isLeft decides
  simp only [Outcome.isQueued, Outcome.isLeft, if_false,
    Bool.false_eq_true] at queuedIds leftIds
  have first := @outcomes_cons_of_some commit commits _ decides
  have outside := not_mem_of_distinct distinct
  have elsewhere : ∀ outcome,
      (candidate.targetId, outcome) ∉ outcomes commits := by
    intro outcome member
    exact outside (later.once.mem_iff.mp (List.mem_map_of_mem member))
  constructor
  · rw [first, List.map_cons, List.map_cons]
    exact (later.once.cons _).trans List.perm_middle.symm
  · rw [queuedIds, leftIds, List.map_cons]
    exact later.ordered.trans
      ((List.Sublist.refl eligibleIds).append (List.sublist_cons_self _ _))
  · rw [queuedIds]
    exact later.isQueued
  · rw [leftIds]
    exact later.isRemaining
  · exact later.limited
  · rw [leftIds]
    exact later.reached
  · intro targetId member other isOutcome
    rw [first, List.mem_cons] at isOutcome
    rcases isOutcome with isFirst | isLater
    · cases isFirst
      exact outside (List.mem_append_left _ member)
    · exact later.unblocked targetId member other isLater
  · intro other member
    rcases List.mem_cons.mp member with rfl | inRest
    · apply Exists.intro (some reason)
      apply And.intro (known_cons isStage isUnusable)
      intro found
      rw [first, List.mem_cons]
      constructor
      · rintro (isFirst | isLater)
        · cases isFirst
          rfl
        · exact absurd isLater (elsewhere _)
      · intro same
        cases same
        exact Or.inl rfl
    · rcases later.blocked other inRest with ⟨result, known, decided⟩
      apply Exists.intro result
      apply And.intro (known_of_known isStage isUnusable known)
      intro found
      rw [← decided found, first, List.mem_cons]
      constructor
      · rintro (isFirst | isLater)
        · rw [Prod.mk.injEq] at isFirst
          rw [← isFirst.1] at outside
          exact absurd (List.mem_append_right _
            (List.mem_map_of_mem inRest)) outside
        · exact isLater
      · exact Or.inr
  · exact later.checksOnce.cons isStage isUnusable

/-- A round of the first loop whose candidate is eligible. -/
theorem Checks.cons_usable
    (later : Checks limit commits rest
      ((candidate.assignment.storageId, none) :: cache)
      (eligibleIds ++ [candidate.targetId]) queued remaining)
    (isStage : commit.run.stage = .checking (candidate :: rest) cache
      eligibleIds)
    (isUsable : unusable candidate cache commit.answer = none) :
    Checks limit (commit :: commits) (candidate :: rest) cache eligibleIds
      queued remaining := by
  have undecided := Commit.outcome_usable isStage isUsable
  have queuedIds := @idsOf_cons_of_none commit commits Outcome.isQueued
    undecided
  have leftIds := @idsOf_cons_of_none commit commits Outcome.isLeft
    undecided
  have same := @outcomes_cons_of_none commit commits undecided
  have ahead : eligibleIds ++ [candidate.targetId] ++
        rest.map DownloadCandidate.targetId =
      eligibleIds ++ (candidate :: rest).map
        DownloadCandidate.targetId := by
    rw [List.append_assoc, List.singleton_append, List.map_cons]
  constructor
  · rw [same, ← ahead]
    exact later.once
  · rw [queuedIds, leftIds, ← ahead]
    exact later.ordered
  · rw [queuedIds]
    exact later.isQueued
  · rw [leftIds]
    exact later.isRemaining
  · exact later.limited
  · rw [leftIds]
    exact later.reached
  · intro targetId member
    rw [same]
    exact later.unblocked targetId (List.mem_append_left _ member)
  · intro other member
    rw [same]
    rcases List.mem_cons.mp member with rfl | inRest
    · apply Exists.intro none
      apply And.intro (known_cons isStage isUsable)
      intro reason
      constructor
      · intro isBlocked
        exact absurd isBlocked (later.unblocked _
          (List.mem_append_right _ (List.mem_singleton_self _)) reason)
      · intro impossible
        cases impossible
    · rcases later.blocked other inRest with ⟨result, known, decided⟩
      exact ⟨result, known_of_known isStage isUsable known, decided⟩
  · exact later.checksOnce.cons isStage isUsable

/-- Between the loops. -/
theorem checks_of_queues
    (later : Queues limit commits eligibleIds 0 0 queued remaining)
    (undecided : commit.outcome = none)
    (unchecked : commit.storageCheck = none) :
    Checks limit (commit :: commits) [] cache eligibleIds queued
      remaining := by
  have queuedIds := @idsOf_cons_of_none commit commits Outcome.isQueued
    undecided
  have leftIds := @idsOf_cons_of_none commit commits Outcome.isLeft
    undecided
  have same := @outcomes_cons_of_none commit commits undecided
  have noChecks := @storageChecks_cons_of_none commit commits unchecked
  constructor
  · rw [same, later.once, List.map_nil, List.append_nil]
  · rw [queuedIds, leftIds, List.map_nil, List.append_nil]
    exact later.ordered
  · rw [queuedIds, later.isQueued, Nat.zero_add]
  · rw [leftIds, later.isRemaining, Nat.zero_add]
  · exact later.limited (Nat.zero_le limit)
  · rw [leftIds]
    exact later.reached
  · intro targetId _ reason
    rw [same]
    exact later.unblocked targetId reason
  · intro candidate member
    cases member
  · constructor
    · rw [noChecks, later.unchecked]
      exact List.nodup_nil
    · rw [noChecks, later.unchecked]
      intro entry member
      cases member

end Rounds

/-- The first loop and the second, from any round of the first on. -/
theorem checks_of_phase
    {run final : DownloadRun} {commits : List Commit}
    {candidates : List DownloadCandidate}
    {cache : List (Nat × Option String)} {eligibleIds : List Nat}
    {queued blocked : Nat} {stats : Json.Fields}
    (phase : Phase run commits final)
    (isStage : run.stage = .checking candidates cache eligibleIds)
    (distinct : (eligibleIds ++
      candidates.map DownloadCandidate.targetId).Nodup)
    (returns : final.stage = .counted queued blocked stats) :
    ∃ remaining downloaded failed,
      stats = syncStats queued remaining downloaded failed blocked ∧
        Checks run.targetLimit commits candidates cache eligibleIds queued
          remaining := by
  induction phase generalizing candidates cache eligibleIds with
  | here run =>
      rw [isStage] at returns
      cases returns
  | commit commit goesOn induction =>
      have advances := commit.advances
      generalize isNext : commit.next = next at advances goesOn induction
      generalize isAfter : commit.after = after at advances
      cases advances with
      | selected isOther | left isOther | queued isOther | lost isOther
      | counted isOther =>
          rw [isOther] at isStage
          cases isStage
      | checkedAll isOther =>
          rw [isOther] at isStage
          cases isStage
          rcases queues_of_phase goesOn rfl returns with
            ⟨remaining, _, _, isStats, later⟩
          apply Exists.intro remaining
          refine ⟨_, _, isStats, checks_of_queues later ?_ ?_⟩
          · simp only [Commit.outcome, isOther]
          · simp only [Commit.storageCheck, isOther]
      | blocked isOther isUnusable found asRead =>
          rw [isOther] at isStage
          cases isStage
          have fewer := distinct
          rw [List.map_cons, List.nodup_middle, List.nodup_cons] at fewer
          rcases induction rfl fewer.2 returns with
            ⟨remaining, _, _, isStats, later⟩
          exact ⟨remaining, _, _, isStats,
            later.cons_blocked distinct isOther isUnusable⟩
      | usable isOther isUsable reopens =>
          rw [isOther] at isStage
          cases isStage
          have same := distinct
          rw [List.map_cons, ← List.singleton_append,
            ← List.append_assoc] at same
          rcases induction rfl same returns with
            ⟨remaining, _, _, isStats, later⟩
          exact ⟨remaining, _, _, isStats,
            later.cons_usable isOther isUsable⟩

/-! ## The status in which a candidate is left -/

theorem statusOf_modify
    (db : Database) (task : Table TaskRow) (changed : Nat)
    (change : TargetRow → TargetRow) {targetId : Nat}
    (other : targetId ≠ changed) :
    statusOf { db with
      target := db.target.modify changed change, task } targetId =
      statusOf db targetId := by
  rw [statusOf, statusOf, Table.get_modify_of_ne _ _ other]

/-- A commit leaves the Targets alone which are not ahead of it. -/
theorem Commit.statusOf_other
    (commit : Commit) {targetId : Nat}
    (outside : targetId ∉ commit.run.ahead) :
    statusOf commit.after targetId = statusOf commit.before targetId := by
  have advances := commit.advances
  generalize isNext : commit.next = next at advances
  generalize isAfter : commit.after = after at advances
  cases advances with
  | selected | checkedAll | left | lost | counted => rfl
  | blocked isStage isUnusable found asRead =>
      simp only [ahead, isStage, List.map_cons, List.mem_append,
        List.mem_cons, not_or] at outside
      exact statusOf_modify _ _ _ _ outside.2.1
  | usable isStage isUsable reopens =>
      simp only [ahead, isStage, List.map_cons, List.mem_append,
        List.mem_cons, not_or] at outside
      cases reopens with
      | unchanged => rfl
      | reopened => exact statusOf_modify _ _ _ _ outside.2.1
  | queued isStage belowLimit found isPending =>
      simp only [ahead, isStage, List.mem_cons, not_or] at outside
      exact statusOf_modify _ _ _ _ outside.1

/-- What is ahead after a commit was ahead before it. -/
theorem Commit.ahead_next
    (commit : Commit) (started : commit.run.stage ≠ .started) :
    commit.next.ahead.Sublist commit.run.ahead := by
  have advances := commit.advances
  generalize isNext : commit.next = next at advances
  generalize isAfter : commit.after = after at advances
  cases advances with
  | selected isStage => exact absurd isStage started
  | checkedAll isStage =>
      simp only [ahead, isStage, List.map_nil, List.append_nil]
      exact List.Sublist.refl _
  | blocked isStage =>
      simp only [ahead, isStage, List.map_cons]
      exact (List.Sublist.refl _).append (List.sublist_cons_self _ _)
  | usable isStage =>
      simp only [ahead, isStage, List.map_cons, List.append_assoc,
        List.singleton_append]
      exact List.Sublist.refl _
  | left isStage | queued isStage | lost isStage =>
      simp only [ahead, isStage]
      exact List.sublist_cons_self _ _
  | counted isStage => exact List.nil_sublist _

theorem Commit.next_started (commit : Commit) :
    commit.next.stage ≠ .started := by
  have advances := commit.advances
  generalize isNext : commit.next = next at advances
  generalize isAfter : commit.after = after at advances
  cases advances <;> exact DownloadStage.noConfusion

/-- The database when a call returns. -/
def finalDatabase (first : Commit) (later : List Commit) : Database :=
  ((first :: later).getLast (List.cons_ne_nil _ _)).after

theorem finalDatabase_cons (first second : Commit) (later : List Commit) :
    finalDatabase first (second :: later) = finalDatabase second later := by
  rw [finalDatabase, finalDatabase, List.getLast_cons_cons]

theorem phase_nil {run final : DownloadRun} (phase : Phase run [] final) :
    final = run := by
  cases phase
  rfl

theorem phase_cons
    {run final : DownloadRun} {first : Commit} {later : List Commit}
    (phase : Phase run (first :: later) final) :
    first.run = run ∧ Phase first.next later final := by
  cases phase with
  | commit _ goesOn => exact ⟨rfl, goesOn⟩

theorem phase_next
    {run final : DownloadRun} {first second : Commit} {later : List Commit}
    (phase : Phase run (first :: second :: later) final) :
    second.run = first.next ∧
      Phase second.run (second :: later) final := by
  have goesOn := (phase_cons phase).2
  have isNext := (phase_cons goesOn).1
  rw [← isNext] at goesOn
  exact ⟨isNext, goesOn⟩

/-- A Target on which the call has decided stays as it is. -/
theorem final_of_decided
    {final : DownloadRun} {targetId : Nat} (later : List Commit)
    {first : Commit} (phase : Phase first.run (first :: later) final)
    (started : first.run.stage ≠ .started)
    (outside : targetId ∉ first.run.ahead)
    (undisturbed : Undisturbed targetId (first :: later)) :
    statusOf (finalDatabase first later) targetId =
      statusOf first.before targetId := by
  induction later generalizing first with
  | nil => exact first.statusOf_other outside
  | cons second later induction =>
      rcases phase_next phase with ⟨isNext, goesOn⟩
      rw [Undisturbed, List.isChain_cons_cons] at undisturbed
      have started' : second.run.stage ≠ .started := by
        rw [isNext]
        exact first.next_started
      have outside' : targetId ∉ second.run.ahead := by
        rw [isNext]
        exact fun member =>
          outside ((first.ahead_next started).subset member)
      rw [finalDatabase_cons, induction goesOn started' outside'
        undisturbed.2, undisturbed.1, first.statusOf_other outside]

/-- The call has the Target before it, with the status it has left it in. -/
def Awaits (run : DownloadRun) (targetId : Nat) (status : TargetStatus) :
    Prop :=
  match run.stage with
  | .checking candidates _ eligibleIds =>
      targetId ∈ eligibleIds ∧ status = .pending ∨
        ∃ candidate ∈ candidates, candidate.targetId = targetId ∧
          status = candidate.target.status ∧
          (status = .pending ∨ status = .failed ∨ status = .blocked)
  | .queueing eligibleIds _ _ =>
      targetId ∈ eligibleIds ∧ status = .pending
  | _ => False

theorem statusOf_modify_self
    {db : Database} (task : Table TaskRow) {targetId : Nat}
    {row : TargetRow} (change : TargetRow → TargetRow)
    (found : db.target.get targetId = some row) :
    statusOf { db with
      target := db.target.modify targetId change, task } targetId =
      some (change row).status := by
  rw [statusOf, Table.get_modify_self, found]
  rfl

theorem ne_of_distinct
    {candidate : DownloadCandidate} {rest : List DownloadCandidate}
    {eligibleIds : List Nat} {targetId : Nat}
    (distinct : (eligibleIds ++ (candidate :: rest).map
      DownloadCandidate.targetId).Nodup)
    (member : targetId ∈
      eligibleIds ++ rest.map DownloadCandidate.targetId) :
    targetId ≠ candidate.targetId := by
  rintro rfl
  exact not_mem_of_distinct distinct member

/-- A commit decides on an awaited Target, or it is still awaited. -/
theorem Commit.awaits_or_decides
    (commit : Commit) {targetId : Nat} {status : TargetStatus}
    (distinct : commit.run.ahead.Nodup)
    (awaits : Awaits commit.run targetId status)
    (current : statusOf commit.before targetId = some status) :
    (∃ left, Awaits commit.next targetId left ∧
        statusOf commit.after targetId = some left) ∨
      targetId ∉ commit.next.ahead ∧ ∃ outcome left,
        commit.outcome = some (targetId, outcome) ∧
          outcome.status = some left ∧
          statusOf commit.after targetId = some left := by
  have advances := commit.advances
  generalize isNext : commit.next = next at advances
  generalize isAfter : commit.after = after at advances
  cases advances with
  | selected isStage | counted isStage =>
      simp only [Awaits, isStage, List.not_mem_nil, false_and] at awaits
  | checkedAll isStage =>
      simp only [Awaits, isStage, List.not_mem_nil, false_and,
        exists_false, or_false] at awaits
      exact Or.inl ⟨status, awaits, current⟩
  | blocked isStage isUnusable found asRead =>
      simp only [ahead, isStage] at distinct
      simp only [Awaits, isStage] at awaits
      rcases awaits with ⟨eligible, isPending⟩ |
        ⟨candidate, member, rfl, isRead, isOpen⟩
      · left
        apply Exists.intro status
        apply And.intro (Or.inl ⟨eligible, isPending⟩)
        rw [statusOf_modify _ _ _ _ (ne_of_distinct distinct
          (List.mem_append_left _ eligible))]
        exact current
      · rcases List.mem_cons.mp member with rfl | inRest
        · right
          apply And.intro (not_mem_of_distinct distinct)
          exact ⟨_, .blocked, outcome_blocked isStage isUnusable, rfl,
            statusOf_modify_self _ _ found⟩
        · left
          apply Exists.intro status
          apply And.intro
          · exact Or.inr ⟨candidate, inRest, rfl, isRead, isOpen⟩
          · rw [statusOf_modify _ _ _ _ (ne_of_distinct distinct
              (List.mem_append_right _ (List.mem_map_of_mem inRest)))]
            exact current
  | @usable selected _ _ _ target isStage isUsable reopens =>
      simp only [ahead, isStage] at distinct
      simp only [Awaits, isStage] at awaits
      have others : ∀ {other : Nat}, other ≠ selected.targetId →
          statusOf { commit.before with target } other =
            statusOf commit.before other := by
        intro other differs
        cases reopens with
        | unchanged => rfl
        | reopened => exact statusOf_modify _ _ _ _ differs
      left
      rcases awaits with ⟨eligible, isPending⟩ |
        ⟨candidate, member, rfl, isRead, isOpen⟩
      · apply Exists.intro status
        apply And.intro
        · exact Or.inl ⟨List.mem_append_left _ eligible, isPending⟩
        · rw [others (ne_of_distinct distinct
            (List.mem_append_left _ eligible))]
          exact current
      · rcases List.mem_cons.mp member with rfl | inRest
        · apply Exists.intro .pending
          apply And.intro
          · exact Or.inl ⟨List.mem_append_right _
              (List.mem_singleton_self _), rfl⟩
          · cases reopens with
            | unchanged notReopened =>
                rw [← isRead, not_or] at notReopened
                rcases isOpen with rfl | isFailed | isBlocked
                · exact current
                · exact absurd isFailed notReopened.1
                · exact absurd isBlocked notReopened.2
            | reopened found asRead => exact statusOf_modify_self _ _ found
        · apply Exists.intro status
          apply And.intro
          · exact Or.inr ⟨candidate, inRest, rfl, isRead, isOpen⟩
          · rw [others (ne_of_distinct distinct
              (List.mem_append_right _ (List.mem_map_of_mem inRest)))]
            exact current
  | left isStage atLimit =>
      simp only [ahead, isStage, List.nodup_cons] at distinct
      simp only [Awaits, isStage, List.mem_cons] at awaits
      rcases awaits with ⟨rfl | inRest, rfl⟩
      · right
        exact ⟨distinct.1, _, _, outcome_left isStage atLimit, rfl, current⟩
      · left
        exact ⟨.pending, ⟨inRest, rfl⟩, current⟩
  | queued isStage belowLimit found isPending =>
      simp only [ahead, isStage, List.nodup_cons] at distinct
      simp only [Awaits, isStage, List.mem_cons] at awaits
      rcases awaits with ⟨rfl | inRest, rfl⟩
      · right
        exact ⟨distinct.1, _, _,
          outcome_queued isStage belowLimit found isPending, rfl,
          statusOf_modify_self _ _ found⟩
      · left
        apply Exists.intro .pending
        apply And.intro ⟨inRest, rfl⟩
        rw [statusOf_modify _ _ _ _ (ne_of_mem_of_not_mem inRest
          distinct.1)]
        exact current
  | lost isStage belowLimit found notPending =>
      simp only [ahead, isStage, List.nodup_cons] at distinct
      simp only [Awaits, isStage, List.mem_cons] at awaits
      rcases awaits with ⟨rfl | inRest, rfl⟩
      · rw [statusOf_of_get found] at current
        exact absurd (Option.some.inj current) notPending
      · left
        exact ⟨.pending, ⟨inRest, rfl⟩, current⟩

theorem awaits_started
    {run : DownloadRun} {targetId : Nat} {status : TargetStatus}
    (awaits : Awaits run targetId status) : run.stage ≠ .started := by
  intro isStage
  simp only [Awaits, isStage] at awaits

/-- An awaited Target ends with the status of its outcome. -/
theorem final_of_awaits
    {final : DownloadRun} {targetId : Nat} {queued blocked : Nat}
    {stats : Json.Fields} (later : List Commit)
    {first : Commit} {status : TargetStatus}
    (phase : Phase first.run (first :: later) final)
    (returns : final.stage = .counted queued blocked stats)
    (distinct : first.run.ahead.Nodup)
    (awaits : Awaits first.run targetId status)
    (current : statusOf first.before targetId = some status)
    (undisturbed : Undisturbed targetId (first :: later)) :
    ∃ outcome left, (targetId, outcome) ∈ outcomes (first :: later) ∧
      outcome.status = some left ∧
      statusOf (finalDatabase first later) targetId = some left := by
  induction later generalizing first status with
  | nil =>
      rcases first.awaits_or_decides distinct awaits current with
        ⟨left, awaits', _⟩ | ⟨_, outcome, left, decides, isStatus, found⟩
      · rw [← phase_nil (phase_cons phase).2] at awaits'
        simp only [Awaits, returns] at awaits'
      · refine ⟨outcome, left, ?_, isStatus, found⟩
        rw [outcomes_cons_of_some decides]
        exact List.mem_cons_self
  | cons second later induction =>
      have started := awaits_started awaits
      rcases phase_next phase with ⟨isNext, goesOn⟩
      rw [Undisturbed, List.isChain_cons_cons] at undisturbed
      rw [finalDatabase_cons]
      rcases first.awaits_or_decides distinct awaits current with
        ⟨left, awaits', found⟩ |
        ⟨outside, outcome, left, decides, isStatus, found⟩
      · rw [← isNext] at awaits'
        rw [← undisturbed.1] at found
        have distinct' : second.run.ahead.Nodup := by
          rw [isNext]
          exact distinct.sublist (first.ahead_next started)
        rcases induction goesOn distinct' awaits' found undisturbed.2 with
          ⟨outcome, left, decided, isStatus, final⟩
        refine ⟨outcome, left, ?_, isStatus, final⟩
        cases isOutcome : first.outcome with
        | none => rwa [outcomes_cons_of_none isOutcome]
        | some entry =>
            rw [outcomes_cons_of_some isOutcome]
            exact List.mem_cons_of_mem _ decided
      · have started' : second.run.stage ≠ .started := by
          rw [isNext]
          exact first.next_started
        rw [← isNext] at outside
        refine ⟨outcome, left, ?_, isStatus, ?_⟩
        · rw [outcomes_cons_of_some decides]
          exact List.mem_cons_self
        · rw [final_of_decided later goesOn started' outside undisturbed.2,
            undisturbed.1]
          exact found

/-! ## The call -/

theorem isOpen_of_isDownloadable
    {retryLimit : Nat} {target : TargetRow}
    (downloadable : isDownloadable retryLimit target = true) :
    target.status = .pending ∨ target.status = .failed ∨
      target.status = .blocked := by
  cases isStatus : target.status <;>
    simp [isDownloadable, isStatus] at downloadable ⊢

/-- The selection awaits the Targets which it has read. -/
theorem awaits_of_mem
    {run : DownloadRun} {db : Database} {playlistId retryLimit : Nat}
    {candidate : DownloadCandidate}
    (isStage : run.stage = .checking
      (listDownloadCandidates db playlistId retryLimit) [] [])
    (member : candidate ∈
      listDownloadCandidates db playlistId retryLimit) :
    Awaits run candidate.targetId candidate.target.status ∧
      statusOf db candidate.targetId = some candidate.target.status := by
  rcases (mem_listDownloadCandidates_iff _ _ _ _).mp member with
    ⟨targetId, target, found, isCandidate⟩
  rcases downloadCandidate_eq_some_iff.mp isCandidate with
    ⟨rfl, rfl, _, _, _, _, _, _, _, downloadable⟩
  constructor
  · simp only [Awaits, isStage]
    exact Or.inr ⟨candidate, member, rfl, rfl,
      isOpen_of_isDownloadable downloadable⟩
  · exact statusOf_of_get found

/-- A call selects its candidates with its first commit. -/
theorem Commit.selects
    (commit : Commit) (starts : commit.run.stage = .started) :
    commit.after = commit.before ∧
      commit.next.targetLimit = commit.run.targetLimit ∧
      commit.next.stage = .checking (listDownloadCandidates commit.before
        commit.run.playlistId commit.run.retryLimit) [] [] := by
  have advances := commit.advances
  generalize isNext : commit.next = next at advances
  generalize isAfter : commit.after = after at advances
  cases advances with
  | selected => exact ⟨rfl, rfl, rfl⟩
  | checkedAll isStage | blocked isStage | usable isStage | left isStage
  | queued isStage | lost isStage | counted isStage =>
      rw [isStage] at starts
      cases starts

/-- `queue_download_phase` loses no candidate and counts none twice. -/
theorem queue_download_phase_conserves
    {first : Commit} {later : List Commit} {final : DownloadRun}
    {queued blocked : Nat} {stats : Json.Fields}
    (starts : first.run.stage = .started)
    (phase : Phase first.run (first :: later) final)
    (returns : final.stage = .counted queued blocked stats) :
    Conserves first.run.targetLimit
      (listDownloadCandidates first.before first.run.playlistId
        first.run.retryLimit)
      first later queued stats := by
  rcases first.selects starts with ⟨isSame, isLimit, isStage⟩
  have distinct := distinct_listDownloadCandidates first.before
    first.run.playlistId first.run.retryLimit
  have goesOn := (phase_cons phase).2
  rcases checks_of_phase goesOn isStage distinct returns with
    ⟨remaining, downloaded, failed, isStats, checks⟩
  rw [isLimit] at checks
  have undecided : first.outcome = none := by
    simp only [Commit.outcome, starts]
  have unchecked : first.storageCheck = none := by
    simp only [Commit.storageCheck, starts]
  have same := @outcomes_cons_of_none first later undecided
  have queuedIds := @idsOf_cons_of_none first later Outcome.isQueued
    undecided
  have leftIds := @idsOf_cons_of_none first later Outcome.isLeft undecided
  have sameChecks := @storageChecks_cons_of_none first later unchecked
  have isQueued := checks.isQueued
  have isRemaining := checks.isRemaining
  have limited := checks.limited
  constructor
  · exact distinct
  · rw [same]
    exact checks.once
  · exact fun commit _ _ _ decides => commit.settles decides
  · exact fun commit _ noChain => commit.task_of_outcome noChain
  · rw [queuedIds, leftIds]
    exact checks.ordered
  · rw [queuedIds, ← isQueued]
    exact limited
  · intro some
    rw [leftIds] at some
    rw [queuedIds, ← isQueued]
    exact Nat.le_antisymm limited (checks.reached some)
  · rw [queuedIds]
    exact isQueued
  · rw [queuedIds, isStats, isQueued]
    rfl
  · rw [leftIds, isStats, isRemaining]
    rfl
  · intro candidate member
    rcases checks.blocked candidate member with
      ⟨result, cached | checked, decided⟩
    · cases cached
    · rw [same, sameChecks]
      exact ⟨result, checked, decided⟩
  · rw [sameChecks]
    exact checks.checksOnce.distinct
  · intro targetId outcome decided undisturbed
    rw [same] at decided
    have member := checks.once.mem_iff.mp (List.mem_map_of_mem decided)
    rcases List.mem_map.mp member with ⟨candidate, isCandidate, isTarget⟩
    have read := awaits_of_mem isStage isCandidate
    rw [isTarget] at read
    cases later with
    | nil =>
        rw [phase_nil goesOn, isStage] at returns
        cases returns
    | cons second rest =>
        rcases phase_next phase with ⟨isNext, goesOn'⟩
        rw [Undisturbed, List.isChain_cons_cons, isSame] at undisturbed
        rw [← isNext] at read isStage
        have current : statusOf second.before targetId =
            some candidate.target.status := by
          rw [undisturbed.1]
          exact read.2
        have distinct' : second.run.ahead.Nodup := by
          simp only [ahead, isStage, List.nil_append]
          exact distinct
        rcases final_of_awaits rest goesOn' returns distinct' read.1 current
            undisturbed.2 with ⟨other, status, isOther, isStatus, ends⟩
        have once : ((outcomes (second :: rest)).map Prod.fst).Nodup :=
          checks.once.nodup_iff.mpr distinct
        have sameOutcome : (targetId, other) = (targetId, outcome) :=
          List.inj_on_of_nodup_map once isOther decided rfl
        cases sameOutcome
        apply Exists.intro status
        apply And.intro isStatus
        rw [List.getLast_cons_cons]
        exact ends

/-- The commits of a call which nobody disturbs, with the run after them. -/
def commitsFrom (answer : Option String) (workId : String) (now : Time) :
    Nat → DownloadRun → Database → List Commit × DownloadRun
  | 0, run, _ => ([], run)
  | fuel + 1, run, before =>
      match proceeds : run.proceed before answer workId now with
      | .ok (some next, after) =>
          let later := commitsFrom answer workId now fuel next after
          (⟨run, before, answer, workId, now, next, after, proceeds⟩ ::
            later.1, later.2)
      | _ => ([], run)

theorem phase_commitsFrom
    (answer : Option String) (workId : String) (now : Time) (fuel : Nat)
    (run : DownloadRun) (before : Database) :
    Phase run (commitsFrom answer workId now fuel run before).1
      (commitsFrom answer workId now fuel run before).2 := by
  induction fuel generalizing run before with
  | zero => exact .here run
  | succ fuel induction =>
      rw [commitsFrom]
      split
      · next next after proceeds =>
          exact .commit ⟨run, before, answer, workId, now, next, after,
            proceeds⟩ (induction next after)
      · exact .here run

/-- One Storage is disabled, and two Targets are for the other. -/
def threeTargets : Database where
  storage := (Table.empty.insert
    { name := "NAS", kind := .remote, enabled := false }).insert
    { name := "Local", kind := .local }
  playlist := Table.empty.insert { name := "Music", folderName := "Music" }
  playlistProfile := (Table.empty.insert
    { playlistId := 1, profileId := 1, storageId := 1 }).insert
    { playlistId := 1, profileId := 2, storageId := 2 }
  item := (Table.empty.insert { playlistId := 1, sourceId := "a" }).insert
    { playlistId := 1, sourceId := "b" }
  target := ((Table.empty.insert
    { itemId := 1, playlistProfileId := 1 }).insert
    { itemId := 1, playlistProfileId := 2, status := .failed }).insert
    { itemId := 2, playlistProfileId := 2 }

/-- The call for them with a limit of one. -/
def limitedCall : List Commit × DownloadRun :=
  commitsFrom none "work" 9 8
    { playlistId := 1, runId := 1, targetLimit := 1, retryLimit := 5 }
    threeTargets

theorem queue_download_phase_conserves_threeTargets :
    Conserves 1 (listDownloadCandidates threeTargets 1 5)
      (limitedCall.1.head (by decide)) limitedCall.1.tail 1
      (syncStats 1 1 0 0 1) := by
  have phase := phase_commitsFrom none "work" 9 8
    { playlistId := 1, runId := 1, targetLimit := 1, retryLimit := 5 }
    threeTargets
  have returns : limitedCall.2.stage =
      .counted 1 1 (syncStats 1 1 0 0 1) := by rfl
  exact @queue_download_phase_conserves (limitedCall.1.head _)
    limitedCall.1.tail limitedCall.2 1 1 _ (by rfl) phase returns

end Sluicery.Core.DownloadRun
