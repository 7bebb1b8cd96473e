import Sluicery.Library.UniqueColumn
import Sluicery.System.TargetRows
import Sluicery.Tasks.Attempts

/-!
# Stopping the INDEX handler between its commits

`IndexHandler.run` commits the Artifact, every single transition of the
Target and the download time one after the other, and removes the staging
file at last.  Here each of these is a step of its own, and an execution can
end before any of them: by an exception, by the loss of its process, by a
shutdown.  What the task queue does in between, and how other parties reflect
the end of a task on the Target, is left open.
-/

namespace Sluicery.System.IndexCrash

open Sluicery.Library Sluicery.Library.Transition
open Sluicery.Db Sluicery.Db.TaskRepository
open Sluicery.Core Sluicery.Tasks Sluicery.Tasks.Handlers

/-! ## The commits of the handler -/

/-- An absolute path without symbolic links, by its components. -/
abbrev ResolvedPath := List String

/-- What `run` keeps of the payloads it has read. -/
structure Indexing where
  work : Work
  relativePath : String
  /-- `raw_source`. -/
  source : String

/-- Where an execution of the INDEX task stands. -/
inductive Stage where
  | claimed
  /-- The Artifact is committed. -/
  | inserted (indexing : Indexing)
  /-- `advance_target` has these transitions left. -/
  | advancing (indexing : Indexing) (remaining : List TargetStatus)
  | advanced (indexing : Indexing)
  /-- The download time is committed. -/
  | dated (indexing : Indexing)
  | indexed (indexing : Indexing) (stagingDeleted : Bool)
  /-- `run` has returned something else than success. -/
  | returned (result : TaskResult)
  | raised (message : String)

/-- `run` up to the commit of the Artifact. -/
def insertArtifact (db : Database) (taskId : Nat) (payload : Json.Fields)
    (parseDatetime : String → Option Time) (now : Time) : Stage × Database :=
  match intField payload "target_id", strField payload "work_id" with
  | some target, some workId =>
      let targetId := rowKey target
      match dependencyPayload db.task taskId with
      | .error message => (.raised message, db)
      | .ok previous =>
          match intField previous "storage_id",
              strField previous "relative_path",
              strField previous "file_path" with
          | some storage, some relativePath, some source =>
              let storageId := rowKey storage
              let created := ArtifactRepository.createSourceIfMissing
                db.artifact (indexedArtifact taskId targetId storageId
                  relativePath previous parseDatetime now)
              (.inserted
                { work := { targetId, workId, previous, storageId,
                            artifactId := created.1 }
                  relativePath
                  source },
                { db with artifact := created.2 })
          | _, _, _ =>
              (.returned { outcome := .failed,
                           message := some "publish結果が不足しています" },
                db)
  | _, _ =>
      (.returned { outcome := .failed,
                   message := some "index payloadが不正です" }, db)

/-- What `run` makes of an exception of `advance_target`. -/
def rejected : TransitionError → Stage
  | .conflict targetId => .raised (errorText (.conflict targetId))
  | _ =>
      .returned { outcome := .failed,
                  message := some "Targetをdownloadedへ遷移できません" }

/-- The transitions `advance_target` finds necessary. -/
def advancePlan (targets : Table TargetRow) (targetId : Nat) :
    Except TransitionError (List TargetStatus) :=
  match targets.get targetId with
  | none => .error (.notFound targetId)
  | some target =>
      if target.status = .downloaded then .ok []
      else if target.status = .failed ∨ target.status = .blocked then
        .ok (.pending :: advanceSteps .pending .downloaded)
      else if ¬ advanceOrder.contains target.status then
        .error (invalidAdvance target.status .downloaded)
      else .ok (advanceSteps target.status .downloaded)

/-- The stage with these transitions left. -/
def remainingStage (indexing : Indexing) : List TargetStatus → Stage
  | [] => .advanced indexing
  | next :: rest => .advancing indexing (next :: rest)

/-- The first part of `advance_target`, which only reads. -/
def startAdvance (db : Database) (indexing : Indexing) : Stage :=
  match advancePlan db.target indexing.work.targetId with
  | .error error => rejected error
  | .ok plan => remainingStage indexing plan

/-- One transition of `advance_target`. -/
def commitTransition (db : Database) (indexing : Indexing)
    (now : Time) : List TargetStatus → Stage × Database
  | [] => (.advanced indexing, db)
  | next :: rest =>
      match transitionTarget db.target indexing.work.targetId next none none
          false now with
      | .error error => (rejected error, db)
      | .ok target => (remainingStage indexing rest, { db with target })

/-- The next commit of `run`; `none` when no commit is left. -/
def commit (db : Database) (taskId : Nat) (payload : Json.Fields)
    (parseDatetime : String → Option Time) (now : Time) :
    Stage → Option (Stage × Database)
  | .claimed =>
      some (insertArtifact db taskId payload parseDatetime now)
  | .inserted indexing => some (startAdvance db indexing, db)
  | .advancing indexing remaining =>
      some (commitTransition db indexing now remaining)
  | .advanced indexing =>
      some (.dated indexing, { db with
        target := setDownloadedAt db.target indexing.work.targetId now })
  | _ => none

/-- `advance_target` makes the transitions of its plan. -/
theorem advanceTarget_eq
    (targets : Table TargetRow) (targetId : Nat) (now : Time) :
    advanceTarget targets targetId .downloaded now =
      match advancePlan targets targetId with
      | .error error => (.error error, targets)
      | .ok [] => (.ok false, targets)
      | .ok plan =>
          ((advanceThrough targetId now plan targets).1.map fun _ => true,
            (advanceThrough targetId now plan targets).2) := by
  rw [advanceTarget, advancePlan]
  cases targets.get targetId with
  | none => rfl
  | some target =>
      have walked : ∀ (current : TargetStatus) (table : Table TargetRow),
          advanceOrder.contains current = true →
          advanceFrom table targetId current .downloaded now =
            ((advanceThrough targetId now
                (advanceSteps current .downloaded) table).1.map
                fun _ => true,
              (advanceThrough targetId now
                (advanceSteps current .downloaded) table).2) := by
        intro current table inOrder
        have below : ¬ advanceOrder.idxOf TargetStatus.downloaded <
            advanceOrder.idxOf current := by
          revert inOrder
          cases current <;> decide
        rw [advanceFrom, if_neg (not_not_intro inOrder), if_neg below]
      dsimp only
      split
      · rfl
      · next notDownloaded =>
          rw [if_neg (by decide)]
          split
          · -- A failed or blocked Target is reopened first.
            simp only [advanceThrough]
            cases transitionTarget targets targetId .pending none none
                false now with
            | error error => rfl
            | ok reopened => exact walked .pending reopened rfl
          · by_cases inOrder : advanceOrder.contains target.status = true
            · have leads : advanceSteps target.status .downloaded ≠ [] := by
                revert notDownloaded inOrder
                cases target.status <;> decide
              rw [if_neg (not_not_intro inOrder), walked _ _ inOrder]
              split
              · next impossible => cases impossible
              · next impossible =>
                  exact absurd (Except.ok.inj impossible) leads
              · next isPlan =>
                  cases isPlan
                  rfl
            · rw [if_pos inOrder, advanceFrom, if_pos inOrder]

/-! ## The commits are those of the handler -/

/-- What `indexStart` returns when the commits end in this stage. -/
def Stage.started : Stage → Option Started
  | .dated indexing => some (.working indexing.work)
  | .returned result => some (.returned result)
  | .raised message => some (.raised message)
  | _ => none

/-- One commit follows the other, with nothing in between. -/
def CommitsTo (taskId : Nat) (payload : Json.Fields)
    (parseDatetime : String → Option Time) (now : Time) :
    Stage × Database → Stage × Database → Prop :=
  Relation.ReflTransGen fun before after =>
    commit before.2 taskId payload parseDatetime now before.1 = some after

/-- What the transitions of a plan come to. -/
def endOfPlan (db : Database) (indexing : Indexing) (now : Time) :
    Except TransitionError Unit × Table TargetRow → Stage × Database
  | (.ok _, target) =>
      (.dated indexing, { db with
        target := setDownloadedAt target indexing.work.targetId now })
  | (.error error, target) => (rejected error, { db with target })

section Commits

variable {taskId : Nat} {payload : Json.Fields}
  {parseDatetime : String → Option Time}

theorem commits_remaining
    (db : Database) (indexing : Indexing) (plan : List TargetStatus)
    (now : Time) :
    CommitsTo taskId payload parseDatetime now
      (remainingStage indexing plan, db)
      (endOfPlan db indexing now
        (advanceThrough indexing.work.targetId now plan db.target)) := by
  induction plan generalizing db with
  | nil => exact .single rfl
  | cons next rest induction =>
      rw [advanceThrough]
      cases transition : transitionTarget db.target
          indexing.work.targetId next none none false now with
      | error error =>
          apply Relation.ReflTransGen.single
          simp only [remainingStage, commit, commitTransition, transition]
          rfl
      | ok target =>
          have commits : commit db taskId payload parseDatetime now
              (remainingStage indexing (next :: rest)) =
                some (remainingStage indexing rest, { db with target }) := by
            simp only [remainingStage, commit, commitTransition, transition]
          exact .head commits (induction { db with target })

theorem commits_startAdvance
    {db : Database} {indexing : Indexing} {plan : List TargetStatus}
    (now : Time)
    (isPlan : advancePlan db.target indexing.work.targetId = .ok plan) :
    CommitsTo taskId payload parseDatetime now (.inserted indexing, db)
      (endOfPlan db indexing now
        (advanceThrough indexing.work.targetId now plan db.target)) := by
  apply Relation.ReflTransGen.head _ (commits_remaining db indexing plan now)
  simp only [commit, startAdvance, isPlan]

theorem advanceTarget_of_plan
    {targets : Table TargetRow} {targetId : Nat} {plan : List TargetStatus}
    (now : Time) (isPlan : advancePlan targets targetId = .ok plan) :
    ∃ changed, advanceTarget targets targetId .downloaded now =
      ((advanceThrough targetId now plan targets).1.map fun _ => changed,
        (advanceThrough targetId now plan targets).2) := by
  have advances := advanceTarget_eq targets targetId now
  rw [isPlan] at advances
  cases plan with
  | nil => exact ⟨false, advances⟩
  | cons => exact ⟨true, advances⟩

/-- A raising advance ends the handler as the last commit does. -/
theorem started_of_raise
    {db : Database} {work : Work} {now : Time} {error : TransitionError}
    {target : Table TargetRow} (artifact : ArtifactRow)
    (raises : advanceTarget db.target work.targetId .downloaded now =
      (.error error, target)) :
    (rejected error).started = some (indexAdvance db artifact work now).1 ∧
      (indexAdvance db artifact work now).2 =
        { db with
          artifact := (ArtifactRepository.createSourceIfMissing db.artifact
            artifact).2
          target } := by
  rw [indexAdvance, advanceFor, raises]
  cases error <;> exact ⟨rfl, rfl⟩

/-- After the Artifact, the commits are those of `indexAdvance`. -/
theorem commits_indexAdvance
    (db : Database) (artifact : ArtifactRow) (work : Work)
    (relativePath source : String) (now : Time) :
    ∃ stage,
      stage.started = some (indexAdvance db artifact work now).1 ∧
      CommitsTo taskId payload parseDatetime now
        (.inserted
          { work := { work with artifactId :=
              (ArtifactRepository.createSourceIfMissing db.artifact
                artifact).1 }
            relativePath
            source },
          { db with artifact :=
            (ArtifactRepository.createSourceIfMissing db.artifact
              artifact).2 })
        (stage, (indexAdvance db artifact work now).2) := by
  cases isPlan : advancePlan db.target work.targetId with
  | error error =>
      have advances := advanceTarget_eq db.target work.targetId now
      rw [isPlan] at advances
      have ends := started_of_raise artifact advances
      refine ⟨rejected error, ends.1, .single ?_⟩
      rw [ends.2]
      simp only [commit, startAdvance, isPlan]
  | ok plan =>
      rcases advanceTarget_of_plan now isPlan with ⟨changed, advances⟩
      have commits := @commits_startAdvance taskId payload parseDatetime
        { db with artifact :=
            (ArtifactRepository.createSourceIfMissing db.artifact
              artifact).2 }
        { work := { work with artifactId :=
            (ArtifactRepository.createSourceIfMissing db.artifact
              artifact).1 }
          relativePath
          source } plan now isPlan
      dsimp only at commits
      cases through : advanceThrough work.targetId now plan db.target with
      | mk outcome target =>
          rw [through] at advances commits
          cases outcome with
          | error error =>
              have ends := started_of_raise artifact advances
              refine ⟨rejected error, ends.1, ?_⟩
              rw [ends.2]
              exact commits
          | ok =>
              rw [indexAdvance, advanceFor, advances]
              exact ⟨_, rfl, commits⟩

/-- Undisturbed commits are those of the handler's first part. -/
theorem commits_indexStart
    (db : Database) (taskId : Nat) (payload : Json.Fields)
    (parseDatetime : String → Option Time) (now : Time) :
    ∃ stage,
      stage.started =
        some (indexStart db taskId payload parseDatetime now).1 ∧
      CommitsTo taskId payload parseDatetime now (.claimed, db)
        (stage, (indexStart db taskId payload parseDatetime now).2) := by
  have first : commit db taskId payload parseDatetime now .claimed =
      some (insertArtifact db taskId payload parseDatetime now) := rfl
  rw [insertArtifact] at first
  rw [indexStart]
  cases isTarget : intField payload "target_id" with
  | none =>
      simp only [isTarget] at first ⊢
      exact ⟨_, rfl, .single first⟩
  | some target =>
      cases isWork : strField payload "work_id" with
      | none =>
          simp only [isTarget, isWork] at first ⊢
          exact ⟨_, rfl, .single first⟩
      | some workId =>
          simp only [isTarget, isWork] at first ⊢
          cases isPrevious : dependencyPayload db.task taskId with
          | error message =>
              simp only [isPrevious] at first ⊢
              exact ⟨_, rfl, .single first⟩
          | ok previous =>
              simp only [isPrevious] at first ⊢
              split
              · next isStorage isPath isSource =>
                  simp only [isStorage, isPath, isSource] at first
                  rcases @commits_indexAdvance taskId payload parseDatetime db
                      (indexedArtifact taskId (rowKey target) _ _ previous
                        parseDatetime now)
                      { targetId := rowKey target, workId, previous,
                        storageId := _ } _ _ now with
                    ⟨stage, ends, commits⟩
                  exact ⟨stage, ends, .head first commits⟩
              · next incomplete =>
                  refine ⟨.returned _, rfl, .single ?_⟩
                  rw [first]
                  split
                  · next isStorage isPath isSource =>
                      exact absurd isSource
                        (incomplete _ _ _ isStorage isPath)
                  · rfl

end Commits

/-! ## The system -/

universe u

variable {File : Type u}

/-- What the environment fixes. -/
structure Environment where
  config : Worker.Config
  parseDatetime : String → Option Time
  /-- `(self._staging_dir / work_id).resolve()`. -/
  workRoot : String → ResolvedPath
  deleteStaging : Bool

/-- A thread which executes an INDEX task. -/
structure Execution where
  taskId : Nat
  workerId : String
  /-- The task as it was claimed. -/
  task : TaskRow
  stage : Stage := .claimed
  cancelSeen : Bool := false
  /-- The worker has released the task, but the handler may still run. -/
  released : Bool := false

/-- The database, the regular files and the threads. -/
structure State (File : Type u) where
  db : Database
  files : ResolvedPath → Option File
  executions : Table Execution := .empty

/-- What can happen. -/
inductive Event where
  | claim (workerClass : WorkerClass) (workerId : String)
      (itemConcurrency : Option Nat)
  | commit (execution : Nat)
  /-- The removal, with `source.resolve(strict=True)`, unless it raises. -/
  | removeStaging (execution : Nat) (resolved : Option ResolvedPath)
  | raise (execution : Nat) (message : String)
  | heartbeat (execution : Nat)
  | settle (execution : Nat) (retryDelay : Time)
  | release (execution : Nat)
  | crash (execution : Nat)
  | reap
  /-- Any other access to the task queue. -/
  | queue (action : Queue.Action)
  /-- Another party reflects the end of a task on its Target. -/
  | reflect (task : TaskRow) (status : TaskStatus) (error : Option String)
      (failedAttempt : Bool)

/-- An event and its time. -/
structure Action where
  event : Event
  now : Time := 0

/-- The files after the removal, and `staging_deleted`. -/
def removeStaging (environment : Environment)
    (files : ResolvedPath → Option File) (workId : String) :
    Option ResolvedPath → Bool × (ResolvedPath → Option File)
  | none => (false, files)
  | some resolved =>
      if environment.deleteStaging = true ∧
          (environment.workRoot workId).isPrefixOf resolved = true ∧
          (files resolved).isSome = true then
        (true, Function.update files resolved none)
      else (false, files)

/-- The result which `_execute` hands to `_apply_result`. -/
def resultOf (execution : Execution) : Option TaskResult :=
  let result : Option TaskResult :=
    match execution.stage with
    | .indexed indexing stagingDeleted =>
        some (indexFinish indexing.work stagingDeleted)
    | .returned result => some result
    | .raised message =>
        some { outcome := .failed, message := some message }
    | _ => none
  if execution.cancelSeen then
    result.map fun _ => { outcome := .cancelled }
  else result

/-- The state with a new stage of one execution. -/
def State.withStage (state : State File) (key : Nat) (stage : Stage)
    (db : Database) : State File :=
  { state with
    db
    executions := state.executions.modify key fun execution =>
      { execution with stage } }

/-- One event of an execution. -/
def stepExecution (environment : Environment) (state : State File)
    (now : Time) (key : Nat) (execution : Execution) :
    Event → Option (State File)
  | .commit _ =>
      (commit state.db execution.taskId
        (execution.task.payloadJson.getD []) environment.parseDatetime now
        execution.stage).map fun committed =>
          state.withStage key committed.1 committed.2
  | .removeStaging _ resolved =>
      match execution.stage with
      | .dated indexing =>
          let removed := removeStaging environment state.files
            indexing.work.workId resolved
          some { state.withStage key (.indexed indexing removed.1) state.db
            with files := removed.2 }
      | _ => none
  | .raise _ message =>
      match execution.stage with
      | .indexed .. | .returned _ | .raised _ => none
      | _ => some (state.withStage key (.raised message) state.db)
  | .heartbeat _ =>
      let beat := heartbeat state.db.task execution.taskId
        execution.workerId now
      some
        { state with
          db := { state.db with task := beat.2 }
          executions := state.executions.modify key fun execution =>
            { execution with
              cancelSeen :=
                execution.cancelSeen || beat.1 == some true } }
  | .settle _ retryDelay =>
      if execution.released then none
      else
        (resultOf execution).map fun result =>
          { state with
            db := Worker.applyResult state.db environment.config
              execution.taskId execution.task execution.workerId result
              retryDelay now
            executions := state.executions.erase key }
  | .release _ =>
      if execution.released then none
      else
        some
          { state with
            db := { state.db with
              task := (releaseForShutdown state.db.task execution.taskId
                execution.workerId now).2 }
            executions := state.executions.modify key fun execution =>
              { execution with released := true } }
  | .crash _ =>
      some { state with executions := state.executions.erase key }
  | _ => none

/-- One event of the other parties. -/
def stepDatabase (environment : Environment) (state : State File)
    (now : Time) : Event → Option (State File)
  | .claim workerClass workerId itemConcurrency =>
      match claimNext state.db.task workerClass workerId now
          itemConcurrency with
      | .error _ => none
      | .ok (none, _) => some state
      | .ok (some taskId, task) =>
          (task.get taskId).map fun row =>
            { state with
              db := { state.db with task }
              executions :=
                if row.type = .index then
                  state.executions.insert { taskId, workerId, task := row }
                else state.executions }
  | .reap =>
      some { state with
        db := Worker.reap state.db environment.config now }
  | .queue action =>
      (Queue.step state.db.task action).map fun task =>
        { state with db := { state.db with task } }
  | .reflect task status error failedAttempt =>
      some { state with db := { state.db with
        target := (syncTargetAfterTask state.db.target task status error
          failedAttempt now).2 } }
  | _ => none

/-- The execution an event belongs to. -/
def Event.execution : Event → Option Nat
  | .commit key | .removeStaging key _ | .raise key _ | .heartbeat key
  | .settle key _ | .release key | .crash key => some key
  | _ => none

/-- One event. -/
def step (environment : Environment) (state : State File)
    (action : Action) : Option (State File) :=
  match action.event.execution with
  | none => stepDatabase environment state action.now action.event
  | some key =>
      (state.executions.get key).bind fun execution =>
        stepExecution environment state action.now key execution
          action.event

/-- New tasks have at least one attempt. -/
def positiveAttempts (action : Action) : Prop :=
  match action.event with
  | .queue action => Queue.positiveAttempts action
  | _ => True

/-! ## What a step does to Artifacts and Targets -/

/-- The columns of the unique key. -/
def uniqueKey (row : ArtifactRow) : Nat × ArtifactRole × Nat × String :=
  (row.targetId, row.role, row.storageId, row.relativePath)

theorem sameKey_iff (left right : ArtifactRow) :
    ArtifactRepository.sameKey left right = true ↔
      uniqueKey left = uniqueKey right := by
  simp [ArtifactRepository.sameKey, uniqueKey, and_assoc]

/-- A status from which the Target is downloaded, or given up. -/
def isResumable (status : TargetStatus) : Bool :=
  canAdvance status .downloaded || status == .unavailable

/-- A downloaded Target stays downloaded, a resumable one resumable. -/
structure Follows (row row' : TargetRow) : Prop where
  downloaded (downloaded : row.status = .downloaded) :
    row'.status = .downloaded
  resumable (resumable : isResumable row.status = true) :
    isResumable row'.status = true

theorem Follows.of_status {row row' : TargetRow}
    (same : row'.status = row.status) : Follows row row' := by
  constructor
  · intro downloaded
    rw [same, downloaded]
  · intro resumable
    rw [same, resumable]

theorem Follows.refl (row : TargetRow) : Follows row row := .of_status rfl

theorem Follows.trans {row row' row'' : TargetRow}
    (first : Follows row row') (second : Follows row' row'') :
    Follows row row'' where
  downloaded downloaded := second.downloaded (first.downloaded downloaded)
  resumable resumable := second.resumable (first.resumable resumable)

/-- Artifacts stay, and Targets follow. -/
structure Extends (before after : Database) : Prop where
  artifacts {key : Nat} {row : ArtifactRow}
    (found : before.artifact.get key = some row) :
    after.artifact.get key = some row
  unique (unique : before.artifact.UniqueBy uniqueKey) :
    after.artifact.UniqueBy uniqueKey
  targets : RowsMove (fun _ => Follows) before.target after.target

theorem Extends.of_targets {before after : Database}
    (same : after.artifact = before.artifact)
    (targets : RowsMove (fun _ => Follows) before.target after.target) :
    Extends before after where
  artifacts found := by rwa [same]
  unique unique := by rwa [same]
  targets := targets

theorem Extends.of_eq {before after : Database}
    (sameArtifact : after.artifact = before.artifact)
    (sameTarget : after.target = before.target) : Extends before after :=
  .of_targets sameArtifact (.of_eq (fun _ => .refl) sameTarget)

/-- A row under a free key. -/
theorem unique_createSourceIfMissing
    {artifacts : Table ArtifactRow} (row : ArtifactRow)
    (unique : artifacts.UniqueBy uniqueKey) :
    (ArtifactRepository.createSourceIfMissing artifacts row).2.UniqueBy
      uniqueKey := by
  rw [ArtifactRepository.createSourceIfMissing]
  cases found : ArtifactRepository.find artifacts row with
  | some existing => exact unique
  | none =>
      have free : ∀ key other, artifacts.get key = some other →
          uniqueKey other ≠ uniqueKey row := by
        intro key other foundOther same
        rw [ArtifactRepository.find, List.head?_eq_none_iff] at found
        have selected : (key, other) ∈ artifacts.select fun _ existing =>
            ArtifactRepository.sameKey existing row := by
          rw [Table.mem_select_iff]
          exact ⟨foundOther, (sameKey_iff _ _).mpr same⟩
        rw [found] at selected
        cases selected
      intro left right leftRow rightRow foundLeft foundRight same
      rw [Table.get_insert] at foundLeft foundRight
      split at foundLeft
      · next isNew =>
          cases foundLeft
          split at foundRight
          · next isNew' => rw [isNew, isNew']
          · exact absurd same.symm (free right rightRow foundRight)
      · split at foundRight
        · cases foundRight
          exact absurd same (free left leftRow foundLeft)
        · exact unique left right leftRow rightRow foundLeft foundRight same

theorem get_createSourceIfMissing
    {artifacts : Table ArtifactRow} (row : ArtifactRow) {key : Nat}
    {existing : ArtifactRow} (found : artifacts.get key = some existing) :
    (ArtifactRepository.createSourceIfMissing artifacts row).2.get key =
      some existing := by
  rw [ArtifactRepository.createSourceIfMissing]
  split
  · exact found
  · exact Table.get_insert_of_some row found

/-- The row under the key, whether it was there or not. -/
theorem exists_createSourceIfMissing
    (artifacts : Table ArtifactRow) (row : ArtifactRow) :
    ∃ key existing,
      (ArtifactRepository.createSourceIfMissing artifacts row).2.get key =
        some existing ∧ uniqueKey existing = uniqueKey row := by
  have found := ArtifactRepository.find_createSourceIfMissing artifacts row
  rw [ArtifactRepository.find] at found
  have selected := List.mem_of_head? found
  rw [Table.mem_select_iff, sameKey_iff] at selected
  exact ⟨_, _, selected⟩

theorem extends_insertArtifact
    (db : Database) (taskId : Nat) (payload : Json.Fields)
    (parseDatetime : String → Option Time) (now : Time) :
    Extends db
      (insertArtifact db taskId payload parseDatetime now).2 := by
  rw [insertArtifact]
  split
  · dsimp only
    split
    · exact .of_eq rfl rfl
    · split
      · constructor
        · exact get_createSourceIfMissing _
        · exact unique_createSourceIfMissing _
        · exact .refl (fun _ => .refl) _
      · exact .of_eq rfl rfl
  · exact .of_eq rfl rfl

/-- A transition on the way to `DOWNLOADED`. -/
theorem rowsMove_transitionTarget
    {targets after : Table TargetRow} {targetId : Nat}
    {status : TargetStatus} {now : Time}
    (inOrder : status ∈ advanceOrder)
    (transition : transitionTarget targets targetId status none none false
      now = .ok after) :
    RowsMove (fun _ => Follows) targets after := by
  rcases transitionTarget_ok transition with ⟨row, found, allowed, rfl⟩
  apply RowsMove.modify _ (fun _ => Follows.refl)
  intro row' found'
  rw [found, Option.some.injEq] at found'
  subst found'
  constructor
  · intro downloaded
    show status = .downloaded
    rw [downloaded] at allowed
    revert inOrder allowed
    cases status <;> decide
  · intro _
    show isResumable status = true
    revert inOrder
    cases status <;> decide

theorem follows_syncedStatus
    (taskStatus : TaskStatus) (failedAttempt : Bool)
    (status : TargetStatus) :
    (status = .downloaded →
        syncedStatus taskStatus failedAttempt status = .downloaded) ∧
      (isResumable status = true →
        isResumable (syncedStatus taskStatus failedAttempt status) =
          true) := by
  cases taskStatus <;> cases failedAttempt <;> cases status <;> decide

theorem rowsMove_follows_sync
    (targets : Table TargetRow) (task : TaskRow) (taskStatus : TaskStatus)
    (error : Option String) (failedAttempt : Bool) (now : Time) :
    RowsMove (fun _ => Follows) targets
      (syncTargetAfterTask targets task taskStatus error failedAttempt
        now).2 := by
  apply (rowsMove_sync targets task taskStatus error failedAttempt
    now).weaken
  intro targetId row row' _ synced
  split at synced
  · have follows :=
      follows_syncedStatus taskStatus failedAttempt row.status
    constructor
    · intro downloaded
      rw [synced.status]
      exact follows.1 downloaded
    · intro resumable
      rw [synced.status]
      exact follows.2 resumable
  · rw [synced]
    exact .refl row

theorem reapTasks_artifact (now : Time) (recovered : List Nat)
    (db : Database) :
    (Worker.reapTasks now recovered db).artifact = db.artifact := by
  induction recovered generalizing db with
  | nil => rfl
  | cons taskId rest induction =>
      rw [Worker.reapTasks, induction, Worker.reapTask]
      split
      · rfl
      · split <;> rfl

theorem rowsMove_follows_reapTasks
    (now : Time) (recovered : List Nat) (db : Database) :
    RowsMove (fun _ => Follows) db.target
      (Worker.reapTasks now recovered db).target := by
  apply (rowsMove_reapTasks now recovered db).weaken
  rintro targetId row row' - (kept | ⟨-, active, becomes⟩)
  · exact .of_status kept.status
  · constructor
    · intro downloaded
      rw [downloaded] at active
      exact absurd active (by decide)
    · intro _
      rw [becomes.status]
      decide

theorem applyResult_artifact
    (db : Database) (config : Worker.Config) (taskId : Nat) (task : TaskRow)
    (workerId : String) (result : TaskResult) (retryDelay now : Time) :
    (Worker.applyResult db config taskId task workerId result retryDelay
      now).artifact = db.artifact := by
  rw [Worker.applyResult]
  split <;> rfl

theorem rowsMove_follows_applyResult
    (db : Database) (config : Worker.Config) (taskId : Nat) (task : TaskRow)
    (workerId : String) (result : TaskResult) (retryDelay now : Time) :
    RowsMove (fun _ => Follows) db.target
      (Worker.applyResult db config taskId task workerId result retryDelay
        now).target := by
  rw [Worker.applyResult]
  split
  · exact .refl (fun _ => .refl) _
  · exact rowsMove_follows_sync _ _ _ _ _ _

/-! ## What an execution has committed -/

/-- The unique key of the Artifact of the published file. -/
def Indexing.key (indexing : Indexing) :
    Nat × ArtifactRole × Nat × String :=
  (indexing.work.targetId, .source, indexing.work.storageId,
    indexing.relativePath)

/-- The published file has an Artifact. -/
def HasArtifact (db : Database) (indexing : Indexing) : Prop :=
  ∃ key row, db.artifact.get key = some row ∧
    uniqueKey row = indexing.key

/-- The Target is downloaded. -/
def IsDownloaded (db : Database) (indexing : Indexing) : Prop :=
  ∃ row, db.target.get indexing.work.targetId = some row ∧
    row.status = .downloaded

/-- What an execution relies on later is committed. -/
def Committed (db : Database) : Stage → Prop
  | .inserted indexing => HasArtifact db indexing
  | .advancing indexing remaining =>
      HasArtifact db indexing ∧ (∀ status ∈ remaining, status ∈ advanceOrder) ∧
        remaining.getLast? = some .downloaded
  | .advanced indexing | .dated indexing | .indexed indexing _ =>
      HasArtifact db indexing ∧ IsDownloaded db indexing
  | .claimed | .returned _ | .raised _ => True

theorem HasArtifact.mono {before after : Database} {indexing : Indexing}
    (has : HasArtifact before indexing) (extends' : Extends before after) :
    HasArtifact after indexing := by
  rcases has with ⟨key, row, found, same⟩
  exact ⟨key, row, extends'.artifacts found, same⟩

theorem IsDownloaded.mono {before after : Database} {indexing : Indexing}
    (downloaded : IsDownloaded before indexing)
    (extends' : Extends before after) : IsDownloaded after indexing := by
  rcases downloaded with ⟨row, found, isDownloaded⟩
  rcases extends'.targets.kept found with ⟨row', found', follows⟩
  exact ⟨row', found', follows.downloaded isDownloaded⟩

/-- Nothing which extends the database undoes a commit. -/
theorem Committed.mono {before after : Database} {stage : Stage}
    (committed : Committed before stage) (extends' : Extends before after) :
    Committed after stage := by
  cases stage with
  | inserted => exact HasArtifact.mono committed extends'
  | advancing => exact ⟨committed.1.mono extends', committed.2⟩
  | advanced | dated | indexed =>
      exact ⟨committed.1.mono extends', committed.2.mono extends'⟩
  | claimed | returned | raised => trivial

theorem committed_rejected (db : Database) (error : TransitionError) :
    Committed db (rejected error) := by
  cases error <;> trivial

theorem committed_insertArtifact
    (db : Database) (taskId : Nat) (payload : Json.Fields)
    (parseDatetime : String → Option Time) (now : Time) :
    Committed (insertArtifact db taskId payload parseDatetime now).2
      (insertArtifact db taskId payload parseDatetime now).1 := by
  rw [insertArtifact]
  split
  · dsimp only
    split
    · trivial
    · split
      · exact exists_createSourceIfMissing _ _
      · trivial
  · trivial

/-- A plan leads to `DOWNLOADED`, where it does not start there. -/
theorem committed_startAdvance
    {db : Database} {indexing : Indexing}
    (has : HasArtifact db indexing) :
    Committed db (startAdvance db indexing) := by
  have leads : ∀ current : TargetStatus,
      advanceOrder.contains current = true → current ≠ .downloaded →
      (∀ status ∈ advanceSteps current .downloaded,
          status ∈ advanceOrder) ∧
        (advanceSteps current .downloaded).getLast? =
          some .downloaded := by
    intro current
    cases current <;> decide
  have advancing : ∀ plan : List TargetStatus,
      (∀ status ∈ plan, status ∈ advanceOrder) ∧
        plan.getLast? = some .downloaded →
      Committed db (remainingStage indexing plan) := by
    intro plan reaches
    cases plan with
    | nil => cases reaches.2
    | cons => exact ⟨has, reaches⟩
  rw [startAdvance]
  split
  · exact committed_rejected _ _
  · next plan isPlan =>
      rw [advancePlan] at isPlan
      split at isPlan
      · cases isPlan
      · next target found =>
          split at isPlan
          · next downloaded =>
              cases isPlan
              exact ⟨has, target, found, downloaded⟩
          · next notDownloaded =>
              split at isPlan
              · cases isPlan
                apply advancing
                decide
              · split at isPlan
                · cases isPlan
                · next inOrder =>
                    cases isPlan
                    exact advancing _ (leads _ (not_not.mp inOrder)
                      notDownloaded)

theorem committed_commitTransition
    {db : Database} {indexing : Indexing} {remaining : List TargetStatus}
    (committed : Committed db (.advancing indexing remaining)) (now : Time) :
    Extends db (commitTransition db indexing now remaining).2 ∧
      Committed (commitTransition db indexing now remaining).2
        (commitTransition db indexing now remaining).1 := by
  rcases committed with ⟨has, inOrder, reaches⟩
  cases remaining with
  | nil => cases reaches
  | cons next rest =>
      rw [commitTransition]
      split
      · exact ⟨.of_eq rfl rfl, committed_rejected _ _⟩
      · next target transition =>
          have extends' : Extends db { db with target } :=
            .of_targets rfl (rowsMove_transitionTarget
              (inOrder next List.mem_cons_self) transition)
          refine ⟨extends', ?_⟩
          cases rest with
          | nil =>
              -- The last transition is the one to `DOWNLOADED`.
              cases reaches
              rcases transitionTarget_ok transition with
                ⟨row, found, -, rfl⟩
              refine ⟨has.mono extends',
                TargetRepository.statusValues .downloaded none none false
                  now row, ?_, rfl⟩
              rw [Table.get_modify_self, found, Option.map_some]
          | cons =>
              refine ⟨has.mono extends', ?_, ?_⟩
              · intro status member
                exact inOrder status (List.mem_cons_of_mem _ member)
              · rwa [List.getLast?_cons_cons] at reaches

/-- One commit extends the database, and is what the next stage relies on. -/
theorem committed_commit
    {db : Database} {taskId : Nat} {payload : Json.Fields}
    {parseDatetime : String → Option Time} {now : Time} {stage : Stage}
    {next : Stage × Database}
    (committed : Committed db stage)
    (commits : commit db taskId payload parseDatetime now stage =
      some next) :
    Extends db next.2 ∧ Committed next.2 next.1 := by
  cases stage with
  | claimed =>
      cases commits
      exact ⟨extends_insertArtifact _ _ _ _ _,
        committed_insertArtifact _ _ _ _ _⟩
  | inserted indexing =>
      cases commits
      exact ⟨.of_eq rfl rfl, committed_startAdvance committed⟩
  | advancing indexing remaining =>
      cases commits
      exact committed_commitTransition committed now
  | advanced indexing =>
      cases commits
      have extends' : Extends db { db with
          target :=
            setDownloadedAt db.target indexing.work.targetId now } := by
        refine .of_targets rfl ?_
        exact (rowsMove_setDownloadedAt now db.target _).weaken
          fun _ _ _ _ kept => .of_status kept.status
      exact ⟨extends', committed.1.mono extends',
        committed.2.mono extends'⟩
  | dated | indexed | returned | raised => cases commits

/-! ## The invariant -/

/-- The path is in no directory of these work ids. -/
def isOutside (environment : Environment) (isWorkId : String → Prop)
    (path : ResolvedPath) : Prop :=
  ∀ workId, isWorkId workId →
    (environment.workRoot workId).isPrefixOf path = false

/-- The INDEX tasks have such work ids. -/
def HasWorkIds (isWorkId : String → Prop) (tasks : Table TaskRow) : Prop :=
  ∀ key row workId, tasks.get key = some row → row.type = .index →
    strField (row.payloadJson.getD []) "work_id" = some workId →
    isWorkId workId

/-- What `run` keeps of the payloads in this stage. -/
def Stage.indexing : Stage → Option Indexing
  | .inserted indexing | .advancing indexing _ | .advanced indexing
  | .dated indexing | .indexed indexing _ => some indexing
  | .claimed | .returned _ | .raised _ => none

/-- The work ids which an execution reads. -/
structure ReadsWork (isWorkId : String → Prop) (execution : Execution) :
    Prop where
  payload {workId : String}
    (isField : strField (execution.task.payloadJson.getD []) "work_id" =
      some workId) : isWorkId workId
  kept {indexing : Indexing}
    (keeps : execution.stage.indexing = some indexing) :
    isWorkId indexing.work.workId

/-- The INDEX tasks have such work ids, and new tasks an attempt. -/
def isOrdinary (isWorkId : String → Prop) (state : State File)
    (action : Action) : Prop :=
  HasWorkIds isWorkId state.db.task ∧ positiveAttempts action

/-- What the constraints of the tables and the queue promise at the start. -/
structure Prepared (state : State File) : Prop where
  unique : state.db.artifact.UniqueBy uniqueKey
  records {key : Nat} {row : TaskRow}
    (found : state.db.task.get key = some row) : Queue.WellFormed row
  idle (key : Nat) : state.executions.get key = none

/-- What holds after every event. -/
structure Invariant (environment : Environment) (isWorkId : String → Prop)
    (start state : State File) : Prop where
  unique : state.db.artifact.UniqueBy uniqueKey
  targets : RowsMove (fun _ => Follows) start.db.target state.db.target
  records (key : Nat) (row : TaskRow)
    (found : state.db.task.get key = some row) : Queue.WellFormed row
  files {path : ResolvedPath}
    (outside : isOutside environment isWorkId path) :
    state.files path = start.files path
  committed {key : Nat} {execution : Execution}
    (found : state.executions.get key = some execution) :
    Committed state.db execution.stage
  reads {key : Nat} {execution : Execution}
    (found : state.executions.get key = some execution) :
    ReadsWork isWorkId execution

/-- Each execution was there with its task and stage, or is just claimed. -/
def KeepsStages (isWorkId : String → Prop)
    (before after : Table Execution) : Prop :=
  ∀ key execution, after.get key = some execution →
    execution.stage = .claimed ∧ ReadsWork isWorkId execution ∨
      ∃ old, before.get key = some old ∧ execution.task = old.task ∧
        execution.stage = old.stage

/-- What an event changes besides the executions. -/
structure Changes (environment : Environment) (isWorkId : String → Prop)
    (before after : State File) : Prop where
  extends' : Extends before.db after.db
  records (wellFormed : ∀ key row, before.db.task.get key = some row →
      Queue.WellFormed row) :
    ∀ key row, after.db.task.get key = some row → Queue.WellFormed row
  files {path : ResolvedPath}
    (outside : isOutside environment isWorkId path) :
    after.files path = before.files path

variable {environment : Environment} {isWorkId : String → Prop}
  {start before after : State File}

theorem Invariant.next
    (invariant : Invariant environment isWorkId start before)
    (changes : Changes environment isWorkId before after)
    (executions : ∀ key execution, after.executions.get key =
      some execution → Committed after.db execution.stage ∧
        ReadsWork isWorkId execution) :
    Invariant environment isWorkId start after where
  unique := changes.extends'.unique invariant.unique
  targets := RowsMove.trans (fun _ _ _ _ first second => first.trans second)
    invariant.targets changes.extends'.targets
  records := changes.records invariant.records
  files outside :=
    (changes.files outside).trans (invariant.files outside)
  committed found := (executions _ _ found).1
  reads found := (executions _ _ found).2

theorem KeepsStages.refl (executions : Table Execution) :
    KeepsStages isWorkId executions executions :=
  fun _ execution found => Or.inr ⟨execution, found, rfl, rfl⟩

theorem KeepsStages.modify
    (executions : Table Execution) (key : Nat)
    {change : Execution → Execution}
    (same : ∀ execution, (change execution).task = execution.task ∧
      (change execution).stage = execution.stage) :
    KeepsStages isWorkId executions (executions.modify key change) := by
  intro other execution found
  rw [Table.get_modify] at found
  split at found
  · next isKey =>
      rcases Option.map_eq_some_iff.mp found with ⟨old, foundOld, rfl⟩
      exact Or.inr ⟨old, isKey ▸ foundOld, same old⟩
  · exact Or.inr ⟨execution, found, rfl, rfl⟩

theorem KeepsStages.erase (executions : Table Execution) (key : Nat) :
    KeepsStages isWorkId executions (executions.erase key) := by
  intro other execution found
  rw [Table.get_erase] at found
  split at found
  · cases found
  · exact Or.inr ⟨execution, found, rfl, rfl⟩

theorem KeepsStages.insert
    (executions : Table Execution) {claimed : Execution}
    (isClaimed : claimed.stage = .claimed)
    (reads : ReadsWork isWorkId claimed) :
    KeepsStages isWorkId executions (executions.insert claimed) := by
  intro other execution found
  rw [Table.get_insert] at found
  split at found
  · cases found
    exact Or.inl ⟨isClaimed, reads⟩
  · exact Or.inr ⟨execution, found, rfl, rfl⟩

/-- Executions which were there before, with their tasks and stages. -/
theorem Invariant.next_of_kept
    (invariant : Invariant environment isWorkId start before)
    (changes : Changes environment isWorkId before after)
    (kept : KeepsStages isWorkId before.executions after.executions) :
    Invariant environment isWorkId start after := by
  apply invariant.next changes
  intro key execution found
  rcases kept key execution found with
    ⟨isClaimed, reads⟩ | ⟨old, foundOld, sameTask, sameStage⟩
  · refine ⟨?_, reads⟩
    rw [isClaimed]
    trivial
  · constructor
    · rw [sameStage]
      exact (invariant.committed foundOld).mono changes.extends'
    · have reads := invariant.reads foundOld
      constructor
      · rw [sameTask]
        exact reads.payload
      · rw [sameStage]
        exact reads.kept

/-- One execution reaches a stage. -/
theorem Invariant.next_of_stage
    (invariant : Invariant environment isWorkId start before)
    (changes : Changes environment isWorkId before after) {key : Nat}
    {stage : Stage}
    (executions : after.executions = before.executions.modify key
      fun execution => { execution with stage })
    (committed : Committed after.db stage)
    (reads : ∀ indexing, stage.indexing = some indexing →
      isWorkId indexing.work.workId) :
    Invariant environment isWorkId start after := by
  apply invariant.next changes
  intro other execution found
  rw [executions, Table.get_modify] at found
  split at found
  · rcases Option.map_eq_some_iff.mp found with ⟨old, foundOld, rfl⟩
    exact ⟨committed, (invariant.reads foundOld).payload, reads _⟩
  · exact ⟨(invariant.committed found).mono changes.extends',
      invariant.reads found⟩

theorem changes_of_queue
    {task : Table TaskRow} (actions : Steps Queue.step
      (fun _ => Queue.positiveAttempts) before.db.task task)
    (artifact : after.db.artifact = before.db.artifact)
    (targets : RowsMove (fun _ => Follows) before.db.target
      after.db.target)
    (isTask : after.db.task = task)
    (files : after.files = before.files) :
    Changes environment isWorkId before after where
  extends' := .of_targets artifact targets
  records wellFormed := by
    rw [isTask]
    exact actions.invariant
      (fun tasks => ∀ key row, tasks.get key = some row →
        Queue.WellFormed row)
      wellFormed fun _ _ _ holds positive taken =>
        Queue.wellFormed_step holds positive taken
  files _ := by rw [files]

theorem changes_of_db
    (extends' : Extends before.db after.db)
    (task : after.db.task = before.db.task)
    (files : after.files = before.files) :
    Changes environment isWorkId before after where
  extends' := extends'
  records wellFormed := by rwa [task]
  files _ := by rw [files]

theorem changes_of_same
    (db : after.db = before.db) (files : after.files = before.files) :
    Changes environment isWorkId before after := by
  apply changes_of_db
  · rw [db]
    exact .of_eq rfl rfl
  · rw [db]
  · exact files

/-- One action on the queue. -/
theorem changes_of_action
    {task : Table TaskRow} {action : Queue.Action}
    (positive : Queue.positiveAttempts action)
    (taken : Queue.step before.db.task action = some task)
    (db : after.db = { before.db with task })
    (files : after.files = before.files) :
    Changes environment isWorkId before after := by
  apply changes_of_queue (.single positive taken)
  · rw [db]
  · rw [db]
    exact .refl (fun _ => .refl) _
  · rw [db]
  · exact files

/-- A removal stays in the work directory. -/
theorem files_removeStaging
    (files : ResolvedPath → Option File) (workId : String)
    (resolved : Option ResolvedPath) {path : ResolvedPath}
    (isWork : isWorkId workId)
    (outside : isOutside environment isWorkId path) :
    (removeStaging environment files workId resolved).2 path =
      files path := by
  cases resolved with
  | none => rfl
  | some resolved =>
      rw [removeStaging]
      split
      · next removed =>
          apply Function.update_of_ne
          rintro rfl
          rw [outside workId isWork] at removed
          cases removed.2.1
      · rfl

/-- The actions by which a result is settled. -/
theorem steps_applyResult
    (db : Database) (config : Worker.Config) (taskId : Nat) (task : TaskRow)
    (workerId : String) (result : TaskResult) (retryDelay now : Time) :
    Steps Queue.step (fun _ => Queue.positiveAttempts) db.task
      (Worker.applyResult db config taskId task workerId result retryDelay
        now).task := by
  rw [applyResult_task]
  have settles : ∀ tasks : Table TaskRow,
      Steps Queue.step (fun _ => Queue.positiveAttempts) tasks
        ((settlement config result retryDelay now).perform tasks taskId
          workerId).2 :=
    fun tasks => @Steps.single _ _ _ _ _ _ (.write taskId workerId
      (settlement config result retryDelay now)) trivial rfl
  apply Steps.trans _ (settles _)
  cases result.payloadUpdate with
  | none => exact .refl
  | some values =>
      cases values with
      | nil => exact .refl
      | cons value rest =>
          exact @Steps.single _ _ _ _ _ _ (.write taskId workerId
            (.resultPayload (value :: rest))) trivial rfl

theorem task_commit
    {db : Database} {taskId : Nat} {payload : Json.Fields}
    {parseDatetime : String → Option Time} {now : Time} {stage : Stage}
    {next : Stage × Database}
    (commits : commit db taskId payload parseDatetime now stage =
      some next) : next.2.task = db.task := by
  cases stage with
  | claimed =>
      cases commits
      rw [insertArtifact]
      split
      · dsimp only
        split
        · rfl
        · split <;> rfl
      · rfl
  | inserted | advanced =>
      cases commits
      rfl
  | advancing indexing remaining =>
      cases commits
      cases remaining with
      | nil => rfl
      | cons next rest =>
          rw [commitTransition]
          split <;> rfl
  | dated | indexed | returned | raised => cases commits

theorem indexing_rejected (error : TransitionError) :
    (rejected error).indexing = none := by
  cases error <;> rfl

theorem indexing_remainingStage
    (indexing : Indexing) (remaining : List TargetStatus) :
    (remainingStage indexing remaining).indexing = some indexing := by
  cases remaining <;> rfl

theorem reads_insertArtifact
    {db : Database} {taskId : Nat} {payload : Json.Fields}
    {parseDatetime : String → Option Time} {now : Time}
    (isField : ∀ workId, strField payload "work_id" = some workId →
      isWorkId workId) :
    ∀ indexing, (insertArtifact db taskId payload parseDatetime
        now).1.indexing = some indexing →
      isWorkId indexing.work.workId := by
  intro indexing keeps
  rw [insertArtifact] at keeps
  split at keeps
  · next isWork =>
      dsimp only at keeps
      split at keeps
      · cases keeps
      · split at keeps
        · cases keeps
          exact isField _ isWork
        · cases keeps
  · cases keeps

/-- A commit reads no other work id. -/
theorem reads_commit
    {db : Database} {execution : Execution}
    {parseDatetime : String → Option Time} {now : Time}
    {next : Stage × Database}
    (reads : ReadsWork isWorkId execution)
    (commits : commit db execution.taskId
      (execution.task.payloadJson.getD []) parseDatetime now
      execution.stage = some next) :
    ∀ indexing, next.1.indexing = some indexing →
      isWorkId indexing.work.workId := by
  intro indexing keeps
  have kept := @reads.kept
  cases isStage : execution.stage with
  | claimed =>
      rw [isStage] at commits
      cases commits
      exact reads_insertArtifact (fun _ => reads.payload) indexing keeps
  | inserted =>
      rw [isStage] at commits kept
      cases commits
      dsimp only [startAdvance] at keeps
      split at keeps
      · rw [indexing_rejected] at keeps
        cases keeps
      · rw [indexing_remainingStage] at keeps
        exact kept keeps
  | advancing _ remaining =>
      rw [isStage] at commits kept
      cases commits
      cases remaining with
      | nil => exact kept keeps
      | cons =>
          dsimp only [commitTransition] at keeps
          split at keeps
          · rw [indexing_rejected] at keeps
            cases keeps
          · rw [indexing_remainingStage] at keeps
            exact kept keeps
  | advanced =>
      rw [isStage] at commits kept
      cases commits
      exact kept keeps
  | dated | indexed | returned | raised =>
      rw [isStage] at commits
      cases commits

theorem invariant_stepExecution
    (invariant : Invariant environment isWorkId start before)
    {now : Time} {key : Nat} {execution : Execution} {event : Event}
    (found : before.executions.get key = some execution)
    (taken : stepExecution environment before now key execution event =
      some after) :
    Invariant environment isWorkId start after := by
  have committed := invariant.committed found
  have reads := invariant.reads found
  cases event with
  | commit =>
      rcases Option.map_eq_some_iff.mp taken with ⟨next, commits, rfl⟩
      have extends' := committed_commit committed commits
      refine invariant.next_of_stage ?_ rfl extends'.2
        (reads_commit reads commits)
      exact changes_of_db extends'.1 (task_commit commits) rfl
  | removeStaging _ resolved =>
      simp only [stepExecution] at taken
      split at taken
      · next indexing isDated =>
          cases taken
          have isWork : isWorkId indexing.work.workId := by
            apply reads.kept
            rw [isDated]
            rfl
          rw [isDated] at committed
          refine invariant.next_of_stage ?_ rfl committed ?_
          · constructor
            · exact .of_eq rfl rfl
            · exact id
            · exact files_removeStaging before.files _ resolved isWork
          · intro _ keeps
            cases keeps
            exact isWork
      · cases taken
  | raise _ message =>
      simp only [stepExecution] at taken
      split at taken
      · cases taken
      · cases taken
      · cases taken
      · cases taken
        exact invariant.next_of_stage (changes_of_same rfl rfl) rfl trivial
          fun _ keeps => by cases keeps
  | heartbeat =>
      cases taken
      apply invariant.next_of_kept
      · exact @changes_of_action _ _ _ _ _ _
          (.write execution.taskId execution.workerId (.heartbeat now))
          trivial rfl rfl rfl
      · exact .modify _ _ fun _ => ⟨rfl, rfl⟩
  | settle _ retryDelay =>
      simp only [stepExecution] at taken
      split at taken
      · cases taken
      · rcases Option.map_eq_some_iff.mp taken with ⟨result, -, rfl⟩
        refine invariant.next_of_kept ?_ (.erase _ _)
        apply changes_of_queue (steps_applyResult before.db
          environment.config execution.taskId execution.task
          execution.workerId result retryDelay now)
        · exact applyResult_artifact _ _ _ _ _ _ _ _
        · exact rowsMove_follows_applyResult _ _ _ _ _ _ _ _
        · rfl
        · rfl
  | release =>
      simp only [stepExecution] at taken
      split at taken
      · cases taken
      · cases taken
        apply invariant.next_of_kept
        · exact @changes_of_action _ _ _ _ _ _
            (.write execution.taskId execution.workerId (.release now))
            trivial rfl rfl rfl
        · exact .modify _ _ fun _ => ⟨rfl, rfl⟩
  | crash =>
      cases taken
      exact invariant.next_of_kept (changes_of_same rfl rfl) (.erase _ _)
  | _ => cases taken

/-- The claimed row has the type and the payload of the candidate. -/
theorem readsWork_of_claim
    {tasks tasks' : Table TaskRow} {workerClass : WorkerClass}
    {workerId : String} {now : Time} {itemConcurrency : Option Nat}
    {taskId : Nat} {row : TaskRow}
    (works : HasWorkIds isWorkId tasks)
    (claims : claimNext tasks workerClass workerId now itemConcurrency =
      .ok (some taskId, tasks'))
    (found : tasks'.get taskId = some row) (isIndex : row.type = .index) :
    ReadsWork isWorkId { taskId, workerId, task := row } where
  payload {workId} isField := by
    have isClaimed : tasks' =
        tasks.modify taskId (claimValues workerId now) :=
      (Queue.claimNext_cases claims).2
    rw [isClaimed, Table.get_modify_self] at found
    rcases Option.map_eq_some_iff.mp found with ⟨old, foundOld, rfl⟩
    exact works taskId old workId foundOld isIndex isField
  kept keeps := by cases keeps

theorem invariant_stepDatabase
    (invariant : Invariant environment isWorkId start before)
    {now : Time} {event : Event}
    (works : HasWorkIds isWorkId before.db.task)
    (positive : positiveAttempts { event, now })
    (taken : stepDatabase environment before now event = some after) :
    Invariant environment isWorkId start after := by
  cases event with
  | claim workerClass workerId itemConcurrency =>
      simp only [stepDatabase] at taken
      split at taken
      · cases taken
      · cases taken
        exact invariant
      · next taskId task claims =>
          rcases Option.map_eq_some_iff.mp taken with ⟨row, foundRow, rfl⟩
          apply invariant.next_of_kept
          · refine @changes_of_action _ _ _ _ _ _
              (.claimNext workerClass workerId now itemConcurrency) trivial
              ?_ rfl rfl
            rw [Queue.step, claims]
            rfl
          · dsimp only
            split
            · next isIndex =>
                exact .insert _ rfl
                  (readsWork_of_claim works claims foundRow isIndex)
            · exact .refl _
  | reap =>
      cases taken
      refine invariant.next_of_kept ?_ (.refl _)
      apply changes_of_queue (@Steps.single _ _ _ _ _ _
        (.recoverStale (now - environment.config.staleThreshold) now)
        trivial rfl)
      · exact reapTasks_artifact _ _ _
      · exact rowsMove_follows_reapTasks now _
          { before.db with task := (recoverStale before.db.task
              (now - environment.config.staleThreshold) now).2 }
      · exact reapTasks_task _ _ _
      · rfl
  | queue action =>
      rcases Option.map_eq_some_iff.mp taken with ⟨task, performed, rfl⟩
      exact invariant.next_of_kept
        (changes_of_action positive performed rfl rfl) (.refl _)
  | reflect task status error failedAttempt =>
      cases taken
      refine invariant.next_of_kept ?_ (.refl _)
      apply changes_of_db
      · exact .of_targets rfl (rowsMove_follows_sync _ _ _ _ _ _)
      · rfl
      · rfl
  | _ => cases taken

theorem invariant_step
    {action : Action}
    (invariant : Invariant environment isWorkId start before)
    (works : HasWorkIds isWorkId before.db.task)
    (positive : positiveAttempts action)
    (taken : step environment before action = some after) :
    Invariant environment isWorkId start after := by
  rw [step] at taken
  split at taken
  · exact invariant_stepDatabase invariant works positive taken
  · rcases Option.bind_eq_some_iff.mp taken with ⟨execution, found, taken⟩
    exact invariant_stepExecution invariant found taken

theorem invariant_steps
    (prepared : Prepared start)
    (steps : Steps (step environment) (isOrdinary isWorkId) start after) :
    Invariant environment isWorkId start after := by
  apply steps.invariant (Invariant environment isWorkId start)
  · constructor
    · exact prepared.unique
    · exact .refl (fun _ => .refl) _
    · exact fun _ _ => prepared.records
    · exact fun _ => rfl
    · intro key execution found
      rw [prepared.idle key] at found
      cases found
    · intro key execution found
      rw [prepared.idle key] at found
      cases found
  · exact fun _ _ _ invariant ordinary taken =>
      invariant_step invariant ordinary.1 ordinary.2 taken

/-! ## Executions which are not stopped -/

/-- The event is the next part of the handler. -/
def isPartOf (key : Nat) (action : Action) : Prop :=
  action.event = .commit key ∨
    ∃ resolved, action.event = .removeStaging key resolved

/-- The execution comes to this stage when nothing stops it. -/
def Completes (environment : Environment) (state : State File) (key : Nat)
    (stage : Stage) : Prop :=
  ∃ after execution,
    Steps (step environment) (fun _ => isPartOf key) state after ∧
      after.executions.get key = some execution ∧ execution.stage = stage

theorem Completes.head
    {key : Nat} {stage : Stage} {next : State File} {action : Action}
    (isPart : isPartOf key action)
    (taken : step environment before action = some next)
    (completes : Completes environment next key stage) :
    Completes environment before key stage := by
  rcases completes with ⟨after, execution, steps, found, reached⟩
  exact ⟨after, execution, .trans (.single isPart taken) steps, found,
    reached⟩

variable (environment) in
/-- A commit is made when its execution is not stopped. -/
theorem step_commit
    {key : Nat} {execution : Execution} {next : Stage × Database}
    (now : Time)
    (found : before.executions.get key = some execution)
    (commits : commit before.db execution.taskId
      (execution.task.payloadJson.getD []) environment.parseDatetime now
      execution.stage = some next) :
    ∃ committed : State File,
      step environment before { event := .commit key, now } =
          some committed ∧
        committed.db = next.2 ∧
        committed.executions.get key =
          some { execution with stage := next.1 } := by
  refine ⟨before.withStage key next.1 next.2, ?_, rfl, ?_⟩
  · simp [step, Event.execution, stepExecution, found, commits]
  · rw [State.withStage, Table.get_modify_self, found, Option.map_some]

/-- After the advance nothing is left that could fail. -/
theorem completes_of_advanced
    {key : Nat} {execution : Execution} {indexing : Indexing}
    (found : before.executions.get key = some execution)
    (isAdvanced : execution.stage = .advanced indexing)
    (resolved : Option ResolvedPath) :
    ∃ stagingDeleted,
      Completes environment before key
        (.indexed indexing stagingDeleted) := by
  rcases step_commit environment 0 found
      (by rw [isAdvanced]; rfl) with ⟨dated, dates, -, foundDated⟩
  let removed := removeStaging environment dated.files indexing.work.workId
    resolved
  have removes : step environment dated
      { event := .removeStaging key resolved } =
        some { dated.withStage key (.indexed indexing removed.1) dated.db
          with files := removed.2 } := by
    simp only [step, Event.execution, foundDated, Option.bind_some,
      stepExecution]
    rfl
  refine ⟨removed.1, Completes.head (Or.inl rfl) dates
    (Completes.head (Or.inr ⟨resolved, rfl⟩) removes ?_)⟩
  refine ⟨_, { execution with stage := .indexed indexing removed.1 },
    .refl, ?_, rfl⟩
  simp only [State.withStage]
  rw [Table.get_modify_self, foundDated, Option.map_some]

/-- The transitions of a plan succeed one after the other. -/
theorem completes_of_remaining
    {key : Nat} {execution : Execution} {indexing : Indexing}
    {remaining : List TargetStatus} {row : TargetRow}
    (resolved : Option ResolvedPath)
    (found : before.executions.get key = some { execution with
      stage := remainingStage indexing remaining })
    (foundTarget : before.db.target.get indexing.work.targetId = some row)
    (walk : walks row.status remaining = true) :
    ∃ stagingDeleted,
      Completes environment before key
        (.indexed indexing stagingDeleted) := by
  induction remaining generalizing before row with
  | nil => exact completes_of_advanced found rfl resolved
  | cons next rest induction =>
      rw [walks, Bool.and_eq_true, List.contains_iff_mem] at walk
      have transition := transitionTarget_of_allowed none none false 0
        foundTarget (List.mem_append_left anyTransitions walk.1)
      rcases step_commit environment 0 found rfl with
        ⟨committed, taken, isDb, foundCommitted⟩
      simp only [remainingStage, commitTransition, transition]
        at isDb foundCommitted
      have foundMoved : committed.db.target.get indexing.work.targetId =
          some (TargetRepository.statusValues next none none false 0
            row) := by
        rw [isDb, Table.get_modify_self, foundTarget, Option.map_some]
      rcases induction foundCommitted foundMoved walk.2 with
        ⟨stagingDeleted, completes⟩
      exact ⟨stagingDeleted, completes.head (Or.inl rfl) taken⟩

theorem advancePlan_of_canAdvance
    {targets : Table TargetRow} {targetId : Nat} {row : TargetRow}
    (found : targets.get targetId = some row)
    (advances : canAdvance row.status .downloaded = true) :
    ∃ plan, advancePlan targets targetId = .ok plan ∧
      walks row.status plan = true := by
  simp only [advancePlan, found]
  revert advances
  cases row.status <;> intro advances <;>
    first
    | exact ⟨_, rfl, rfl⟩
    | exact absurd advances (by decide)

theorem insertArtifact_target
    (db : Database) (taskId : Nat) (payload : Json.Fields)
    (parseDatetime : String → Option Time) (now : Time) :
    (insertArtifact db taskId payload parseDatetime now).2.target =
      db.target := by
  rw [insertArtifact]
  split
  · dsimp only
    split
    · rfl
    · split <;> rfl
  · rfl

/-- Whatever is committed already, a new execution can go through. -/
theorem completes_of_claimed
    {key : Nat} {execution : Execution} {indexing : Indexing}
    {row : TargetRow} (now : Time) (resolved : Option ResolvedPath)
    (found : before.executions.get key = some execution)
    (isClaimed : execution.stage = .claimed)
    (isReadable : (insertArtifact before.db execution.taskId
      (execution.task.payloadJson.getD []) environment.parseDatetime
      now).1 = .inserted indexing)
    (foundTarget : before.db.target.get indexing.work.targetId = some row)
    (advances : canAdvance row.status .downloaded = true) :
    ∃ stagingDeleted,
      Completes environment before key
        (.indexed indexing stagingDeleted) := by
  rcases step_commit environment now found
      (by rw [isClaimed]; rfl) with ⟨inserted, inserts, isDb, foundInserted⟩
  rw [isReadable] at foundInserted
  have foundTarget' : inserted.db.target.get indexing.work.targetId =
      some row := by
    rw [isDb, insertArtifact_target, foundTarget]
  rcases advancePlan_of_canAdvance foundTarget' advances with
    ⟨plan, isPlan, walk⟩
  rcases step_commit environment 0 foundInserted rfl with
    ⟨advancing, starts, sameDb, foundAdvancing⟩
  simp only [startAdvance, isPlan] at foundAdvancing
  have foundTarget'' : advancing.db.target.get indexing.work.targetId =
      some row := by
    rw [sameDb]
    exact foundTarget'
  rcases completes_of_remaining resolved foundAdvancing foundTarget'' walk
    with ⟨stagingDeleted, completes⟩
  exact ⟨stagingDeleted,
    (completes.head (Or.inl rfl) starts).head (Or.inl rfl) inserts⟩

/-! ## The main result -/

/-- What a successful execution leaves. -/
structure Published (environment : Environment) (isWorkId : String → Prop)
    (start settled : State File) (taskId : Nat) (indexing : Indexing) :
    Prop where
  artifact : ∃! key, ∃ row, settled.db.artifact.get key = some row ∧
    uniqueKey row = indexing.key
  target : IsDownloaded settled.db indexing
  attempts {row : TaskRow}
    (found : settled.db.task.get taskId = some row) :
    row.attempts ≤ row.maxAttempts
  files {path : ResolvedPath}
    (outside : isOutside environment isWorkId path) :
    settled.files path = start.files path

theorem Invariant.published
    {taskId : Nat} {indexing : Indexing}
    (invariant : Invariant environment isWorkId start after)
    (has : HasArtifact after.db indexing)
    (downloaded : IsDownloaded after.db indexing) :
    Published environment isWorkId start after taskId indexing where
  artifact := by
    rcases has with ⟨key, row, found, same⟩
    refine ⟨key, ⟨row, found, same⟩, ?_⟩
    rintro other ⟨otherRow, foundOther, sameOther⟩
    exact invariant.unique other key otherRow row foundOther found
      (sameOther.trans same.symm)
  target := downloaded
  attempts found := (invariant.records _ _ found).bounded
  files := invariant.files

theorem extends_settle
    {key : Nat} {execution : Execution} {retryDelay now : Time}
    {settled : State File}
    (found : before.executions.get key = some execution)
    (settles : step environment before
      { event := .settle key retryDelay, now } = some settled) :
    Extends before.db settled.db := by
  simp only [step, Event.execution, found, Option.bind_some, stepExecution]
    at settles
  split at settles
  · cases settles
  · rcases Option.map_eq_some_iff.mp settles with ⟨result, -, rfl⟩
    exact .of_targets (applyResult_artifact _ _ _ _ _ _ _ _)
      (rowsMove_follows_applyResult _ _ _ _ _ _ _ _)

/--
However often the executions of INDEX tasks were stopped, and wherever, an
execution which succeeds leaves one Artifact of the published file, the
Target downloaded, the attempts within their limit and every file outside the
directories of the work ids which INDEX tasks have.  And while its Target is not given up, a new execution
which can read its payloads succeeds unless it is stopped again.
-/
theorem index_crash_idempotent
    (prepared : Prepared start)
    (steps : Steps (step environment) (isOrdinary isWorkId) start after)
    {key : Nat} {execution : Execution} {indexing : Indexing}
    (found : after.executions.get key = some execution) :
    (∀ stagingDeleted retryDelay now settled,
      execution.stage = .indexed indexing stagingDeleted →
      step environment after { event := .settle key retryDelay, now } =
        some settled →
      Published environment isWorkId start settled execution.taskId
        indexing) ∧
    (∀ first row now,
      start.db.target.get indexing.work.targetId = some first →
      isResumable first.status = true →
      after.db.target.get indexing.work.targetId = some row →
      row.status ≠ .unavailable →
      execution.stage = .claimed →
      (insertArtifact after.db execution.taskId
        (execution.task.payloadJson.getD []) environment.parseDatetime
        now).1 = .inserted indexing →
      ∃ stagingDeleted, Completes environment after key
        (.indexed indexing stagingDeleted)) := by
  have invariant := invariant_steps prepared steps
  constructor
  · intro stagingDeleted retryDelay now settled isIndexed settles
    have committed := invariant.committed found
    rw [isIndexed] at committed
    have extends' := extends_settle found settles
    have last : Invariant environment isWorkId start settled := by
      simp only [step, Event.execution, found, Option.bind_some] at settles
      exact invariant_stepExecution invariant found settles
    exact last.published
      (committed.1.mono extends') (committed.2.mono extends')
  · intro first row now foundFirst resumable foundRow notGivenUp
      isClaimed isReadable
    rcases invariant.targets.kept foundFirst with
      ⟨row', foundRow', follows⟩
    rw [foundRow, Option.some.injEq] at foundRow'
    subst foundRow'
    have resumes := follows.resumable resumable
    rw [isResumable, Bool.or_eq_true, beq_iff_eq] at resumes
    exact completes_of_claimed now none found isClaimed isReadable
      foundRow (resumes.resolve_right notGivenUp)

/-- A published clip, whose INDEX task is queued. -/
def publishedClip : State String where
  db :=
    { target := Table.empty.insert
        { itemId := 1, playlistProfileId := 1, status := .processing }
      task := (Table.empty.insert
        { type := .publish, targetRefType := "target", targetRefId := 1,
          payloadJson := some
            [("storage_id", .int 1), ("relative_path", .str "clip.mp4"),
              ("file_path", .str "/staging/work/clip.mp4")],
          workerClass := .network, status := .succeeded,
          finishedAt := some 5 }).insert
        { type := .index, targetRefType := "target", targetRefId := 1,
          payloadJson := some
            [("target_id", .int 1), ("work_id", .str "work")],
          workerClass := .network, status := .queued,
          dependsOnTaskId := some 1 } }
  files := fun path =>
    if path = ["staging", "work", "clip.mp4"] ∨
        path = ["media", "clip.mp4"] then
      some "clip"
    else none

/-- Stale tasks are recovered after a minute. -/
def stagingEnvironment : Environment where
  config := ⟨60, 60, 60⟩
  parseDatetime := fun _ => none
  workRoot := fun workId => ["staging", workId]
  deleteStaging := true

/-- A lost process, an exception in the advance, and a complete run. -/
def stoppedTwice : List Action :=
  [⟨.claim .network "first" none, 10⟩, ⟨.commit 1, 11⟩, ⟨.crash 1, 12⟩,
    ⟨.reap, 100⟩, ⟨.claim .network "second" none, 110⟩, ⟨.commit 1, 111⟩,
    ⟨.commit 1, 112⟩, ⟨.raise 1 "database is locked", 113⟩,
    ⟨.settle 1 30, 114⟩, ⟨.claim .network "third" none, 150⟩,
    ⟨.commit 1, 151⟩, ⟨.commit 1, 152⟩, ⟨.commit 1, 153⟩,
    ⟨.commit 1, 154⟩, ⟨.commit 1, 155⟩, ⟨.commit 1, 156⟩,
    ⟨.commit 1, 157⟩, ⟨.commit 1, 158⟩,
    ⟨.removeStaging 1 (some ["staging", "work", "clip.mp4"]), 159⟩]

theorem prepared_publishedClip : Prepared publishedClip where
  unique := by
    intro left right leftRow rightRow foundLeft
    cases foundLeft
  records := by
    intro key row found
    have entry := (Table.get_eq_some_iff _ _ _).mp found
    simp only [publishedClip, Table.insert, Table.empty, List.nil_append,
      List.cons_append, List.mem_cons, Prod.mk.injEq, List.not_mem_nil,
      or_false] at entry
    rcases entry with ⟨-, rfl⟩ | ⟨-, rfl⟩
    · apply Queue.WellFormed.of_terminal <;> decide
    · apply Queue.WellFormed.of_waiting <;> decide
  idle _ := rfl

/-- No new tasks are enqueued. -/
def enqueuesNothing (action : Action) : Bool :=
  match action.event with
  | .queue _ => false
  | _ => true

theorem positiveAttempts_of_enqueuesNothing {action : Action}
    (nothing : enqueuesNothing action = true) : positiveAttempts action := by
  rcases action with ⟨event, now⟩
  cases event with
  | queue => cases nothing
  | _ => trivial

/-- The handler has come to its end. -/
def isIndexed : Stage → Bool
  | .indexed .. => true
  | _ => false

/-- The INDEX tasks have no other work id. -/
def haveWorkId (workId : String) (tasks : Table TaskRow) : Bool :=
  !tasks.any fun _ row => row.type == .index &&
    (strField (row.payloadJson.getD []) "work_id").any (· != workId)

theorem hasWorkIds_of_haveWorkId {workId : String} {tasks : Table TaskRow}
    (have' : haveWorkId workId tasks = true) :
    HasWorkIds (· = workId) tasks := by
  intro key row other found isIndex isField
  by_contra different
  rw [haveWorkId, Bool.not_eq_true', ← Bool.not_eq_true] at have'
  apply have'
  rw [Table.any_eq_true_iff]
  refine ⟨key, row, found, ?_⟩
  simp [isIndex, isField, different]

theorem index_crash_idempotent_stoppedTwice :
    ∃ after execution indexing stagingDeleted settled,
      Steps (step stagingEnvironment) (isOrdinary (· = "work"))
        publishedClip after ∧
      after.executions.get 1 = some execution ∧
      execution.stage = .indexed indexing stagingDeleted ∧
      step stagingEnvironment after ⟨.settle 1 30, 160⟩ = some settled ∧
      Published stagingEnvironment (· = "work") publishedClip settled
        execution.taskId indexing ∧
      settled.files ["media", "clip.mp4"] = some "clip" := by
  have executes : ((run (fun state action =>
      if enqueuesNothing action && haveWorkId "work" state.db.task then
        step stagingEnvironment state action
      else none) publishedClip stoppedTwice).any fun after =>
        (after.executions.get 1).any (fun execution =>
          isIndexed execution.stage) &&
        (step stagingEnvironment after ⟨.settle 1 30, 160⟩).isSome) =
      true := by
    decide +kernel
  rcases (Option.any_eq_true _ _).mp executes with ⟨after, ran, reached⟩
  rw [Bool.and_eq_true, Option.isSome_iff_exists] at reached
  rcases reached with ⟨indexes, settled, settles⟩
  rcases (Option.any_eq_true _ _).mp indexes with
    ⟨execution, found, isIndexed⟩
  have ordinary : ∀ (state : State String) (action : Action),
      (enqueuesNothing action && haveWorkId "work" state.db.task) = true →
      isOrdinary (· = "work") state action := by
    intro state action holds
    rw [Bool.and_eq_true] at holds
    exact ⟨hasWorkIds_of_haveWorkId holds.2,
      positiveAttempts_of_enqueuesNothing holds.1⟩
  have steps := Steps.of_checked_run _ ordinary stoppedTwice ran
  cases reaches : execution.stage with
  | indexed indexing stagingDeleted =>
      have published := (index_crash_idempotent prepared_publishedClip steps
        found).1 stagingDeleted 30 160 settled reaches settles
      refine ⟨after, execution, indexing, stagingDeleted, settled, steps,
        found, reaches, settles, published, ?_⟩
      apply published.files
      rintro _ rfl
      decide
  | _ =>
      rw [reaches] at isIndexed
      cases isIndexed

end Sluicery.System.IndexCrash
