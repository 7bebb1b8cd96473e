import Sluicery.System.Endings

/-!
# Stranded Targets

A Target in progress is not selected by the download phase, so some task has
to move it on.  The INDEX task of its pipeline does: as long as it has neither
ended nor reached its Target, the Target's progress can end.  The invariant
fails at one place: the first part of a handler takes up a Target which was
given up when its INDEX task was cancelled.
-/

namespace Sluicery.System

open Sluicery.Library Sluicery.Library.Transition
open Sluicery.Db Sluicery.Db.TaskRepository
open Sluicery.Core Sluicery.Tasks Sluicery.Tasks.Handlers

/-! ## The INDEX task of a Target -/

/-- An unfinished INDEX task of the Target. -/
def isIndexOf (targetId : Nat) (row : TaskRow) : Bool :=
  row.type == .index && row.targetRefId == targetId &&
    isUnfinished row.status

/-- The handler has passed its Target, and did not fail. -/
def passed : Stage → Bool
  | .working _ => true
  | .returned result => result.outcome == .succeeded
  | _ => false

/-- The INDEX handler has passed its Target and can end its task. -/
def indexed (execution : Execution) : Bool :=
  execution.task.type == .index && !execution.released &&
    passed execution.stage

/-- An INDEX task has the Target still before it. -/
def awaitsIndex (state : State) (targetId : Nat) : Bool :=
  state.db.task.any fun taskId row =>
    isIndexOf targetId row &&
      !state.executions.any fun _ execution =>
        execution.taskId == taskId && indexed execution

theorem awaitsIndex_iff (state : State) (targetId : Nat) :
    awaitsIndex state targetId = true ↔
      ∃ taskId row, state.db.task.get taskId = some row ∧
        row.type = .index ∧ row.targetRefId = targetId ∧
        isUnfinished row.status = true ∧
        ∀ key execution, state.executions.get key = some execution →
          execution.taskId = taskId → indexed execution = false := by
  have noneIndexed : ∀ taskId,
      (!state.executions.any fun _ execution =>
        execution.taskId == taskId && indexed execution) = true ↔
      ∀ key execution, state.executions.get key = some execution →
        execution.taskId = taskId → indexed execution = false := by
    intro taskId
    rw [Bool.not_eq_true', ← Bool.not_eq_true, Table.any_eq_true_iff]
    simp
  simp only [awaitsIndex, Table.any_eq_true_iff, Bool.and_eq_true,
    noneIndexed, isIndexOf, beq_iff_eq, and_assoc]

/-- The statuses from which a handler takes up a Target it gave up before. -/
def givenUp : List TargetStatus :=
  [.pending, .failed, .blocked]

/--
The step is the first part of a handler which takes up a Target after its
pipeline was given up: no INDEX task waits for the Target any more.
-/
def reopensEnded (state : State) (action : Action) : Bool :=
  match action.event with
  | .start key =>
      (state.executions.get key).any fun execution =>
        (takesUp state.db execution).any fun targetId =>
          ((state.db.target.get targetId).any fun target =>
            givenUp.contains target.status) &&
            !awaitsIndex state targetId
  | _ => false

/-- Every Target in progress has its INDEX task before it. -/
def NotStranded (state : State) : Prop :=
  ∀ targetId target, state.db.target.get targetId = some target →
    isInProgress target.status = true → awaitsIndex state targetId = true

/-! ## The handlers pass their own Target -/

theorem indexed_of_succeeds
    {tasks : Table TaskRow} {execution : Execution} {row : TaskRow}
    (good : GoodExecution tasks execution)
    (found : tasks.get execution.taskId = some row)
    (isIndex : row.type = .index)
    (succeeds : Succeeds execution) : indexed execution = true := by
  obtain ⟨notReleased, result, isStage, succeeded⟩ := succeeds
  obtain ⟨other, foundOther, same⟩ := good.task
  rw [found, Option.some.injEq] at foundOther
  subst foundOther
  simp only [fixedColumns, Prod.mk.injEq] at same
  simp [indexed, passed, notReleased, isStage, succeeded, ← same.1,
    isIndex]

theorem indexAdvance_passed
    (db : Database) (artifact : ArtifactRow) (work : Work) (now : Time)
    (passes : passed (startedStage (indexAdvance db artifact work now).1) =
      true) :
    OutOfProgress (indexAdvance db artifact work now).2.target
      work.targetId := by
  rcases indexAdvance_cases db now artifact work with
    ⟨artifactId, -, ⟨target, found, isDownloaded⟩, -⟩ |
    ⟨returned | ⟨message, raised⟩, -⟩
  · intro row foundRow
    rw [found, Option.some.injEq] at foundRow
    subst foundRow
    rw [isDownloaded]
    rfl
  · rw [returned] at passes
    cases passes
  · rw [raised] at passes
    cases passes

/-- An INDEX handler which goes on has taken its Target to the end. -/
theorem startHandler_indexed
    {state : State} {execution : Execution}
    {parseDatetime : String → Option Time} {now : Time}
    {started : Started × Database}
    (good : GoodExecution state.db.task execution)
    (starts : startHandler state.db execution parseDatetime now =
      some started)
    (passes : indexed
      { execution with stage := startedStage started.1 } = true) :
    OutOfProgress started.2.target execution.task.targetRefId := by
  simp only [indexed, Bool.and_eq_true, beq_iff_eq] at passes
  obtain ⟨⟨isIndex, -⟩, goesOn⟩ := passes
  have named := good.good.names (good.good.index isIndex)
  simp only [startHandler, isIndex, Option.some.injEq] at starts
  subst starts
  -- Every exit before the work is a failure or an exception.
  revert goesOn
  unfold indexStart
  split
  · next target workId isTarget _ =>
      simp only [intField, named, Option.bind_some, asInt,
        Option.some.injEq] at isTarget
      subst isTarget
      dsimp only
      split
      · exact fun impossible => nomatch impossible
      · split
        · exact fun goesOn => indexAdvance_passed _ _ _ _ goesOn
        · exact fun impossible => nomatch impossible
  · exact fun impossible => nomatch impossible

/-- What the other events do to an execution does not pass a Target. -/
theorem indexed_before
    {environment : Environment} {state state' : State} {action : Action}
    {key : Nat} {execution : Execution}
    (wellFormed : WellFormed state)
    (changed :
      ExecutionChange environment state state' action key execution)
    (passes : indexed execution = true) :
    (∃ before, state.executions.get key = some before ∧
      before.taskId = execution.taskId ∧ indexed before = true) ∨
    ∃ row, state.db.task.get execution.taskId = some row ∧
      OutOfProgress state'.db.target row.targetRefId := by
  cases changed with
  | @kept before _ found taskId task stage released =>
      refine Or.inl ⟨before, found, taskId.symm, ?_⟩
      simp only [indexed, Bool.and_eq_true, Bool.not_eq_true'] at passes ⊢
      rw [← task, ← stage]
      exact ⟨⟨passes.1.1, released passes.1.2⟩, passes.2⟩
  | @started before started isEvent found claimed starts database =>
      have good := wellFormed.executions key before found
      obtain ⟨row, foundRow, same⟩ := good.task
      simp only [fixedColumns, Prod.mk.injEq] at same
      refine Or.inr ⟨row, foundRow, ?_⟩
      rw [database, same.2.2.1]
      exact startHandler_indexed good starts passes
  | @finished before work answer finished isEvent found working finishes =>
      refine Or.inl ⟨before, found, rfl, ?_⟩
      simp only [indexed, Bool.and_eq_true] at passes ⊢
      rw [working]
      exact ⟨passes.1, rfl⟩
  | raised =>
      simp [indexed, passed] at passes
  | claimed =>
      simp [indexed, passed] at passes

/-! ## The invariant -/

/-- The INDEX task stays, or the Target's progress ends. -/
theorem awaitsIndex_step
    {environment : Environment} {state state' : State} {action : Action}
    {targetId : Nat} {target' : TargetRow}
    (wellFormed : WellFormed state)
    (taken : step environment state action = some state')
    (awaits : awaitsIndex state targetId = true)
    (found' : state'.db.target.get targetId = some target')
    (inProgress : isInProgress target'.status = true) :
    awaitsIndex state' targetId = true := by
  obtain ⟨taskId, row, found, isIndex, rfl, unfinished, noneIndexed⟩ :=
    (awaitsIndex_iff state targetId).mp awaits
  have isTarget := (wellFormed.tasks taskId row found).index isIndex
  have notSucceeding : ∀ key execution,
      state.executions.get key = some execution →
        execution.taskId = taskId → ¬ Succeeds execution := by
    intro key execution foundExecution isTask succeeds
    have passes := indexed_of_succeeds
      (wellFormed.executions key execution foundExecution)
      (isTask.symm ▸ found) isIndex succeeds
    rw [noneIndexed key execution foundExecution isTask] at passes
    cases passes
  rcases unfinished_cases wellFormed found isTarget unfinished notSucceeding
      taken with ⟨row', foundRow', unfinished'⟩ | out
  · obtain ⟨-, -, kept⟩ := wellFormed_tasks wellFormed taken
    obtain ⟨again, foundAgain, same⟩ := kept taskId row found
    rw [foundRow', Option.some.injEq] at foundAgain
    subst foundAgain
    simp only [fixedColumns, Prod.mk.injEq] at same
    refine (awaitsIndex_iff state' row.targetRefId).mpr ⟨taskId, row',
      foundRow', by rw [same.1, isIndex], same.2.2.1, unfinished', ?_⟩
    intro key execution foundExecution isTask
    by_contra passes
    rw [Bool.not_eq_false] at passes
    rcases indexed_before wellFormed (execution_cases taken foundExecution)
        passes with
      ⟨before, foundBefore, sameTask, passedBefore⟩ | ⟨other, foundOther, out⟩
    · rw [noneIndexed key before foundBefore (sameTask.trans isTask)]
        at passedBefore
      cases passedBefore
    · rw [isTask, found, Option.some.injEq] at foundOther
      subst foundOther
      rw [out target' found'] at inProgress
      cases inProgress
  · rw [out target' found'] at inProgress
    cases inProgress

/-- A new pipeline has its INDEX task before it. -/
theorem awaitsIndex_enqueueTarget
    {environment : Environment} {state state' : State} {now : Time}
    {targetId : Nat} {runId : Option Nat} {workId : String}
    {maxAttempts : Nat}
    (wellFormed : WellFormed state)
    (taken : step environment state
      ⟨.enqueueTarget targetId runId workId maxAttempts, now⟩ = some state') :
    state' = state ∨ awaitsIndex state' targetId = true := by
  obtain ⟨enqueued, enqueues, rfl⟩ := Option.map_eq_some_iff.mp taken
  unfold enqueueTargetPipeline at enqueues
  split at enqueues
  · cases enqueues
  · obtain rfl := Option.some.inj enqueues
    exact Or.inl rfl
  · obtain rfl := Option.some.inj enqueues
    obtain ⟨key, row, missing, found, isIndex⟩ := enqueuePipeline_index
      state.db.task targetId runId workId maxAttempts
    have task := (enqueuePipeline_extends state.db.task targetId runId
      workId maxAttempts).new missing found
    refine Or.inr ((awaitsIndex_iff _ targetId).mpr ⟨key, row, found,
      isIndex, task.targetRefId, ?_, ?_⟩)
    · rw [task.fresh.status]
      rfl
    · intro other execution foundExecution isTask
      obtain ⟨old, foundOld, -⟩ :=
        (wellFormed.executions other execution foundExecution).task
      rw [isTask, missing] at foundOld
      cases foundOld

theorem notStranded_step
    {environment : Environment} {state state' : State} {action : Action}
    (wellFormed : WellFormed state)
    (notStranded : NotStranded state)
    (permitted : reopensEnded state action = false)
    (taken : step environment state action = some state') :
    NotStranded state' := by
  intro targetId target' found' inProgress'
  rcases target_cases taken found' inProgress' with
    ⟨target, found, inProgress⟩ | enters
  · exact awaitsIndex_step wellFormed taken
      (notStranded targetId target found inProgress) found' inProgress'
  · obtain ⟨event, now⟩ := action
    cases enters with
    | queued isEvent =>
        dsimp only at isEvent
        subst isEvent
        rcases awaitsIndex_enqueueTarget wellFormed taken with rfl | awaits
        · exact notStranded targetId target' found' inProgress'
        · exact awaits
    | takenUp isEvent foundExecution takes =>
        dsimp only at isEvent
        subst isEvent
        obtain ⟨target, status, found, advances, isStage, -⟩ := takes.moves
        refine awaitsIndex_step wellFormed taken ?_ found' inProgress'
        by_cases inProgress : isInProgress target.status = true
        · exact notStranded targetId target found inProgress
        · by_contra awaits
          -- The Target was given up, and the condition excludes the step.
          have isGivenUp : givenUp.contains target.status = true := by
            revert advances inProgress
            rcases isStage with rfl | rfl <;> cases target.status <;> decide
          simp [reopensEnded, foundExecution, takes.named, found, awaits]
            at permitted
          exact absurd isGivenUp (by simpa using permitted)

/-! ## The main result -/

/-- Nothing was enqueued yet, and no Target is in progress. -/
structure Idle (state : State) : Prop where
  tasks : state.db.task = .empty
  executions : state.executions = .empty
  targets (targetId : Nat) : OutOfProgress state.db.target targetId

theorem Idle.notStranded {state : State} (idle : Idle state) :
    NotStranded state := by
  intro targetId target found inProgress
  rw [idle.targets targetId target found] at inProgress
  cases inProgress

/--
In every run in which no handler takes up a Target whose pipeline was given
up, every Target in progress is named by an unfinished task of a pipeline.
-/
theorem target_in_progress_has_task
    {environment : Environment} {start state : State}
    (idle : Idle start)
    (steps : Steps (step environment)
      (fun state action => reopensEnded state action = false) start state)
    {targetId : Nat} {target : TargetRow}
    (found : state.db.target.get targetId = some target)
    (inProgress : isInProgress target.status = true) :
    ∃ taskId task, state.db.task.get taskId = some task ∧
      task.targetRefType = "target" ∧ task.targetRefId = targetId ∧
      task.type ∈ pipelineSteps.map Prod.fst ∧
      isUnfinished task.status = true := by
  obtain ⟨wellFormed, notStranded⟩ := steps.invariant
    (fun state => WellFormed state ∧ NotStranded state)
    ⟨wellFormed_of_no_tasks idle.tasks idle.executions, idle.notStranded⟩
    fun _ _ _ ⟨wellFormed, notStranded⟩ permitted taken =>
      ⟨wellFormed_step wellFormed taken,
        notStranded_step wellFormed notStranded permitted taken⟩
  obtain ⟨taskId, task, foundTask, isIndex, isId, unfinished, -⟩ :=
    (awaitsIndex_iff state targetId).mp
      (notStranded targetId target found inProgress)
  exact ⟨taskId, task, foundTask,
    (wellFormed.tasks taskId task foundTask).index isIndex, isId,
    by rw [isIndex]; decide, unfinished⟩

/-- One Playlist with one Item and one assignment. -/
def onePlaylist : State where
  db :=
    { storage := Table.empty.insert { name := "storage", kind := .local }
      profile := Table.empty.insert { name := "profile", kind := .video }
      playlist :=
        Table.empty.insert { name := "playlist", folderName := "playlist" }
      playlistProfile := Table.empty.insert
        { playlistId := 1, profileId := 1, storageId := 1 }
      item := Table.empty.insert { playlistId := 1, sourceId := "item" } }

/-- Settings of a worker, and no date. -/
def oneWorker : Environment where
  config := { blockedRetry := 60, blockedRetry403 := 3600,
              staleThreshold := 100 }
  parseDatetime := fun _ => none

theorem idle_onePlaylist : Idle onePlaylist :=
  ⟨rfl, rfl, fun targetId _ found => by simp [onePlaylist] at found⟩

/-- The download of a new Target, up to its external work. -/
def startedDownload : List Action :=
  [⟨.createTarget 1 1, 0⟩,
    ⟨.enqueueTarget 1 none "work" 5, 0⟩,
    ⟨.claim .network "network" none, 0⟩,
    ⟨.start 1, 0⟩]

theorem target_in_progress_has_task_startedDownload :
    ∃ state, run (step oneWorker) onePlaylist startedDownload = some state ∧
      ∃ taskId task, state.db.task.get taskId = some task ∧
        task.targetRefType = "target" ∧ task.targetRefId = 1 ∧
        task.type ∈ pipelineSteps.map Prod.fst ∧
        isUnfinished task.status = true := by
  refine ⟨_, rfl, ?_⟩
  exact @target_in_progress_has_task oneWorker onePlaylist _
    idle_onePlaylist
    (Steps.of_checked_run
      (fun state action => !reopensEnded state action)
      (fun _ _ passes => by simpa using passes) startedDownload rfl)
    1 _ rfl rfl

/--
The download of a Target runs while its waiting postprocess task is cancelled,
so the Target fails; the verify task, which was not cancelled, takes it up.
-/
def cancelledLaterLink : List Action :=
  startedDownload ++
    [⟨.webCancelTask 3, 1⟩,
      ⟨.finish 1 (.download (.file "work/file.mp4" 1000 none)), 2⟩,
      ⟨.settle 1 0, 2⟩,
      ⟨.claim .compute "compute" none, 3⟩,
      ⟨.start 1, 3⟩,
      ⟨.finish 1 (.verify (.probed
        { container := some "mp4", videoCodec := none, audioCodec := none,
          duration := some 60 } 1000 "2026-01-01T00:00:00+00:00")), 4⟩,
      ⟨.settle 1 0, 4⟩]

/-- Then the Target stays in processing and no task of it is unfinished. -/
theorem stranded_after_cancelledLaterLink :
    ∃ state,
      run (step oneWorker) onePlaylist cancelledLaterLink = some state ∧
      (state.db.target.get 1).map TargetRow.status = some .processing ∧
      (state.db.task.any fun _ task =>
        task.targetRefId == 1 && isUnfinished task.status) = false ∧
      (state.executions.any fun _ _ => true) = false := by
  refine ⟨_, rfl, ?_, ?_, ?_⟩
  · rfl
  · rfl
  · rfl

end Sluicery.System
