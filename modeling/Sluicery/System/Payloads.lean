import Sluicery.System.TaskSteps

/-!
# Payloads name the Target

A pipeline task names its Target twice: in `target_ref_id` and in the
`target_id` of its payload, which the handlers read.  The two agree in every
reachable state, because a handler's result merges the payload of the task
it depends on, and dependencies lead to tasks of the same Target.
-/

namespace Sluicery.System

open Sluicery.Library Sluicery.Library.Transition
open Sluicery.Db Sluicery.Db.TaskRepository
open Sluicery.Core Sluicery.Tasks Sluicery.Tasks.Handlers

/-! ## Task rows -/

/-- Every `target_id` among the fields is this Target. -/
abbrev AgreesOnTarget (targetId : Nat) (fields : Json.Fields) : Prop :=
  Json.Agrees "target_id" (.int targetId) fields

/-- The payload of a pipeline task names its Target. -/
structure GoodTask (row : TaskRow) : Prop where
  index (isIndex : row.type = .index) : row.targetRefType = "target"
  discover (isDiscover : row.type = .discover) :
    row.targetRefType ≠ "target" ∧ row.dependsOnTaskId = none
  names (isTarget : row.targetRefType = "target") :
    Json.lookup (row.payloadJson.getD []) "target_id" =
      some (.int row.targetRefId)
  agrees (isTarget : row.targetRefType = "target") :
    AgreesOnTarget row.targetRefId (row.payloadJson.getD [])

/-- A task depends on a task of the same Target. -/
def SameTarget (tasks : Table TaskRow) : Prop :=
  ∀ child parent row, tasks.get child = some row →
    row.dependsOnTaskId = some parent →
      ∃ parentRow, tasks.get parent = some parentRow ∧
        parentRow.targetRefType = row.targetRefType ∧
        parentRow.targetRefId = row.targetRefId

/-- What a queue action may write into payloads. -/
def KeepsTarget (tasks : Table TaskRow) : Queue.Action → Prop
  | .enqueue type targetRefType .. =>
      type ≠ .index ∧ targetRefType ≠ "target"
  | .write taskId _ (.resultPayload values) =>
      ∀ row, tasks.get taskId = some row → row.targetRefType = "target" →
        AgreesOnTarget row.targetRefId values
  | .createTestTask .. | .writeProgress .. => False
  | _ => True

theorem payloadJson_values (change : Change) (row : TaskRow)
    (notPayload : ∀ fields, change ≠ .payload fields) :
    (changes.values change row).payloadJson = row.payloadJson := by
  cases change with
  | payload fields => exact absurd rfl (notPayload fields)
  | requestCancel requestedAt =>
      by_cases running : row.status = .running <;>
        simp [changes, Change.values, requestCancelValues, running]
  | _ => rfl

/-- The patch of a progress write sets one field. -/
theorem patchedFields_progress (payload progress : Json.Fields) :
    ∃ value, patchedFields payload [("progress", .obj progress)] =
      Json.set payload "progress" value := by
  simp only [patchedFields, Json.mergePatch, Json.mergeFields]
  exact ⟨_, rfl⟩

theorem GoodTask.of_fixedColumns
    {row row' : TaskRow} (good : GoodTask row)
    (same : fixedColumns row' = fixedColumns row)
    (samePayload : row'.payloadJson = row.payloadJson) : GoodTask row' := by
  simp only [fixedColumns, Prod.mk.injEq] at same
  constructor
  · rw [same.1, same.2.1]
    exact good.index
  · rw [same.1, same.2.1, same.2.2.2.2.2.1]
    exact good.discover
  · rw [same.2.1, same.2.2.1, samePayload]
    exact good.names
  · rw [same.2.1, same.2.2.1, samePayload]
    exact good.agrees

/-- A payload in which the Target is the same. -/
theorem GoodTask.withPayload
    {row : TaskRow} {fields : Json.Fields} (good : GoodTask row)
    (names : row.targetRefType = "target" →
      Json.lookup fields "target_id" = some (.int row.targetRefId))
    (agrees : row.targetRefType = "target" →
      AgreesOnTarget row.targetRefId fields) :
    GoodTask (payloadValues fields row) :=
  ⟨good.index, good.discover, names, agrees⟩

theorem goodTask_of_update
    {row : TaskRow} {values : Json.Fields} (good : GoodTask row)
    (agrees : row.targetRefType = "target" →
      AgreesOnTarget row.targetRefId values) :
    GoodTask
      (payloadValues (Json.update (row.payloadJson.getD []) values) row) :=
  good.withPayload
    (fun isTarget =>
      Json.lookup_update_of_agrees (good.names isTarget) (agrees isTarget))
    (fun isTarget => (good.agrees isTarget).update (agrees isTarget))

theorem goodTask_of_progress
    {row : TaskRow} {progress : Json.Fields} (good : GoodTask row) :
    GoodTask
      (payloadValues (patchedFields (row.payloadJson.getD [])
        [("progress", .obj progress)]) row) := by
  obtain ⟨value, isSet⟩ :=
    patchedFields_progress (row.payloadJson.getD []) progress
  rw [isSet]
  refine good.withPayload (fun isTarget => ?_) (fun isTarget => ?_)
  · rw [Json.lookup_set, if_neg (by decide)]
    exact good.names isTarget
  · exact (good.agrees isTarget).set fun isTargetKey => by
      simp at isTargetKey

theorem goodTask_of_pipelineTask
    {before after : Table TaskRow} {targetId : Nat} {workId : String}
    {row : TaskRow}
    (task : PipelineTask before after targetId workId row) :
    GoodTask row := by
  refine ⟨fun _ => task.targetRefType, fun isDiscover => ?_, fun _ => ?_,
    fun _ field member isTarget => ?_⟩
  · have step := task.step
    simp [isDiscover, pipelineSteps] at step
  · rw [task.payload, task.targetRefId]
    rfl
  · rw [task.payload] at member
    simp only [Option.getD_some, List.mem_cons, List.not_mem_nil,
      or_false] at member
    rcases member with rfl | rfl
    · simp at isTarget
    · rw [task.targetRefId]

/-- The tasks of the system and those of the queue keep their Targets. -/
theorem goodTask_step
    {tasks tasks' : Table TaskRow} {action : Queue.Action}
    (good : ∀ key row, tasks.get key = some row → GoodTask row)
    (keeps : KeepsTarget tasks action)
    (taken : Queue.step tasks action = some tasks') :
    ∀ key row, tasks'.get key = some row → GoodTask row := by
  intro key row' found'
  cases insert : Queue.isInsert action with
  | true =>
      have inserts := Queue.step_inserts insert taken
      cases found : tasks.get key with
      | some row =>
          have kept := inserts.kept found
          rw [found', Option.some.injEq] at kept
          exact kept ▸ good key row found
      | none =>
          cases action with
          | enqueue =>
              obtain rfl := Option.some.inj taken
              rw [TaskRepository.enqueue, Table.get_insert, found] at found'
              split at found'
              · obtain rfl := Option.some.inj found'
                exact ⟨fun isIndex => absurd isIndex keeps.1,
                  fun _ => ⟨keeps.2, rfl⟩,
                  fun isTarget => absurd isTarget keeps.2,
                  fun isTarget => absurd isTarget keeps.2⟩
              · cases found'
          | enqueuePipeline targetId runId workId maxAttempts =>
              obtain rfl := Option.some.inj taken
              exact goodTask_of_pipelineTask ((enqueuePipeline_extends tasks
                targetId runId workId maxAttempts).new found found')
          | createTestTask => exact keeps.elim
          | _ => cases insert
  | false =>
      have rewrites := Queue.step_rewrites insert taken
      obtain ⟨row, found, chain⟩ := rewrites.origin found'
      refine chain.invariant GoodTask (good key row found) ?_
      intro change other holds enabled allowed
      cases change with
      | payload fields =>
          cases allowed with
          | @write _ _ write _ _ foundOther owner isChange =>
              cases write with
              | resultPayload values =>
                  obtain rfl := Change.payload.inj isChange
                  exact goodTask_of_update holds (keeps other foundOther)
              | progress progress =>
                  obtain rfl := Change.payload.inj isChange
                  exact goodTask_of_progress holds
              | _ => cases isChange
          | writeProgress => exact keeps.elim
      | _ =>
          exact holds.of_fixedColumns (fixedColumns_values _ other)
            (payloadJson_values _ other fun _ impossible => by
              cases impossible)

theorem sameTarget_step
    {tasks tasks' : Table TaskRow} {action : Queue.Action}
    (sameTarget : SameTarget tasks)
    (taken : Queue.step tasks action = some tasks') : SameTarget tasks' := by
  have kept : ∀ {key : Nat} {row : TaskRow}, tasks.get key = some row →
      ∃ row', tasks'.get key = some row' ∧
        fixedColumns row' = fixedColumns row :=
    fun found => Queue.step_fixedColumns taken found
  -- The dependency of an old row is the old one.
  have old : ∀ {child parent : Nat} {row row' : TaskRow},
      tasks.get child = some row → tasks'.get child = some row' →
      row'.dependsOnTaskId = some parent →
      ∃ parentRow, tasks'.get parent = some parentRow ∧
        parentRow.targetRefType = row'.targetRefType ∧
        parentRow.targetRefId = row'.targetRefId := by
    intro child parent row row' found found' named
    obtain ⟨again, foundAgain, same⟩ := kept found
    rw [found', Option.some.injEq] at foundAgain
    subst foundAgain
    simp only [fixedColumns, Prod.mk.injEq] at same
    obtain ⟨parentRow, foundParent, sameType, sameId⟩ :=
      sameTarget child parent row found (same.2.2.2.2.2.1 ▸ named)
    obtain ⟨parentRow', foundParent', sameParent⟩ := kept foundParent
    simp only [fixedColumns, Prod.mk.injEq] at sameParent
    refine ⟨parentRow', foundParent', ?_, ?_⟩
    · rw [sameParent.2.1, sameType, same.2.1]
    · rw [sameParent.2.2.1, sameId, same.2.2.1]
  intro child parent row' found' named
  cases found : tasks.get child with
  | some row => exact old found found' named
  | none =>
      cases insert : Queue.isInsert action with
      | false =>
          rw [(Queue.step_rewrites insert taken).absent found] at found'
          cases found'
      | true =>
          cases action with
          | enqueue | createTestTask =>
              obtain rfl := Option.some.inj taken
              simp only [TaskRepository.enqueue,
                TaskRepository.createTestTask, Table.get_insert, found]
                at found'
              split at found'
              · obtain rfl := Option.some.inj found'
                cases named
              · cases found'
          | enqueuePipeline targetId runId workId maxAttempts =>
              obtain rfl := Option.some.inj taken
              have task := (enqueuePipeline_extends tasks targetId runId
                workId maxAttempts).new found found'
              obtain ⟨-, parentRow, foundParent, isTarget, isId⟩ :=
                task.dependency named
              refine ⟨parentRow, foundParent, ?_, ?_⟩
              · rw [isTarget, task.targetRefType]
              · rw [isId, task.targetRefId]
          | _ => cases insert

/-- Everything below a task belongs to its Target. -/
theorem SameTarget.of_transitively
    {tasks : Table TaskRow} (sameTarget : SameTarget tasks)
    {key root : Nat} {row : TaskRow}
    (below : DependsOnTransitively tasks key root)
    (found : tasks.get key = some row) :
    ∃ rootRow, tasks.get root = some rootRow ∧
      rootRow.targetRefType = row.targetRefType ∧
      rootRow.targetRefId = row.targetRefId := by
  induction below using Relation.TransGen.head_induction_on generalizing row
    with
  | single first =>
      obtain ⟨row', found', named⟩ := first
      rw [found, Option.some.injEq] at found'
      subst found'
      exact sameTarget _ _ _ found named
  | head first _ induction =>
      obtain ⟨row', found', named⟩ := first
      rw [found, Option.some.injEq] at found'
      subst found'
      obtain ⟨parentRow, foundParent, sameType, sameId⟩ :=
        sameTarget _ _ _ found named
      obtain ⟨rootRow, foundRoot, rootType, rootId⟩ := induction foundParent
      exact ⟨rootRow, foundRoot, rootType.trans sameType,
        rootId.trans sameId⟩

/-! ## Executions -/

/-- What a handler keeps and returns names no other Target. -/
def StageAgrees (targetId : Nat) : Stage → Prop
  | .working work => AgreesOnTarget targetId work.previous
  | .returned result =>
      ∀ values, result.payloadUpdate = some values →
        AgreesOnTarget targetId values
  | _ => True

/-- The execution belongs to a task, and its handler to the task's Target. -/
structure GoodExecution (tasks : Table TaskRow) (execution : Execution) :
    Prop where
  task : ∃ row, tasks.get execution.taskId = some row ∧
    fixedColumns row = fixedColumns execution.task
  good : GoodTask execution.task
  stage (isTarget : execution.task.targetRefType = "target") :
    StageAgrees execution.task.targetRefId execution.stage

/-- Payloads name the Target, in tasks, handlers and results. -/
structure WellFormed (state : State) : Prop where
  tasks : ∀ key row, state.db.task.get key = some row → GoodTask row
  sameTarget : SameTarget state.db.task
  executions : ∀ key execution,
    state.executions.get key = some execution →
      GoodExecution state.db.task execution

/-- The results of a handler which keep the payload of its dependency. -/
theorem stageAgrees_update
    {targetId : Nat} {outcome : TaskOutcome} {message reasonCode : Option String}
    {previous values : Json.Fields}
    (agrees : AgreesOnTarget targetId previous)
    (others : ∀ value ∈ values, value.1 ≠ "target_id") :
    StageAgrees targetId (.returned
      { outcome, message, reasonCode,
        payloadUpdate := some (Json.update previous values) }) := by
  intro update isUpdate
  obtain rfl := Option.some.inj isUpdate
  exact Json.Agrees.update agrees
    fun value member isTarget => absurd isTarget (others value member)

theorem stageAgrees_of_no_update
    {targetId : Nat} {result : TaskResult}
    (none : result.payloadUpdate = none) :
    StageAgrees targetId (.returned result) := by
  intro values isUpdate
  rw [none] at isUpdate
  cases isUpdate

/-- The payload of the dependency names the same Target. -/
theorem dependencyPayload_agrees
    {state : State} {execution : Execution} {previous : Json.Fields}
    (wellFormed : WellFormed state)
    (good : GoodExecution state.db.task execution)
    (isTarget : execution.task.targetRefType = "target")
    (reads : dependencyPayload state.db.task execution.taskId =
      .ok previous) :
    AgreesOnTarget execution.task.targetRefId previous := by
  obtain ⟨row, found, same⟩ := good.task
  simp only [fixedColumns, Prod.mk.injEq] at same
  simp only [dependencyPayload, found] at reads
  split at reads
  · cases reads
    intro field member
    cases member
  · next parent named =>
      obtain ⟨parentRow, foundParent, sameType, sameId⟩ :=
        wellFormed.sameTarget _ _ _ found named
      rw [foundParent] at reads
      dsimp only at reads
      split at reads
      · cases reads
        have agrees := (wellFormed.tasks _ _ foundParent).agrees
          (by rw [sameType, same.2.1, isTarget])
        rwa [sameId, same.2.2.1] at agrees
      · cases reads

section Stages

variable {targetId : Nat}

theorem advanceFor_agrees
    (db : Database) (target : Nat) (status : TargetStatus) (now : Time)
    (failure : String) {work : Work}
    (agrees : AgreesOnTarget targetId work.previous) :
    StageAgrees targetId (startedStage
      (advanceFor db target status now failure work).1) := by
  unfold advanceFor
  dsimp only
  split
  · exact agrees
  · trivial
  · exact stageAgrees_of_no_update rfl

theorem transitionThen_agrees
    (db : Database) (target : Nat) (status : TargetStatus)
    (error blockedReason : Option String) (incrementRetry : Bool)
    (now : Time) {result : TaskResult}
    (agrees : StageAgrees targetId (.returned result)) :
    StageAgrees targetId (finishedStage
      (transitionThen db target status error blockedReason incrementRetry
        now result).1) := by
  unfold transitionThen
  split
  · trivial
  · exact agrees

theorem indexAdvance_agrees
    (db : Database) (artifact : ArtifactRow) (now : Time) {work : Work}
    (agrees : AgreesOnTarget targetId work.previous) :
    StageAgrees targetId
      (startedStage (indexAdvance db artifact work now).1) := by
  unfold indexAdvance
  dsimp only
  split <;> exact advanceFor_agrees _ _ _ _ _ agrees

theorem downloadFailure_agrees
    (db : Database) (target : Nat) (classification : Classification)
    (message : String) (reasonCode : Option String) (now : Time) :
    StageAgrees targetId (finishedStage
      (downloadFailure db target classification message reasonCode
        now).1) := by
  unfold downloadFailure
  split
  · trivial
  · exact transitionThen_agrees _ _ _ _ _ _ _ (stageAgrees_of_no_update rfl)

theorem downloadFinish_agrees
    (db : Database) (work : Work) (answer : DownloadAnswer) (now : Time) :
    StageAgrees targetId
      (finishedStage (downloadFinish db work answer now).1) := by
  cases answer with
  | cancelled => exact stageAgrees_of_no_update rfl
  | file filePath filesize formatId =>
      intro values isUpdate
      obtain rfl := Option.some.inj isUpdate
      intro field member isTarget
      simp only [List.mem_cons, List.not_mem_nil, or_false] at member
      rcases member with rfl | rfl | rfl <;> simp at isTarget
  | _ => exact downloadFailure_agrees _ _ _ _ _ _

theorem verifyFinish_agrees
    (db : Database) (answer : VerifyAnswer) (now : Time) {work : Work}
    (agrees : AgreesOnTarget targetId work.previous) :
    StageAgrees targetId
      (finishedStage (verifyFinish db work answer now).1) := by
  have failed := fun message =>
    @transitionThen_agrees targetId db work.targetId .failed
      (some (tail4000 message)) none true now
      { outcome := .failed, message := some (tail4000 message),
        payloadUpdate :=
          some [("verify_error", .str (tail4000 message))] }
      (by
        intro values isUpdate
        obtain rfl := Option.some.inj isUpdate
        intro field member isTarget
        rw [List.mem_singleton] at member
        subst member
        simp at isTarget)
  unfold verifyFinish
  split
  · exact failed _
  · cases answer with
    | cancelled => exact stageAgrees_of_no_update rfl
    | failed message => exact failed message
    | probed media size verifiedAt =>
        exact stageAgrees_update agrees (by simp [verifiedFields])

theorem publishFinish_agrees
    (db : Database) (answer : PublishAnswer) (now : Time) {work : Work}
    (agrees : AgreesOnTarget targetId work.previous) :
    StageAgrees targetId
      (finishedStage (publishFinish db work answer now).1) := by
  unfold publishFinish
  split
  · exact transitionThen_agrees _ _ _ _ _ _ _ (stageAgrees_of_no_update rfl)
  · cases answer with
    | failed =>
        exact transitionThen_agrees _ _ _ _ _ _ _
          (stageAgrees_of_no_update rfl)
    | _ => exact stageAgrees_update agrees (by simp [PublishAnswer.fields])

theorem discoverFinish_agrees
    (db : Database) (payload : Json.Fields) (runId : Option Nat)
    (answer : DiscoverAnswer) (now : Time) :
    StageAgrees targetId
      (.returned (discoverFinish db payload runId answer now).1) := by
  cases answer with
  | failed classification =>
      cases classification <;> exact stageAgrees_of_no_update rfl
  | applied stats =>
      simp only [discoverFinish]
      split
      · intro values isUpdate
        obtain rfl := Option.some.inj isUpdate
        intro field member isTarget
        rw [List.mem_singleton] at member
        subst member
        simp at isTarget
      · exact stageAgrees_of_no_update rfl
  | _ => exact stageAgrees_of_no_update rfl

theorem ended_agrees {finished : Except String TaskResult × Database}
    (agrees : StageAgrees targetId (finishedStage finished.1)) :
    StageAgrees targetId (startedStage (ended finished).1) := by
  unfold ended
  revert agrees
  cases finished.1 with
  | ok result => exact id
  | error message => exact id

end Stages

theorem agreesOnTarget_nil (targetId : Nat) : AgreesOnTarget targetId [] := by
  intro field member
  cases member

/-- The first part of a handler keeps the Target of its task. -/
theorem startHandler_agrees
    {state : State} {execution : Execution}
    {parseDatetime : String → Option Time} {now : Time}
    {started : Started × Database}
    (wellFormed : WellFormed state)
    (good : GoodExecution state.db.task execution)
    (isTarget : execution.task.targetRefType = "target")
    (starts : startHandler state.db execution parseDatetime now =
      some started) :
    StageAgrees execution.task.targetRefId (startedStage started.1) := by
  have reads := fun previous => @dependencyPayload_agrees state execution
    previous wellFormed good isTarget
  unfold startHandler at starts
  dsimp only at starts
  split at starts
  · obtain rfl := Option.some.inj starts
    unfold discoverStart discoverFailed
    dsimp only
    split
    · split
      · exact stageAgrees_of_no_update rfl
      · exact agreesOnTarget_nil _
    · exact stageAgrees_of_no_update rfl
  · obtain rfl := Option.some.inj starts
    unfold downloadStart
    split
    · dsimp only
      split
      · exact stageAgrees_of_no_update rfl
      · split
        · exact advanceFor_agrees _ _ _ _ _ (agreesOnTarget_nil _)
        · exact stageAgrees_of_no_update rfl
    · exact stageAgrees_of_no_update rfl
  · obtain rfl := Option.some.inj starts
    unfold verifyStart
    split
    · exact stageAgrees_of_no_update rfl
    · dsimp only
      split
      · trivial
      · next previous isPrevious =>
          exact advanceFor_agrees _ _ _ _ _ (reads previous isPrevious)
  · obtain rfl := Option.some.inj starts
    unfold postprocessStart
    split
    · exact stageAgrees_of_no_update rfl
    · split
      · trivial
      · next previous isPrevious =>
          split
          · intro values isUpdate
            obtain rfl := Option.some.inj isUpdate
            exact reads previous isPrevious
          · exact stageAgrees_of_no_update rfl
  · obtain rfl := Option.some.inj starts
    unfold publishStart
    split
    · dsimp only
      split
      · trivial
      · next previous isPrevious =>
          split
          · exact ended_agrees (transitionThen_agrees _ _ _ _ _ _ _
              (stageAgrees_of_no_update rfl))
          · exact advanceFor_agrees _ _ _ _ _ (reads previous isPrevious)
    · exact stageAgrees_of_no_update rfl
  · obtain rfl := Option.some.inj starts
    unfold indexStart
    split
    · dsimp only
      split
      · trivial
      · next previous isPrevious =>
          split
          · exact indexAdvance_agrees _ _ _ (reads previous isPrevious)
          · exact stageAgrees_of_no_update rfl
    · exact stageAgrees_of_no_update rfl
  · cases starts

/-- The second part of a handler keeps the Target of its task. -/
theorem finishHandler_agrees
    {db : Database} {execution : Execution} {work : Work} {now : Time}
    {answer : Answer} {finished : Except String TaskResult × Database}
    {targetId : Nat}
    (agrees : AgreesOnTarget targetId work.previous)
    (finishes :
      finishHandler db execution work now answer = some finished) :
    StageAgrees targetId (finishedStage finished.1) := by
  cases answer with
  | download answer =>
      simp only [finishHandler] at finishes
      split at finishes
      · obtain rfl := Option.some.inj finishes
        exact downloadFinish_agrees db work answer now
      · cases finishes
  | verify answer =>
      simp only [finishHandler] at finishes
      split at finishes
      · obtain rfl := Option.some.inj finishes
        exact verifyFinish_agrees db answer now agrees
      · cases finishes
  | publish answer =>
      simp only [finishHandler] at finishes
      split at finishes
      · obtain rfl := Option.some.inj finishes
        exact publishFinish_agrees db answer now agrees
      · cases finishes
  | index stagingDeleted =>
      simp only [finishHandler] at finishes
      split at finishes
      · obtain rfl := Option.some.inj finishes
        exact stageAgrees_update agrees (by simp)
      · cases finishes
  | discover answer =>
      simp only [finishHandler] at finishes
      split at finishes
      · obtain rfl := Option.some.inj finishes
        exact discoverFinish_agrees _ _ _ answer now
      · cases finishes

/-! ## Every event keeps the payloads -/

theorem GoodExecution.withStage
    {tasks : Table TaskRow} {execution : Execution}
    (good : GoodExecution tasks execution) (stage : Stage)
    (agrees : execution.task.targetRefType = "target" →
      StageAgrees execution.task.targetRefId stage) :
    GoodExecution tasks { execution with stage } :=
  ⟨good.task, good.good, agrees⟩

/-- Executions stay with their task while the queue moves on. -/
theorem GoodExecution.of_tasks
    {tasks tasks' : Table TaskRow} {execution : Execution}
    (good : GoodExecution tasks execution)
    (kept : ∀ key row, tasks.get key = some row →
      ∃ row', tasks'.get key = some row' ∧
        fixedColumns row' = fixedColumns row) :
    GoodExecution tasks' execution := by
  obtain ⟨row, found, same⟩ := good.task
  obtain ⟨row', found', same'⟩ := kept _ row found
  exact ⟨⟨row', found', same'.trans same⟩, good.good, good.stage⟩

/-- The task table after an event, for a well-formed state. -/
theorem wellFormed_tasks
    {environment : Environment} {state state' : State} {action : Action}
    (wellFormed : WellFormed state)
    (taken : step environment state action = some state') :
    (∀ key row, state'.db.task.get key = some row → GoodTask row) ∧
      SameTarget state'.db.task ∧
      ∀ key row, state.db.task.get key = some row →
        ∃ row', state'.db.task.get key = some row' ∧
          fixedColumns row' = fixedColumns row := by
  refine (task_steps taken).invariant
    (fun tasks =>
      (∀ key row, tasks.get key = some row → GoodTask row) ∧
        SameTarget tasks ∧
        ∀ key row, state.db.task.get key = some row →
          ∃ row', tasks.get key = some row' ∧
            fixedColumns row' = fixedColumns row)
    ⟨wellFormed.tasks, wellFormed.sameTarget,
      fun _ row found => ⟨row, found, rfl⟩⟩ ?_
  rintro tasks queueAction tasks' ⟨good, sameTarget, kept⟩ caused moved
  refine ⟨goodTask_step good ?_ moved, sameTarget_step sameTarget moved, ?_⟩
  · cases queueAction with
    | enqueue type targetRefType =>
        obtain ⟨rfl, rfl, -⟩ := caused
        exact ⟨by decide, by decide⟩
    | write taskId workerId write =>
        cases write with
        | resultPayload values =>
            obtain ⟨key, execution, result, found, rfl, -, isStage,
              updates⟩ := caused
            intro row foundRow isTarget
            have goodExecution := wellFormed.executions key execution found
            obtain ⟨old, foundOld, same⟩ := goodExecution.task
            obtain ⟨now, foundNow, sameNow⟩ := kept _ old foundOld
            rw [foundRow, Option.some.injEq] at foundNow
            subst foundNow
            have columns := sameNow.trans same
            simp only [fixedColumns, Prod.mk.injEq] at columns
            have agrees := goodExecution.stage
              (by rw [← columns.2.1, isTarget])
            rw [isStage] at agrees
            rw [columns.2.2.1]
            exact agrees values updates
        | _ => trivial
    | createTestTask | writeProgress => exact caused
    | _ => trivial
  · intro key row found
    obtain ⟨middle, foundMiddle, same⟩ := kept key row found
    obtain ⟨row', found', same'⟩ := Queue.step_fixedColumns moved foundMiddle
    exact ⟨row', found', same'.trans same⟩

theorem wellFormed_step
    {environment : Environment} {state state' : State} {action : Action}
    (wellFormed : WellFormed state)
    (taken : step environment state action = some state') :
    WellFormed state' := by
  obtain ⟨good, sameTarget, kept⟩ := wellFormed_tasks wellFormed taken
  refine ⟨good, sameTarget, fun key execution found => ?_⟩
  have before := fun other (foundOther :
      state.executions.get key = some other) =>
    (wellFormed.executions key other foundOther).of_tasks kept
  cases execution_cases taken found with
  | @kept other _ foundOther taskId task stage _ =>
      have goodOther := before other foundOther
      refine ⟨?_, ?_, ?_⟩
      · rw [taskId, task]
        exact goodOther.task
      · rw [task]
        exact goodOther.good
      · rw [task, stage]
        exact goodOther.stage
  | started _ foundOther _ starts _ =>
      refine (before _ foundOther).withStage _ fun isTarget => ?_
      exact startHandler_agrees wellFormed
        (wellFormed.executions key _ foundOther) isTarget starts
  | finished _ foundOther working finishes _ =>
      refine (before _ foundOther).withStage _ fun isTarget => ?_
      have agrees := (wellFormed.executions key _ foundOther).stage isTarget
      rw [working] at agrees
      exact finishHandler_agrees agrees finishes
  | raised foundOther =>
      exact (before _ foundOther).withStage _ fun _ => trivial
  | claimed foundRow =>
      exact ⟨⟨_, foundRow, rfl⟩, good _ _ foundRow, fun _ => trivial⟩

theorem wellFormed_of_no_tasks
    {state : State} (tasks : state.db.task = .empty)
    (executions : state.executions = .empty) : WellFormed state := by
  constructor
  · intro key row found
    simp [tasks] at found
  · intro child parent row found
    simp [tasks] at found
  · intro key execution found
    simp [executions] at found

end Sluicery.System
