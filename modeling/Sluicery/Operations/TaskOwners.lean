import Sluicery.Operations.TaskTable
import Sluicery.Core.DownloadOutcomes
import Sluicery.Library.UniqueColumn

/-!
# The Run of a task

A task belongs to a Run of its own playlist, and a call has a Run for itself.
A phase selects no Target twice and takes each of them once, so a Run has no
two tasks of the same type for the same Target.
-/

namespace Sluicery.Operations

open Sluicery.Library Sluicery.Library.Transition
open Sluicery.Db Sluicery.Db.TaskRepository Sluicery.Db.TargetRepository
open Sluicery.Core Sluicery.Tasks

/-! ## Playlists -/

/-- The playlist of a Target. -/
def targetPlaylist (db : Database) (targetId : Nat) : Option Nat :=
  ((db.target.get targetId).bind fun target =>
    db.item.get target.itemId).map ItemRow.playlistId

/-- The playlist which a task works on. -/
def taskPlaylist (db : Database) (task : TaskRow) : Option Nat :=
  if task.targetRefType = "playlist" then some task.targetRefId
  else if task.targetRefType = "target" then
    targetPlaylist db task.targetRefId
  else none

/-- The kind of the Run of a task. -/
def runKind : TaskType → String
  | .discover => "discover"
  | _ => "download"

/-- What a task is, and which Run it belongs to. -/
def reference (task : TaskRow) : Option Nat × TaskType × String × Nat :=
  (task.runId, task.type, task.targetRefType, task.targetRefId)

theorem reference_of_fixedColumns
    {task task' : TaskRow} (same : fixedColumns task' = fixedColumns task) :
    reference task' = reference task := by
  simp only [fixedColumns, Prod.mk.injEq] at same
  simp only [reference, same]

/-- Every task was there before, with the columns which never change. -/
def TasksFrom (before after : Table TaskRow) : Prop :=
  ∀ key task', after.get key = some task' →
    ∃ task, before.get key = some task ∧
      fixedColumns task' = fixedColumns task

theorem TasksFrom.refl (tasks : Table TaskRow) : TasksFrom tasks tasks :=
  fun _ task found => ⟨task, found, rfl⟩

theorem TasksFrom.unique
    {before after : Table TaskRow} (tasks : TasksFrom before after)
    (unique : before.UniqueBy reference) : after.UniqueBy reference := by
  intro left right leftRow rightRow foundLeft foundRight same
  rcases tasks left leftRow foundLeft with ⟨first, foundFirst, sameFirst⟩
  rcases tasks right rightRow foundRight with
    ⟨second, foundSecond, sameSecond⟩
  apply unique left right first second foundFirst foundSecond
  rw [← reference_of_fixedColumns sameFirst, same,
    reference_of_fixedColumns sameSecond]

/-! ## Columns which stay -/

/-- The Runs, the Targets and the items stay in their playlists. -/
structure ColumnsKept (before after : Database) : Prop where
  runs {runId : Nat} {run : RunRow}
    (found : before.run.get runId = some run) :
    ∃ run', after.run.get runId = some run' ∧ run'.kind = run.kind ∧
      run'.playlistId = run.playlistId
  targets {targetId : Nat} {row : TargetRow}
    (found : before.target.get targetId = some row) :
    ∃ row', after.target.get targetId = some row' ∧
      row'.itemId = row.itemId
  items : after.item = before.item

theorem ColumnsKept.refl (db : Database) : ColumnsKept db db where
  runs found := ⟨_, found, rfl, rfl⟩
  targets found := ⟨_, found, rfl⟩
  items := rfl

theorem Follows.columns
    {mayEnd : Nat → Prop} {before after : Database}
    (follows : Follows mayEnd before after) : ColumnsKept before after where
  runs found := by
    rcases follows.runs found with ⟨run', found', same⟩
    exact ⟨run', found', same.kind, same.playlistId⟩
  targets := follows.targets
  items := follows.items

section Columns

variable {before after : Database}

/-- The insertion of a Run. -/
theorem columnsKept_insert
    {db : Database} {runs : Table RunRow} (run : RunRow)
    (kept : ColumnsKept db { db with run := runs }) (task : Table TaskRow) :
    ColumnsKept db { db with run := runs.insert run, task } where
  runs found := by
    rcases kept.runs found with ⟨run', found', same⟩
    exact ⟨run', Table.get_insert_of_some _ found', same⟩
  targets := kept.targets
  items := rfl

theorem ColumnsKept.targetPlaylist
    (kept : ColumnsKept before after) {targetId playlistId : Nat}
    (isPlaylist : targetPlaylist before targetId = some playlistId) :
    targetPlaylist after targetId = some playlistId := by
  simp only [Operations.targetPlaylist, Option.map_eq_some_iff,
    Option.bind_eq_some_iff] at isPlaylist ⊢
  rcases isPlaylist with ⟨item, ⟨target, found, isItem⟩, inPlaylist⟩
  rcases kept.targets found with ⟨target', found', same⟩
  refine ⟨item, ⟨target', found', ?_⟩, inPlaylist⟩
  rw [kept.items, same, isItem]

theorem ColumnsKept.taskPlaylist
    (kept : ColumnsKept before after) {task task' : TaskRow}
    {playlistId : Nat} (same : reference task' = reference task)
    (isPlaylist : taskPlaylist before task = some playlistId) :
    taskPlaylist after task' = some playlistId := by
  simp only [reference, Prod.mk.injEq] at same
  simp only [Operations.taskPlaylist, same] at isPlaylist ⊢
  split
  · next direct => rwa [if_pos direct] at isPlaylist
  · next notDirect =>
      rw [if_neg notDirect] at isPlaylist
      split
      · next ofTarget =>
          rw [if_pos ofTarget] at isPlaylist
          exact kept.targetPlaylist isPlaylist
      · next other =>
          rw [if_neg other] at isPlaylist
          cases isPlaylist

end Columns

/-! ## Owners -/

/-- The Run of the task exists, and is one of its kind and playlist. -/
def TaskOwned (db : Database) (task : TaskRow) : Prop :=
  ∃ runId run playlistId, task.runId = some runId ∧
    db.run.get runId = some run ∧ run.kind = runKind task.type ∧
    run.playlistId = some playlistId ∧
    taskPlaylist db task = some playlistId

theorem TaskOwned.kept
    {before after : Database} {task task' : TaskRow}
    (owned : TaskOwned before task) (kept : ColumnsKept before after)
    (same : reference task' = reference task) : TaskOwned after task' := by
  rcases owned with
    ⟨runId, run, playlistId, inRun, found, kind, inPlaylist, isPlaylist⟩
  rcases kept.runs found with ⟨run', found', sameKind, samePlaylist⟩
  have ofTask := kept.taskPlaylist same isPlaylist
  simp only [reference, Prod.mk.injEq] at same
  refine ⟨runId, run', playlistId, ?_, found', ?_, ?_, ofTask⟩
  · rw [same.1, inRun]
  · rw [sameKind, kind, same.2.1]
  · rw [samePlaylist, inPlaylist]

/-- The Run of the call exists, and the Targets ahead are in its playlist. -/
structure CallOwned (db : Database) (operation : Operation) : Prop where
  run : ∃ run, db.run.get operation.runId = some run ∧
    run.kind = operation.kind ∧ run.playlistId = some operation.playlistId
  ahead : ∀ download, operation = .download download →
    ∀ targetId ∈ download.ahead,
      targetPlaylist db targetId = some download.playlistId

theorem CallOwned.kept
    {before after : Database} {operation : Operation}
    (owned : CallOwned before operation)
    (kept : ColumnsKept before after) : CallOwned after operation where
  run := by
    rcases owned.run with ⟨run, found, kind, inPlaylist⟩
    rcases kept.runs found with ⟨run', found', sameKind, samePlaylist⟩
    exact ⟨run', found', sameKind.trans kind, samePlaylist.trans inPlaylist⟩
  ahead download isDownload targetId member :=
    kept.targetPlaylist (owned.ahead download isDownload targetId member)

/-- The Run of the phase has no task for a Target which is ahead. -/
structure Untaken (tasks : Table TaskRow) (run : DownloadRun) : Prop where
  distinct : run.ahead.Nodup
  started : run.stage = .started → ∀ key task,
    tasks.get key = some task → task.runId ≠ some run.runId
  ahead : ∀ key task, tasks.get key = some task →
    task.runId = some run.runId → task.targetRefId ∉ run.ahead

/-- The Run of the phase got no task. -/
theorem Untaken.extend
    {before after : Table TaskRow} {run : DownloadRun}
    (untaken : Untaken before run)
    (tasks : ∀ key task', after.get key = some task' →
      task'.runId = some run.runId → ∃ task, before.get key = some task ∧
        reference task' = reference task) : Untaken after run where
  distinct := untaken.distinct
  started isStarted key task' found' inRun := by
    rcases tasks key task' found' inRun with ⟨task, found, same⟩
    simp only [reference, Prod.mk.injEq] at same
    exact untaken.started isStarted key task found (same.1 ▸ inRun)
  ahead key task' found' inRun := by
    rcases tasks key task' found' inRun with ⟨task, found, same⟩
    simp only [reference, Prod.mk.injEq] at same
    rw [same.2.2.2]
    exact untaken.ahead key task found (same.1 ▸ inRun)

/-- Tasks and calls have their Runs, and none shares its own. -/
structure Owned (world : World) : Prop where
  tasks : ∀ key task, world.db.task.get key = some task →
    TaskOwned world.db task
  calls : ∀ key operation, world.operations.get key = some operation →
    CallOwned world.db operation
  ownRun : world.operations.UniqueBy Operation.runId
  once : world.db.task.UniqueBy reference
  untaken : ∀ key run, world.operations.get key = some (.download run) →
    Untaken world.db.task run

/-- Nothing new, and the calls stay. -/
theorem Owned.kept
    {world world' : World} (owned : Owned world)
    (columns : ColumnsKept world.db world'.db)
    (tasks : TasksFrom world.db.task world'.db.task)
    (operations : world'.operations = world.operations) : Owned world' where
  tasks key task' found' := by
    rcases tasks key task' found' with ⟨task, found, same⟩
    exact (owned.tasks key task found).kept columns
      (reference_of_fixedColumns same)
  calls key operation found := by
    rw [operations] at found
    exact (owned.calls key operation found).kept columns
  ownRun := by
    rw [operations]
    exact owned.ownRun
  once := tasks.unique owned.once
  untaken key run found := by
    rw [operations] at found
    apply (owned.untaken key run found).extend
    intro taskKey task' found' _
    rcases tasks taskKey task' found' with ⟨task, foundTask, same⟩
    exact ⟨task, foundTask, reference_of_fixedColumns same⟩

theorem Owned.runId_ne
    {world : World} (owned : Owned world) {runId key : Nat}
    {task : TaskRow} (missing : world.db.run.get runId = none)
    (found : world.db.task.get key = some task) :
    task.runId ≠ some runId := by
  intro inRun
  rcases owned.tasks key task found with
    ⟨ownRunId, run, -, isRun, foundRun, -⟩
  rw [inRun, Option.some.injEq] at isRun
  rw [isRun, foundRun] at missing
  cases missing

/-! ## Tasks of an event -/

theorem notInsert_of_causedBy
    {state : System.State} {event : System.Event}
    {queueAction : Queue.Action} (notPart : isPart event = false)
    (caused : System.CausedBy state event queueAction) :
    Queue.isInsert queueAction = false := by
  cases queueAction with
  | enqueue =>
      rcases caused.2 with ⟨_, _, _, isEvent⟩
      rw [isEvent] at notPart
      cases notPart
  | enqueuePipeline =>
      rw [caused.2] at notPart
      cases notPart
  | createTestTask => exact caused.1.elim
  | _ => rfl

theorem tasksFrom_of_rewrites
    {tasks tasks' : Table TaskRow} {queueAction : Queue.Action}
    (notInsert : Queue.isInsert queueAction = false)
    (taken : Queue.step tasks queueAction = some tasks') :
    TasksFrom tasks tasks' := by
  intro key task' found'
  rcases (Queue.step_rewrites notInsert taken).origin found' with
    ⟨task, found, chain⟩
  exact ⟨task, found, fixedColumns_of_chain chain⟩

theorem TasksFrom.trans
    {before middle after : Table TaskRow} (first : TasksFrom before middle)
    (second : TasksFrom middle after) : TasksFrom before after := by
  intro key task'' found''
  rcases second key task'' found'' with ⟨task', found', same'⟩
  rcases first key task' found' with ⟨task, found, same⟩
  exact ⟨task, found, same'.trans same⟩

/-- Only starts and calls enqueue tasks. -/
theorem tasksFrom_step
    {environment : Environment} {world world' : World} {action : Action}
    (notStart : action.event.isStart = false)
    (notCall : action.event.operation = none)
    (taken : step environment world action = some world') :
    TasksFrom world.db.task world'.db.task := by
  cases task_case taken with
  | system _ notPart steps =>
      apply (System.task_steps_by steps).invariant
        (TasksFrom world.db.task) (.refl _)
      intro tasks queueAction next before caused moved
      exact before.trans
        (tasksFrom_of_rewrites (notInsert_of_causedBy notPart caused) moved)
  | same _ tasks =>
      rw [tasks]
      exact .refl _
  | @queued queueAction _ queues moved =>
      generalize action.event = event at queues notStart notCall
      cases queues with
      | discover => cases notStart
      | pipeline isEvent =>
          rw [isEvent] at notCall
          cases notCall
      | retry => exact tasksFrom_of_rewrites rfl moved

/-! ## Calls -/

/-- What one commit of a phase does to the Targets ahead and the tasks. -/
inductive Takes (run : DownloadRun) (db : Database) (workId : String)
    (next : DownloadRun) (after : Database) : Prop where
  | selected (isStarted : run.stage = .started)
      (ahead : next.ahead =
        (listDownloadCandidates db run.playlistId run.retryLimit).map
          DownloadCandidate.targetId)
      (tasks : after.task = db.task)
  | passed (ahead : next.ahead.Sublist run.ahead)
      (tasks : after.task = db.task)
  | queued {targetId : Nat} (ahead : run.ahead = targetId :: next.ahead)
      (tasks : after.task = (enqueuePipeline db.task targetId
        (some run.runId) workId run.retryLimit).2)

theorem takes_of_proceed
    {run next : DownloadRun} {db after : Database} {answer : Option String}
    {workId : String} {now : Time}
    (proceeds : run.proceed db answer workId now = .ok (some next, after)) :
    Takes run db workId next after ∧ next.stage ≠ .started := by
  cases DownloadRun.advances_of_proceed proceeds with
  | selected isStage =>
      exact ⟨.selected isStage rfl rfl, DownloadStage.noConfusion⟩
  | queued isStage =>
      refine ⟨.queued ?_ rfl, DownloadStage.noConfusion⟩
      rw [DownloadRun.ahead, isStage]
      rfl
  | checkedAll isStage =>
      refine ⟨.passed ?_ rfl, DownloadStage.noConfusion⟩
      simp only [DownloadRun.ahead, isStage, List.map_nil, List.append_nil]
      exact List.Sublist.refl _
  | blocked isStage =>
      refine ⟨.passed ?_ rfl, DownloadStage.noConfusion⟩
      simp only [DownloadRun.ahead, isStage, List.map_cons]
      exact (List.Sublist.refl _).append (List.sublist_cons_self _ _)
  | usable isStage =>
      refine ⟨.passed ?_ rfl, DownloadStage.noConfusion⟩
      simp only [DownloadRun.ahead, isStage, List.map_cons,
        List.append_assoc, List.singleton_append]
      exact List.Sublist.refl _
  | left isStage | lost isStage =>
      refine ⟨.passed ?_ rfl, DownloadStage.noConfusion⟩
      simp only [DownloadRun.ahead, isStage]
      exact List.sublist_cons_self _ _
  | counted isStage =>
      exact ⟨.passed (List.nil_sublist _) rfl, DownloadStage.noConfusion⟩

/-- The selected Targets are in the playlist. -/
theorem targetPlaylist_of_candidate
    {db : Database} {playlistId retryLimit targetId : Nat}
    (member : targetId ∈ (listDownloadCandidates db playlistId
      retryLimit).map DownloadCandidate.targetId) :
    targetPlaylist db targetId = some playlistId := by
  rcases List.mem_map.mp member with ⟨candidate, isCandidate, rfl⟩
  rcases (mem_listDownloadCandidates_iff _ _ _ _).mp isCandidate with
    ⟨targetId, target, found, selected⟩
  rcases downloadCandidate_eq_some_iff.mp selected with
    ⟨isTarget, -, isItem, -, -, inPlaylist, -⟩
  rw [targetPlaylist, isTarget, found, Option.bind_some, isItem,
    Option.map_some, inPlaylist]

/-- A new row of a pipeline. -/
theorem reference_of_enqueuePipeline
    {tasks : Table TaskRow} {targetId runId maxAttempts key : Nat}
    {workId : String} {task : TaskRow} (missing : tasks.get key = none)
    (found : (enqueuePipeline tasks targetId (some runId) workId
      maxAttempts).2.get key = some task) :
    reference task = (some runId, task.type, "target", targetId) ∧
      task.type ≠ .discover := by
  have extended := enqueuePipeline_extends tasks targetId (some runId) workId
    maxAttempts
  have isStep := extended.new missing found
  have columns := enqueuePipeline_columns missing found
  constructor
  · rw [reference, columns.1, isStep.targetRefType, isStep.targetRefId]
  · intro isDiscover
    have member := isStep.step
    simp [isDiscover, pipelineSteps] at member

theorem once_enqueueSteps
    {targetId runId maxAttempts : Nat} {workId : String}
    {steps : List (TaskType × WorkerClass)} {dependency : Option Nat}
    {tasks : Table TaskRow} (unique : tasks.UniqueBy reference)
    (distinct : (steps.map Prod.fst).Nodup)
    (free : ∀ key task, tasks.get key = some task →
      task.runId = some runId → task.targetRefId = targetId →
        task.type ∉ steps.map Prod.fst) :
    (enqueueSteps targetId (some runId) workId maxAttempts steps dependency
      tasks).2.UniqueBy reference := by
  induction steps generalizing dependency tasks with
  | nil => exact unique
  | cons step rest induction =>
      rw [List.map_cons, List.nodup_cons] at distinct
      apply induction
      · apply unique.insert
        intro key task found same
        simp only [reference, pipelineRow, Prod.mk.injEq] at same
        apply free key task found same.1 same.2.2.2
        rw [same.2.1, List.map_cons]
        exact List.mem_cons_self
      · exact distinct.2
      · intro key task found inRun isTarget
        rw [Table.get_insert] at found
        split at found
        · cases found
          exact distinct.1
        · intro member
          apply free key task found inRun isTarget
          rw [List.map_cons]
          exact List.mem_cons_of_mem _ member

theorem Untaken.next
    {db after : Database} {run next : DownloadRun} {answer : Option String}
    {workId : String} {now : Time}
    (untaken : Untaken db.task run)
    (proceeds : run.proceed db answer workId now = .ok (some next, after)) :
    Untaken after.task next := by
  rcases takes_of_proceed proceeds with ⟨takes, notStarted⟩
  have sameRun := (kept_proceed proceeds next rfl).1
  refine ⟨?_, fun isStarted => absurd isStarted notStarted, ?_⟩
  · cases takes with
    | selected _ ahead =>
        rw [ahead]
        exact distinct_listDownloadCandidates _ _ _
    | passed ahead => exact untaken.distinct.sublist ahead
    | queued ahead =>
        have distinct := untaken.distinct
        rw [ahead, List.nodup_cons] at distinct
        exact distinct.2
  · intro key task found inRun member
    rw [sameRun] at inRun
    cases takes with
    | selected isStarted _ tasks =>
        rw [tasks] at found
        exact untaken.started isStarted key task found inRun
    | passed ahead tasks =>
        rw [tasks] at found
        exact untaken.ahead key task found inRun (ahead.subset member)
    | @queued targetId ahead tasks =>
        have distinct := untaken.distinct
        rw [ahead, List.nodup_cons] at distinct
        rw [tasks] at found
        cases before : db.task.get key with
        | some old =>
            have kept := (enqueuePipeline_extends db.task targetId
              (some run.runId) workId run.retryLimit).kept before
            rw [found, Option.some.injEq] at kept
            subst kept
            apply untaken.ahead key task before inRun
            rw [ahead]
            exact List.mem_cons_of_mem _ member
        | none =>
            have new := (reference_of_enqueuePipeline before found).1
            simp only [reference, Prod.mk.injEq] at new
            rw [new.2.2.2] at member
            exact distinct.1 member

/-- The call after its step. -/
theorem CallOwned.next
    {environment : Environment} {db after : Database}
    {operation goesOn : Operation}
    (owned : CallOwned db operation)
    (operates : Operates environment db operation after (some goesOn)) :
    CallOwned after goesOn := by
  rcases follows_operates operates with ⟨kept, -, follows⟩
  rcases kept goesOn rfl with ⟨runId, kind, playlistId⟩
  constructor
  · rcases (owned.kept follows.columns).run with ⟨run, found, same⟩
    rw [runId, kind, playlistId]
    exact ⟨run, found, same⟩
  · rintro next rfl targetId member
    generalize isNext : some (Operation.download next) = answer at operates
    cases operates with
    | @download run answer workId now after proceeds =>
        rcases Option.map_eq_some_iff.mp isNext.symm with
          ⟨other, isOther, same⟩
        cases same
        obtain ⟨_, db'⟩ := after
        cases isOther
        rw [(kept_proceed proceeds next rfl).2.1]
        apply follows.columns.targetPlaylist
        cases (takes_of_proceed proceeds).1 with
        | selected _ ahead =>
            rw [ahead] at member
            exact targetPlaylist_of_candidate member
        | passed ahead => exact owned.ahead run rfl _ (ahead.subset member)
        | queued ahead =>
            apply owned.ahead run rfl
            rw [ahead]
            exact List.mem_cons_of_mem _ member
    | raised | stopped => cases isNext
    | retention | folderMove => split at isNext <;> cases isNext

/-- The tasks after the step of a call: those before and a pipeline of its own. -/
theorem operates_tasks
    {environment : Environment} {db after : Database} {operation : Operation}
    {next : Option Operation}
    (operates : Operates environment db operation after next) :
    after.task = db.task ∨ ∃ run targetId workId,
      operation = .download run ∧ targetId ∈ run.ahead ∧
      after.task = (enqueuePipeline db.task targetId (some run.runId) workId
        run.retryLimit).2 := by
  cases operates with
  | @download run answer workId now after proceeds =>
      rcases download_task_cases proceeds with
        same | ⟨targetId, rest, queued, remaining, isStage, tasks⟩
      · exact Or.inl same
      · refine Or.inr ⟨run, targetId, workId, rfl, ?_, tasks⟩
        rw [DownloadRun.ahead, isStage]
        exact List.mem_cons_self
  | raised | stopped => exact Or.inl rfl
  | retention taken => exact Or.inl (follows_retention taken).2.1
  | folderMove taken => exact Or.inl (follows_folderMove taken).2.2.1

/-! ## Steps -/

section Steps

variable {environment : Environment} {world : World}

/-- The start of a discover Run with its task. -/
theorem Owned.discover
    (owned : Owned world) {playlistId : Nat} {run : RunRow} {task : TaskRow}
    (kind : run.kind = "discover")
    (inPlaylist : run.playlistId = some playlistId)
    (isTask : reference task =
      (some world.db.run.nextKey, .discover, "playlist", playlistId)) :
    Owned (world.withDb { world.db with
      run := world.db.run.insert run
      task := world.db.task.insert task }) := by
  have columns : ColumnsKept world.db { world.db with
      run := world.db.run.insert run
      task := world.db.task.insert task } :=
    columnsKept_insert run (.refl world.db) _
  simp only [reference, Prod.mk.injEq] at isTask
  rcases isTask with ⟨inRun, isDiscover, direct, isPlaylist⟩
  constructor
  · intro key other found
    rw [World.withDb, World.db, Table.get_insert] at found
    split at found
    · cases found
      refine ⟨_, run, playlistId, inRun, Table.get_insert_nextKey _ _, ?_,
        inPlaylist, ?_⟩
      · rw [isDiscover, kind]
        rfl
      · rw [taskPlaylist, if_pos direct, isPlaylist]
    · exact (owned.tasks key other found).kept columns rfl
  · exact fun key operation found =>
      (owned.calls key operation found).kept columns
  · exact owned.ownRun
  · apply owned.once.insert
    intro key other found same
    simp only [reference, Prod.mk.injEq] at same
    exact owned.runId_ne (Table.get_nextKey _) found
      (same.1.trans inRun)
  · intro key download found
    apply (owned.untaken key download found).extend
    intro taskKey other found' inOwn
    rw [World.withDb, World.db, Table.get_insert] at found'
    split at found'
    · -- The Run of the call is older than the new one.
      cases found'
      rcases (owned.calls key _ found).run with ⟨own, foundOwn, -⟩
      rw [inRun, Option.some.injEq] at inOwn
      rw [Operation.runId, ← inOwn, Table.get_nextKey] at foundOwn
      cases foundOwn
    · exact ⟨other, found', rfl⟩

/-- The Runs which a start takes over stay in their playlists. -/
theorem Begins.columns
    {playlistId : Nat} {operation : Operation} {runs : Table RunRow}
    {run : RunRow} (begins : Begins world playlistId operation runs run) :
    ColumnsKept world.db { world.db with run := runs } where
  runs {runId before} found := by
    rcases begins.recovered runId with
      same | ⟨-, other, after, foundOther, found', -, kind, inPlaylist, -⟩
    · exact ⟨before, same.trans found, rfl, rfl⟩
    · rw [found, Option.some.injEq] at foundOther
      subst foundOther
      exact ⟨after, found', kind, inPlaylist⟩
  targets found := ⟨_, found, rfl⟩
  items := rfl

/-- The Run of a call which starts is new. -/
theorem Begins.fresh
    {playlistId : Nat} {operation : Operation} {runs : Table RunRow}
    {run other : RunRow} {runId : Nat}
    (begins : Begins world playlistId operation runs run)
    (found : world.db.run.get runId = some other) :
    runId ≠ operation.runId := by
  intro same
  rcases begins.columns.runs found with ⟨again, found', -⟩
  rw [same, begins.runId, Table.get_nextKey] at found'
  cases found'

/-- The start of a call. -/
theorem Owned.start
    (owned : Owned world) {playlistId : Nat} {operation : Operation}
    {runs : Table RunRow} {run : RunRow}
    (begins : Begins world playlistId operation runs run) :
    Owned (world.started { world.db with run := runs.insert run }
      operation) := by
  have columns : ColumnsKept world.db
      { world.db with run := runs.insert run } :=
    columnsKept_insert run begins.columns world.db.task
  have ahead : ∀ download, operation = .download download →
      download.ahead = [] := by
    intro download isDownload
    rw [DownloadRun.ahead, begins.unselected download isDownload]
  constructor
  · exact fun key task found => (owned.tasks key task found).kept columns rfl
  · intro key other found
    rw [World.started, Table.get_insert] at found
    split at found
    · cases found
      constructor
      · refine ⟨run, ?_, begins.kind, ?_⟩
        · rw [begins.runId]
          exact Table.get_insert_nextKey _ _
        · rw [begins.isPlaylist, begins.inPlaylist]
      · intro download isDownload targetId member
        rw [ahead download isDownload] at member
        cases member
    · exact (owned.calls key other found).kept columns
  · apply owned.ownRun.insert
    intro key other found same
    rcases (owned.calls key other found).run with ⟨own, foundOwn, -⟩
    exact begins.fresh foundOwn same
  · exact owned.once
  · intro key download found
    rw [World.started, Table.get_insert] at found
    split at found
    · cases found
      constructor
      · rw [ahead download rfl]
        exact List.nodup_nil
      · intro _ taskKey task foundTask inRun
        rcases owned.tasks taskKey task foundTask with
          ⟨runId, own, -, isRun, foundOwn, -⟩
        rw [inRun, Option.some.injEq] at isRun
        exact begins.fresh foundOwn isRun.symm
      · intro _ _ _ _
        rw [ahead download rfl]
        exact List.not_mem_nil
    · exact owned.untaken key download found

/-- The calls after the step of one of them. -/
theorem get_after
    {key other : Nat} {operation called : Operation} {db : Database}
    {next : Option Operation}
    (found : world.operations.get key = some operation)
    (found' : (world.after key db next).operations.get other = some called) :
    (other ≠ key ∧ world.operations.get other = some called) ∨
      (other = key ∧ next = some called) := by
  cases next with
  | none =>
      simp only [World.after, World.returned, Table.get_erase] at found'
      split at found'
      · cases found'
      · next notSame => exact Or.inl ⟨notSame, found'⟩
  | some goesOn =>
      simp only [World.after, World.continued, Table.get_modify] at found'
      split at found'
      · next same =>
          rw [same, found, Option.map_some, Option.some.injEq] at found'
          exact Or.inr ⟨same, congrArg some found'⟩
      · next notSame => exact Or.inl ⟨notSame, found'⟩

/-- The step of a call leaves the other calls. -/
theorem get_other
    {key other : Nat} {called : Operation} {db : Database}
    {next : Option Operation} (notSame : other ≠ key)
    (found : world.operations.get other = some called) :
    (world.after key db next).operations.get other = some called := by
  cases next with
  | none =>
      rw [World.after, World.returned, Table.get_erase, if_neg notSame]
      exact found
  | some goesOn =>
      rw [World.after, World.continued, Table.get_modify, if_neg notSame]
      exact found

/-- A task after the step of a call is an old one, or one of its Run. -/
theorem task_after
    {operation : Operation} {db : Database} {next : Option Operation}
    (called : CallOwned world.db operation)
    (operates : Operates environment world.db operation db next)
    {key : Nat} {task : TaskRow} (found' : db.task.get key = some task) :
    world.db.task.get key = some task ∨
      (task.runId = some operation.runId ∧ TaskOwned db task) := by
  have columns := (follows_operates operates).2.2.columns
  rcases operates_tasks operates with
    same | ⟨download, targetId, workId, rfl, member, tasks⟩
  · rw [same] at found'
    exact Or.inl found'
  · rw [tasks] at found'
    cases found : world.db.task.get key with
    | some old =>
        have kept := (enqueuePipeline_extends world.db.task targetId
          (some download.runId) workId download.retryLimit).kept found
        rw [found', Option.some.injEq] at kept
        exact Or.inl (congrArg some kept.symm)
    | none =>
        rcases reference_of_enqueuePipeline found found' with
          ⟨isTask, notDiscover⟩
        simp only [reference, Prod.mk.injEq] at isTask
        rcases isTask with ⟨inRun, -, ofTarget, isTarget⟩
        rcases (called.kept columns).run with ⟨run, foundRun, kind, inPlaylist⟩
        refine Or.inr ⟨inRun, download.runId, run, download.playlistId,
          inRun, foundRun, ?_, inPlaylist, ?_⟩
        · rw [kind]
          cases isType : task.type with
          | discover => exact absurd isType notDiscover
          | _ => rfl
        · have notDirect : task.targetRefType ≠ "playlist" := by
            rw [ofTarget]
            decide
          rw [taskPlaylist, if_neg notDirect, if_pos ofTarget, isTarget]
          exact columns.targetPlaylist
            (called.ahead download rfl targetId member)

/-- The step of a call. -/
theorem Owned.operate
    (owned : Owned world) {key : Nat} {operation : Operation}
    {db : Database} {next : Option Operation}
    (found : world.operations.get key = some operation)
    (operates : Operates environment world.db operation db next) :
    Owned (world.after key db next) := by
  have called := owned.calls key operation found
  have isDb := world.db_after key db next
  rcases follows_operates operates with ⟨kept, -, follows⟩
  have sameRun : ∀ {other : Nat} {after : Operation},
      (world.after key db next).operations.get other = some after →
        ∃ before, world.operations.get other = some before ∧
          after.runId = before.runId := by
    intro other after found'
    rcases get_after found found' with ⟨-, same⟩ | ⟨rfl, rfl⟩
    · exact ⟨after, same, rfl⟩
    · exact ⟨operation, found, (kept after rfl).1⟩
  constructor
  · intro taskKey task found'
    rw [isDb] at found' ⊢
    rcases task_after called operates found' with old | ⟨-, isOwned⟩
    · exact (owned.tasks taskKey task old).kept follows.columns rfl
    · exact isOwned
  · intro other after found'
    rw [isDb]
    rcases get_after found found' with ⟨-, same⟩ | ⟨rfl, rfl⟩
    · exact (owned.calls other after same).kept follows.columns
    · exact called.next operates
  · intro left right leftCall rightCall foundLeft foundRight same
    rcases sameRun foundLeft with ⟨first, foundFirst, sameFirst⟩
    rcases sameRun foundRight with ⟨second, foundSecond, sameSecond⟩
    exact owned.ownRun left right first second foundFirst foundSecond
      (sameFirst.symm.trans (same.trans sameSecond))
  · rw [isDb]
    rcases operates_tasks operates with
      same | ⟨download, targetId, workId, rfl, member, tasks⟩
    · rw [same]
      exact owned.once
    · rw [tasks]
      apply once_enqueueSteps owned.once
      · decide
      · intro taskKey task foundTask inRun isTarget
        refine absurd ?_ ((owned.untaken key download found).ahead taskKey
          task foundTask inRun)
        rw [isTarget]
        exact member
  · intro other download found'
    rw [isDb]
    rcases get_after found found' with ⟨notSame, same⟩ | ⟨rfl, isNext⟩
    · apply (owned.untaken other download same).extend
      intro taskKey task foundTask inRun
      rcases task_after called operates foundTask with old | ⟨inOwn, -⟩
      · exact ⟨task, old, rfl⟩
      · rw [inOwn, Option.some.injEq] at inRun
        exact absurd (owned.ownRun other key _ _ same found inRun.symm)
          notSame
    · cases operates with
      | @download run answer workId now after proceeds =>
          rcases Option.map_eq_some_iff.mp isNext with ⟨_, isOther, same⟩
          cases same
          obtain ⟨_, _⟩ := after
          cases isOther
          exact (owned.untaken other run found).next proceeds
      | raised | stopped => cases isNext
      | retention | folderMove => split at isNext <;> cases isNext

end Steps

theorem not_call_of_stepUser
    {environment : Environment} {db after : Database} {now : Time}
    {event : Event} (acts : stepUser environment db now event = some after) :
    event.isStart = false ∧ event.operation = none := by
  cases event with
  | recoverOrphanRuns | recordSkipped | retryTask | targetAction
  | setMissingAction | manualLink | undoManualLink | checkIntegrity =>
      exact ⟨rfl, rfl⟩
  | _ => cases acts

theorem owned_step
    {environment : Environment} {world world' : World} {action : Action}
    (wellFormed : System.WellFormed world.system) (owned : Owned world)
    (taken : step environment world action = some world') :
    Owned world' := by
  cases step_case taken with
  | system isEvent notPart steps =>
      apply owned.kept (follows_system wellFormed notPart steps).columns
      · apply tasksFrom_step _ _ taken
        · rw [isEvent]
          rfl
        · rw [isEvent]
          rfl
      · rfl
  | refused => exact owned
  | @discover playlistId attempts dryRun trigger started isEvent starts =>
      rcases ok_of_enqueueDiscoverRun starts with ⟨-, -, rfl⟩
      exact owned.discover rfl rfl rfl
  | start isStart begins => exact owned.start begins
  | operate isEvent found operates => exact owned.operate found operates
  | user acts =>
      rcases not_call_of_stepUser acts with ⟨notStart, notCall⟩
      exact owned.kept (follows_user acts).columns
        (tasksFrom_step notStart notCall taken) rfl

theorem Untouched.owned
    {world : World} (untouched : Untouched world) : Owned world := by
  constructor
  · intro key task found
    rw [untouched.tasks] at found
    cases found
  · intro key operation found
    rw [untouched.operations] at found
    cases found
  · intro left right leftCall rightCall foundLeft
    rw [untouched.operations] at foundLeft
    cases foundLeft
  · intro left right leftRow rightRow foundLeft
    rw [untouched.tasks] at foundLeft
    cases foundLeft
  · intro key download found
    rw [untouched.operations] at found
    cases found

/-- The invariants which hold whatever the users do. -/
theorem owned_of_run
    {environment : Environment} {start finish : World}
    (untouched : Untouched start)
    (steps : Steps (step environment) (fun _ _ => True) start finish) :
    System.WellFormed finish.system ∧ Owned finish := by
  apply steps.invariant
    (fun world => System.WellFormed world.system ∧ Owned world)
  · exact ⟨System.wellFormed_of_no_tasks untouched.tasks
      untouched.executions, untouched.owned⟩
  · rintro world action next ⟨wellFormed, owned⟩ - taken
    exact ⟨wellFormed_step wellFormed taken,
      owned_step wellFormed owned taken⟩

/--
In every interleaving each task belongs to a Run of its own kind and
playlist, a call shares its Run with no other call, and a Run has at most
one task of a type for a playlist or a Target: so a Run has at most one
pipeline for a Target, whatever is cancelled, recovered or retried.
-/
theorem one_pipeline_per_run
    {environment : Environment} {start finish : World}
    (untouched : Untouched start)
    (steps : Steps (step environment) (fun _ _ => True) start finish) :
    (∀ key task, finish.db.task.get key = some task →
        TaskOwned finish.db task) ∧
      finish.operations.UniqueBy Operation.runId ∧
      finish.db.task.UniqueBy reference := by
  have owned := (owned_of_run untouched steps).2
  exact ⟨owned.tasks, owned.ownRun, owned.once⟩

theorem one_pipeline_per_run_startedPhase :
    ∃ finish, run (step oneWorker) onePlaylist startedPhase = some finish ∧
      finish.db.task.UniqueBy reference := by
  refine ⟨_, rfl, ?_⟩
  have owners := @one_pipeline_per_run oneWorker onePlaylist _
    untouched_onePlaylist (Steps.of_run startedPhase rfl)
  exact owners.2.2

end Sluicery.Operations
