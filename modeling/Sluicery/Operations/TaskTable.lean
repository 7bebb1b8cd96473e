import Sluicery.Operations.Follows
import Sluicery.System.Payloads
import Sluicery.System.Stranding
import Sluicery.Tasks.Attempts

/-!
# The program refines the task queue

A step of the world is an event of the system, or leaves the executions and
does to the tasks one queue action at most.  So the history of the task table
is a run of the queue, whose tasks get at least one attempt each, because
both starts check this.  `GoodTask` holds in the whole program, too.
-/

namespace Sluicery.Operations

open Sluicery.Library Sluicery.Library.Transition
open Sluicery.Db Sluicery.Db.TaskRepository
open Sluicery.Core Sluicery.Tasks

/-! ## The queue action of an event -/

/-- The queue action an event of the world causes itself. -/
inductive Queues (world : World) : Event → Queue.Action → Prop where
  | discover {playlistId attempts : Nat} {dryRun : Bool}
      {trigger : RunTrigger} (positive : 1 ≤ attempts) :
      Queues world (.startDiscover playlistId dryRun trigger attempts)
        (.enqueue .discover "playlist" playlistId
          [("playlist_id", .int playlistId), ("dry_run", .bool dryRun)]
          .network attempts (some world.db.run.nextKey))
  | pipeline {event : Event} {key targetId queued remaining : Nat}
      {run : DownloadRun} {rest : List Nat} {workId : String}
      (isEvent : event.operation = some key)
      (found : world.operations.get key = some (.download run))
      (isNext : run.stage = .queueing (targetId :: rest) queued remaining) :
      Queues world event
        (.enqueuePipeline targetId (some run.runId) workId run.retryLimit)
  | retry {taskId : Nat} {now : Time} :
      Queues world (.retryTask taskId) (.retry taskId now)

/-- What a step of the world does to the executions and the tasks. -/
inductive TaskCase (environment : Environment) (world : World)
    (action : Action) (world' : World) : Prop where
  | system {event : System.Event}
      (isEvent : action.event = .system event)
      (notPart : isPart event = false)
      (taken : System.step environment.system world.system
        ⟨event, action.now⟩ = some world'.system)
  | same (executions : world'.system.executions = world.system.executions)
      (tasks : world'.db.task = world.db.task)
  | queued {queueAction : Queue.Action}
      (executions : world'.system.executions = world.system.executions)
      (queues : Queues world action.event queueAction)
      (taken : Queue.step world.db.task queueAction = some world'.db.task)

/-- Only a round of the second loop writes tasks, and only a pipeline. -/
theorem download_task_cases
    {run : DownloadRun} {db : Database} {answer : Option String}
    {workId : String} {now : Time} {after : Option DownloadRun × Database}
    (proceeds : run.proceed db answer workId now = .ok after) :
    after.2.task = db.task ∨
      ∃ targetId rest queued remaining,
        run.stage = .queueing (targetId :: rest) queued remaining ∧
        after.2.task = (enqueuePipeline db.task targetId (some run.runId)
          workId run.retryLimit).2 := by
  unfold DownloadRun.proceed at proceeds
  split at proceeds
  case h_1 =>
    rcases ok_of_map_eq_ok proceeds with ⟨next, -, rfl⟩
    exact Or.inl rfl
  case h_3 =>
    rcases ok_of_map_eq_ok proceeds with ⟨next, checks, rfl⟩
    unfold DownloadRun.check at checks
    dsimp only at checks
    split at checks
    · rcases ok_of_map_eq_ok checks with ⟨target, -, rfl⟩
      exact Or.inl rfl
    · rcases ok_of_map_eq_ok checks with ⟨target, -, rfl⟩
      exact Or.inl rfl
  case h_5 targetId rest queued remaining isNext =>
    rcases ok_of_map_eq_ok proceeds with ⟨next, enqueues, rfl⟩
    unfold DownloadRun.enqueue at enqueues
    split at enqueues
    · cases enqueues
      exact Or.inl rfl
    · rcases ok_of_map_eq_ok enqueues with ⟨enqueued, raises, rfl⟩
      have enqueued := ok_of_raiseTransition raises
      unfold enqueueTargetPipeline at enqueued
      split at enqueued <;> cases enqueued
      · exact Or.inl rfl
      · exact Or.inr ⟨targetId, rest, queued, remaining, isNext, rfl⟩
  all_goals
    cases proceeds
    exact Or.inl rfl

theorem task_case
    {environment : Environment} {world world' : World} {action : Action}
    (taken : step environment world action = some world') :
    TaskCase environment world action world' := by
  cases step_case taken with
  | system isEvent notPart steps => exact .system isEvent notPart steps
  | refused => exact .same rfl rfl
  | @discover playlistId attempts dryRun trigger started isEvent starts =>
      rcases ok_of_enqueueDiscoverRun starts with ⟨-, positive, rfl⟩
      have queues := @Queues.discover world playlistId attempts dryRun
        trigger positive
      exact .queued rfl (isEvent ▸ queues) rfl
  | start => exact .same rfl rfl
  | @operate key operation db next isEvent found operates =>
      have executions := world.executions_after key db next
      have isDb := world.db_after key db next
      cases operates with
      | @download run answer workId now after proceeds =>
          rcases download_task_cases proceeds with
            same | ⟨targetId, rest, queued, remaining, isNext, enqueues⟩
          · exact .same executions ((congrArg Database.task isDb).trans same)
          · have queues := @Queues.pipeline world action.event key targetId
              queued remaining run rest workId isEvent found isNext
            refine .queued executions queues ?_
            rw [isDb, enqueues]
            rfl
      | raised => exact .same executions (congrArg Database.task isDb :)
      | retention steps =>
          exact .same executions ((congrArg Database.task isDb).trans
            (follows_retention steps).2.1)
      | folderMove steps =>
          exact .same executions ((congrArg Database.task isDb).trans
            (follows_folderMove steps).2.2.1)
      | stopped => exact .same executions (congrArg Database.task isDb)
  | @user db acts =>
      cases isEvent : action.event with
      | recoverOrphanRuns =>
          rw [isEvent] at acts
          cases acts
          exact .same rfl rfl
      | recordSkipped playlistId kind reason =>
          rw [isEvent] at acts
          cases acts
          refine .same rfl ?_
          show (Scheduler.recordSkipped _ _ _ _ _).task = _
          unfold Scheduler.recordSkipped
          split <;> rfl
      | retryTask taskId =>
          rw [isEvent] at acts
          cases acts
          have queues := @Queues.retry world taskId action.now
          exact .queued rfl (isEvent ▸ queues) rfl
      | system =>
          rw [isEvent] at acts
          cases acts
      | _ =>
          rw [isEvent] at acts
          exact .same rfl (sameTasks_stepUser rfl
            (fun _ _ _ impossible => by cases impossible)
            (fun _ impossible => by cases impossible) acts).1

/-! ## Payloads in the whole program -/

theorem keepsTarget_of_queues
    {world : World} {event : Event} {queueAction : Queue.Action}
    (queues : Queues world event queueAction) (tasks : Table TaskRow) :
    System.KeepsTarget tasks queueAction := by
  cases queues with
  | discover => exact ⟨by decide, by decide⟩
  | pipeline => exact trivial
  | retry => exact trivial

theorem wellFormed_step
    {environment : Environment} {world world' : World} {action : Action}
    (wellFormed : System.WellFormed world.system)
    (taken : step environment world action = some world') :
    System.WellFormed world'.system := by
  cases task_case taken with
  | system _ _ steps => exact System.wellFormed_step wellFormed steps
  | same executions tasks =>
      constructor
      · intro key row found
        exact wellFormed.tasks key row (tasks ▸ found)
      · show System.SameTarget world'.db.task
        rw [tasks]
        exact wellFormed.sameTarget
      · intro key execution found
        show System.GoodExecution world'.db.task execution
        rw [tasks]
        exact wellFormed.executions key execution (executions ▸ found)
  | queued executions queues steps =>
      constructor
      · exact System.goodTask_step wellFormed.tasks
          (keepsTarget_of_queues queues _) steps
      · exact System.sameTarget_step wellFormed.sameTarget steps
      · intro key execution found
        rw [executions] at found
        exact (wellFormed.executions key execution found).of_tasks
          fun key row foundRow => Queue.step_fixedColumns steps foundRow

/-! ## The refinement -/

/-- The queue actions of the program: it has no test tasks. -/
def Issued : Queue.Action → Prop
  | .enqueue type targetRefType _ _ _ maxAttempts _ =>
      type = .discover ∧ targetRefType = "playlist" ∧ 1 ≤ maxAttempts
  | .enqueuePipeline _ _ _ maxAttempts => 1 ≤ maxAttempts
  | .createTestTask .. | .writeProgress .. => False
  | _ => True

/-- A phase which has passed its checks retries at least once. -/
def PositiveCalls (world : World) : Prop :=
  ∀ key run, world.operations.get key = some (.download run) →
    run.stage = .started ∨ 1 ≤ run.retryLimit

/-- The first step of a phase checks the limits. -/
theorem positive_proceed
    {run : DownloadRun} {db : Database} {answer : Option String}
    {workId : String} {now : Time} {next : Option DownloadRun × Database}
    (positive : run.stage = .started ∨ 1 ≤ run.retryLimit)
    (proceeds : run.proceed db answer workId now = .ok next) :
    ∀ goesOn, next.1 = some goesOn → 1 ≤ goesOn.retryLimit := by
  intro goesOn isNext
  rw [(kept_proceed proceeds goesOn isNext).2.2]
  rcases positive with isStarted | atLeastOne
  · unfold DownloadRun.proceed at proceeds
    rw [isStarted] at proceeds
    dsimp only at proceeds
    rcases ok_of_map_eq_ok proceeds with ⟨selected, selects, -⟩
    unfold DownloadRun.select at selects
    split at selects
    · cases selects
    split at selects
    · cases selects
    split at selects
    · cases selects
    · omega
  · exact atLeastOne

/-- The calls after a step are those from before, one of which went on. -/
theorem operations_cases
    {environment : Environment} {world world' : World} {action : Action}
    (taken : step environment world action = some world')
    {key : Nat} {operation : Operation}
    (found' : world'.operations.get key = some operation) :
    world.operations.get key = some operation ∨
      (∃ playlistId runs run, action.event.isStart = true ∧
        Begins world playlistId operation runs run ∧
        key = world.operations.nextKey ∧
        world' = world.started { world.db with run := runs.insert run }
          operation) ∨
      ∃ before, world.operations.get key = some before ∧
        Operates environment world.db before world'.db (some operation) := by
  cases step_case taken with
  | @start playlistId begun runs run isStart begins =>
      rw [World.started, Table.get_insert] at found'
      split at found'
      · next isNext =>
          cases found'
          exact Or.inr (Or.inl
            ⟨playlistId, runs, run, isStart, begins, isNext, rfl⟩)
      · exact Or.inl found'
  | @operate moved acting db next isEvent found operates =>
      cases next with
      | none =>
          simp only [World.after, World.returned, Table.get_erase] at found'
          split at found'
          · cases found'
          · exact Or.inl found'
      | some goesOn =>
          simp only [World.after, World.continued, Table.get_modify]
            at found'
          split at found'
          · next same =>
              subst same
              rw [found, Option.map_some, Option.some.injEq] at found'
              subst found'
              exact Or.inr (Or.inr ⟨acting, found, operates⟩)
          · exact Or.inl found'
  | _ => exact Or.inl found'

theorem positive_operates
    {environment : Environment} {db after : Database} {before : Operation}
    {next : Option Operation} {run : DownloadRun}
    (positive : ∀ other, before = .download other →
      other.stage = .started ∨ 1 ≤ other.retryLimit)
    (operates : Operates environment db before after next)
    (isNext : next = some (.download run)) : 1 ≤ run.retryLimit := by
  cases operates with
  | download proceeds =>
      rcases Option.map_eq_some_iff.mp isNext with ⟨goesOn, isGoesOn, same⟩
      cases same
      exact positive_proceed (positive _ rfl) proceeds _ isGoesOn
  | raised => cases isNext
  | retention => split at isNext <;> cases isNext
  | folderMove => split at isNext <;> cases isNext
  | stopped => cases isNext

theorem positiveCalls_step
    {environment : Environment} {world world' : World} {action : Action}
    (positive : PositiveCalls world)
    (taken : step environment world action = some world') :
    PositiveCalls world' := by
  intro key run found'
  rcases operations_cases taken found' with
    found | ⟨_, _, _, -, begins, -, -⟩ | ⟨before, found, operates⟩
  · exact positive key run found
  · exact Or.inl (begins.unselected run rfl)
  · right
    apply positive_operates _ operates rfl
    rintro other rfl
    exact positive key other found

theorem issued_of_causedBy
    {state : System.State} {event : System.Event}
    {queueAction : Queue.Action} (notPart : isPart event = false)
    (caused : System.CausedBy state event queueAction) :
    Issued queueAction := by
  cases queueAction with
  | enqueue =>
      rcases caused.2 with ⟨_, _, _, isEvent⟩
      rw [isEvent] at notPart
      cases notPart
  | enqueuePipeline =>
      rw [caused.2] at notPart
      cases notPart
  | createTestTask | writeProgress => exact caused.1.elim
  | _ => exact trivial

theorem issued_of_queues
    {world : World} {event : Event} {queueAction : Queue.Action}
    (positive : PositiveCalls world)
    (queues : Queues world event queueAction) : Issued queueAction := by
  cases queues with
  | discover atLeastOne => exact ⟨rfl, rfl, atLeastOne⟩
  | pipeline _ found isNext =>
      rcases positive _ _ found with isStarted | atLeastOne
      · rw [isStarted] at isNext
        cases isNext
      · exact atLeastOne
  | retry => exact trivial

/-- A step of the world is a run of the queue. -/
theorem queue_steps
    {environment : Environment} {world world' : World} {action : Action}
    (positive : PositiveCalls world)
    (taken : step environment world action = some world') :
    Steps Queue.step (fun _ queueAction => Issued queueAction) world.db.task
      world'.db.task := by
  cases task_case taken with
  | system _ notPart steps =>
      exact (System.task_steps_by steps).weaken fun _ _ caused =>
        issued_of_causedBy notPart caused
  | same _ tasks =>
      rw [tasks]
      exact .refl
  | queued _ queues steps =>
      exact .single (issued_of_queues positive queues) steps

/-- No call has started yet, and no task is there. -/
structure Untouched (world : World) : Prop where
  tasks : world.db.task = .empty
  executions : world.system.executions = .empty
  operations : world.operations = .empty

theorem Untouched.positiveCalls
    {world : World} (untouched : Untouched world) : PositiveCalls world := by
  intro key run found
  rw [untouched.operations] at found
  cases found

/--
What any interleaving of the calls, the workers and the users does to the
tasks is a run of the queue with at least one attempt for each task; and in
every state it reaches, each task record is well-formed, and the payloads
of tasks, handlers and results name the Target of their task.
-/
theorem world_refines_queue
    {environment : Environment} {start finish : World}
    (untouched : Untouched start)
    (steps : Steps (step environment) (fun _ _ => True) start finish) :
    Steps Queue.step (fun _ queueAction => Issued queueAction) .empty
        finish.db.task ∧
      (∀ key row, finish.db.task.get key = some row →
        Queue.WellFormed row) ∧
      System.WellFormed finish.system := by
  have invariant := steps.invariant
    (fun world => PositiveCalls world ∧
      Steps Queue.step (fun _ queueAction => Issued queueAction) .empty
        world.db.task ∧
      System.WellFormed world.system)
    ⟨untouched.positiveCalls, untouched.tasks ▸ .refl,
      System.wellFormed_of_no_tasks untouched.tasks untouched.executions⟩
    (by
      rintro world action next ⟨positive, history, wellFormed⟩ - taken
      exact ⟨positiveCalls_step positive taken,
        history.trans (queue_steps positive taken),
        wellFormed_step wellFormed taken⟩)
  rcases invariant with ⟨-, history, wellFormed⟩
  refine ⟨history, ?_, wellFormed⟩
  apply history.invariant (fun tasks => ∀ key row,
    tasks.get key = some row → Queue.WellFormed row)
  · rintro key row ⟨⟩
  · intro tasks queueAction next before issued taken
    refine Queue.wellFormed_step before ?_ taken
    cases queueAction with
    | enqueue => exact issued.2.2
    | enqueuePipeline => exact issued
    | createTestTask => exact issued.elim
    | _ => exact trivial

/-- One worker. -/
def oneWorker : Environment where
  system := System.oneWorker
  fingerprint := fun _ _ => ""

/-- One Playlist, and nothing has happened. -/
def onePlaylist : World where
  system := System.onePlaylist

/-- A download phase with one Target, whose first task is claimed. -/
def startedPhase : List Action :=
  [⟨.system (.createTarget 1 1), 0⟩,
    ⟨.startDownload 1 .manual 10 3, 0⟩,
    ⟨.proceedDownload 1 none "", 1⟩,
    ⟨.proceedDownload 1 none "", 1⟩,
    ⟨.proceedDownload 1 none "", 1⟩,
    ⟨.proceedDownload 1 none "work", 1⟩,
    ⟨.system (.claim .network "network" none), 2⟩,
    ⟨.system (.start 1), 3⟩]

theorem untouched_onePlaylist : Untouched onePlaylist := ⟨rfl, rfl, rfl⟩

theorem world_refines_queue_startedPhase :
    ∃ finish row, run (step oneWorker) onePlaylist startedPhase =
        some finish ∧
      finish.db.task.get 1 = some row ∧ Queue.WellFormed row := by
  refine ⟨_, _, rfl, rfl, ?_⟩
  have refines := @world_refines_queue oneWorker onePlaylist _
    untouched_onePlaylist (Steps.of_run startedPhase rfl)
  exact refines.2.1 1 _ rfl

end Sluicery.Operations
