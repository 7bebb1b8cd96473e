import Sluicery.Operations.Exclusion
import Sluicery.Operations.TaskRuns
import Sluicery.System.PlaylistLock

/-!
# When a playlist is locked

A running Run locks its playlist.  A call which returns has ended its Run,
and a running discover Run has an unfinished task.  So a playlist is locked
exactly while a call works on it or a task of it is unfinished, unless a step
leaves a running Run behind.
-/

namespace Sluicery.Operations

open Sluicery.Library Sluicery.Library.Transition
open Sluicery.Db Sluicery.Db.TaskRepository
open Sluicery.Core Sluicery.Tasks

/-! ## The condition -/

/--
The step leaves a running Run behind: the process of a call stops, the last
commit of a retention raises, or a discover task ends without its Run.
-/
def leavesRun (world : World) (action : Action) : Bool :=
  match action.event with
  | .stop _ => true
  | .proceedRetention key _ (.raise ..) =>
      match world.operations.get key with
      | some (.retention _ execution) => execution.remaining.isEmpty
      | _ => false
  | .system event => System.endsWithoutRun world.system ⟨event, action.now⟩
  | _ => false

/-! ## Calls which return -/

/-- The Run is not running, if it is there. -/
def NotRunning (runs : Table RunRow) (runId : Nat) : Prop :=
  ∀ run, runs.get runId = some run → run.status ≠ .running

theorem notRunning_finish
    (runs : Table RunRow) (runId : Nat) {status : RunStatus}
    (stats : Json.Fields) (now : Time) (ends : status ≠ .running) :
    NotRunning (RunRepository.finish runs runId status stats now).2
      runId := by
  intro run' found'
  cases found : runs.get runId with
  | none =>
      rw [RunRepository.get_finish, found] at found'
      cases found'
  | some run =>
      rcases System.runEnded_finish stats now ends found with
        ⟨ended, foundEnded, notRunning⟩
      rw [found', Option.some.injEq] at foundEnded
      subst foundEnded
      exact notRunning

theorem notRunning_modify
    (runs : Table RunRow) (runId : Nat) {change : RunRow → RunRow}
    (ends : ∀ run, (change run).status ≠ .running) :
    NotRunning (runs.modify runId change) runId := by
  intro run' found'
  rw [Table.get_modify_self, Option.map_eq_some_iff] at found'
  rcases found' with ⟨run, -, rfl⟩
  exact ends run

/-- A download phase which returns has ended its Run. -/
theorem notRunning_download
    {run : DownloadRun} {db after : Database} {answer : Option String}
    {workId : String} {now : Time}
    (proceeds : run.proceed db answer workId now = .ok (none, after)) :
    NotRunning after.run run.runId := by
  unfold DownloadRun.proceed at proceeds
  split at proceeds
  case h_1 | h_3 | h_5 =>
    rcases ok_of_map_eq_ok proceeds with ⟨next, -, same⟩
    cases same
  case h_6 =>
    cases proceeds
    apply notRunning_finish
    unfold DownloadRun.finalStatus
    split
    · intro impossible
      cases impossible
    · intro impossible
      cases impossible
  all_goals cases proceeds

theorem notRunning_fail
    (run : DownloadRun) (db : Database) (now : Time) :
    NotRunning (run.fail db now).run run.runId := by
  apply notRunning_finish
  intro impossible
  cases impossible

theorem notRunning_conclude
    (execution : Retention.Execution) (outcome : Retention.Outcome)
    (now : Time) :
    NotRunning (execution.conclude outcome now).db.run execution.runId := by
  apply notRunning_modify
  intro run isRunning
  cases outcome <;> cases isRunning

theorem outcome_perform
    {fingerprint : StorageKind → Option Json.Fields → String}
    {execution next : Retention.Execution}
    {candidate : Retention.RetentionCandidate}
    {rest : List Retention.RetentionCandidate} {name : String} {now : Time}
    (performs : execution.perform fingerprint candidate rest name now =
      .ok next) : next.outcome = execution.outcome := by
  unfold Retention.Execution.perform at performs
  split at performs
  case h_1 => cases performs
  case h_2 | h_4 | h_6 =>
    split at performs <;> cases performs
    rfl
  all_goals
    cases performs
    rfl

/-- A retention which returns has ended its Run. -/
theorem notRunning_retention
    {fingerprint : StorageKind → Option Json.Fields → String}
    {execution next : Retention.Execution} {event : Retention.Event}
    (isOpen : execution.outcome = none)
    (guarded : ∀ tookEffect name now, event = .raise tookEffect name now →
      execution.remaining ≠ [])
    (taken : Retention.step fingerprint execution event = some next)
    (returns : next.outcome.isSome = true) :
    NotRunning next.db.run execution.runId := by
  have goesOn : ∀ {candidate rest name now},
      execution.perform fingerprint candidate rest name now = .ok next →
        NotRunning next.db.run execution.runId := by
    intro candidate rest name now performs
    rw [outcome_perform performs, isOpen] at returns
    cases returns
  cases event with
  | proceed name now =>
      simp only [Retention.step] at taken
      split at taken
      · cases taken
      split at taken
      · cases taken
        exact notRunning_conclude _ _ _
      · split at taken
        · next performs =>
            cases taken
            exact goesOn performs
        · cases taken
          exact notRunning_conclude _ _ _
  | raise tookEffect name now =>
      simp only [Retention.step] at taken
      split at taken
      · cases taken
      split at taken
      · next isEmpty => exact absurd isEmpty (guarded _ _ _ rfl)
      · split at taken
        · next performed performs =>
            split at taken
            · cases taken
              rw [← (@follows_perform fingerprint (fun _ => False) _ _ _ _ _
                _ performs).1]
              exact notRunning_conclude _ _ _
            · cases taken
              exact notRunning_conclude _ _ _
        · cases taken
          exact notRunning_conclude _ _ _

/-- A folder move which returns has ended its Run. -/
theorem notRunning_folderMove
    {fingerprint : StorageKind → Option Json.Fields → String}
    {execution next : FolderMove.Execution} {event : FolderMove.Event}
    (isOpen : execution.outcome = none)
    (taken : FolderMove.step fingerprint execution event = some next)
    (returns : next.outcome.isSome = true) :
    NotRunning next.db.run execution.runId := by
  have failed : ∀ (failing : FolderMove.Execution) now,
      NotRunning (failing.fail now).db.run failing.runId := by
    intro failing now
    apply notRunning_modify
    intro run isRunning
    cases isRunning
  cases event with
  | proceed logPath now =>
      simp only [FolderMove.step] at taken
      split at taken
      · cases taken
      split at taken
      · next performs =>
          cases taken
          unfold FolderMove.Execution.perform at performs
          split at performs
          case h_2 =>
            -- The commit of the name is the one which returns.
            split at performs <;> cases performs
            apply notRunning_modify
            intro run isRunning
            cases isRunning
          case h_1 =>
            cases performs
            rw [isOpen] at returns
            cases returns
          case h_3 | h_5 =>
            split at performs <;> cases performs
            rw [isOpen] at returns
            cases returns
          case h_4 =>
            rcases Option.map_eq_some_iff.mp performs with ⟨files, -, rfl⟩
            rw [isOpen] at returns
            cases returns
          case h_6 => cases performs
      · cases taken
        exact failed _ _
  | raise tookEffect logPath now =>
      simp only [FolderMove.step] at taken
      split at taken
      · cases taken
      split at taken
      · next performed performs =>
          cases taken
          split
          · exact failed (execution.afterEffect performed) now
          · exact failed _ _
      · cases taken
        exact failed _ _
  | outside files =>
      cases taken
      rw [isOpen] at returns
      cases returns

/-! ## Calls which go on -/

/-- The call has no outcome yet. -/
def Operation.isOpen : Operation → Prop
  | .download _ => True
  | .retention _ execution => execution.outcome = none
  | .folderMove execution => execution.outcome = none

theorem isOpen_of_start
    {environment : Environment} {world : World} {action : Action}
    {key : Nat} {operation : Operation}
    (isStart : action.event.isStart = true)
    (found : (stepStart environment world action.now
      action.event).operations.get key = some operation) :
    world.operations.get key = some operation ∨ operation.isOpen := by
  obtain ⟨event, now⟩ := action
  cases event with
  | startDiscover playlistId dryRun trigger attempts =>
      unfold stepStart at found
      dsimp only at found
      split at found <;> exact Or.inl found
  | startDownload playlistId trigger targetLimit retryLimit =>
      unfold stepStart at found
      dsimp only at found
      split at found
      · exact Or.inl found
      · rw [World.started, Table.get_insert] at found
        split at found
        · cases found
          exact Or.inr trivial
        · exact Or.inl found
  | startRetention plan files logs logPath =>
      unfold stepStart at found
      dsimp only at found
      split at found
      · exact Or.inl found
      · next execution starts =>
          rw [World.started, Table.get_insert] at found
          split at found
          · cases found
            right
            unfold Retention.start at starts
            repeat' split at starts
            all_goals cases starts
            rfl
          · exact Or.inl found
  | startFolderMove plan files =>
      unfold stepStart at found
      dsimp only at found
      split at found
      · exact Or.inl found
      split at found
      · exact Or.inl found
      · next execution starts =>
          rw [World.started, Table.get_insert] at found
          split at found
          · cases found
            right
            unfold FolderMove.start at starts
            dsimp only at starts
            repeat' split at starts
            all_goals cases starts
            rfl
          · exact Or.inl found
  | _ => cases isStart

theorem isOpen_of_operates
    {environment : Environment} {db after : Database} {before : Operation}
    {goesOn : Operation}
    (operates : Operates environment db before after (some goesOn)) :
    goesOn.isOpen := by
  generalize isNext : some goesOn = next at operates
  cases operates with
  | download =>
      rcases Option.map_eq_some_iff.mp isNext.symm with ⟨run, -, rfl⟩
      exact trivial
  | raised | stopped => cases isNext
  | retention | folderMove =>
      split at isNext
      · cases isNext
      · next hasNone =>
          cases isNext
          exact Option.not_isSome_iff_eq_none.mp hasNone

/-- The next step of a call: it goes on, or its Run is not running. -/
theorem run_of_call
    {environment : Environment} {world world' : World} {action : Action}
    {key : Nat} {operation : Operation}
    (isOpen : operation.isOpen)
    (notLeft : leavesRun world action = false)
    (isEvent : action.event.operation = some key)
    (found : world.operations.get key = some operation)
    (taken : stepOperation environment world action.now action.event =
      some world') :
    (∃ goesOn, world'.operations.get key = some goesOn ∧
      goesOn.runId = operation.runId) ∨
      NotRunning world'.db.run operation.runId := by
  obtain ⟨event, now⟩ := action
  have continues : ∀ db goesOn, goesOn.runId = operation.runId →
      ∃ other, (world.continued db key goesOn).operations.get key =
        some other ∧ other.runId = operation.runId := by
    intro db goesOn same
    refine ⟨goesOn, ?_, same⟩
    rw [World.continued, Table.get_modify_self, found, Option.map_some]
  cases event with
  | proceedDownload called answer workId =>
      cases isEvent
      simp only [stepOperation, found] at taken
      cases operation with
      | download run =>
          dsimp only at taken
          split at taken
          · cases taken
            exact Or.inr (notRunning_fail _ _ _)
          · next proceeds =>
              cases taken
              exact Or.inr (notRunning_download proceeds)
          · next proceeds =>
              cases taken
              exact Or.inl (continues _ _ (kept_proceed proceeds _ rfl).1)
      | retention | folderMove => cases taken
  | raiseDownload called =>
      cases isEvent
      simp only [stepOperation, found] at taken
      cases operation with
      | download run =>
          cases taken
          exact Or.inr (notRunning_fail _ _ _)
      | retention | folderMove => cases taken
  | proceedRetention called files event =>
      cases isEvent
      simp only [stepOperation, found] at taken
      cases operation with
      | download | folderMove => cases taken
      | retention playlistId execution =>
          rcases Option.map_eq_some_iff.mp taken with ⟨next, steps, rfl⟩
          split
          · next returns =>
              right
              refine @notRunning_retention environment.fingerprint
                { execution with db := world.db, files } next event isOpen ?_
                steps returns
              rintro tookEffect name raisedAt rfl isEmpty
              dsimp only at isEmpty
              simp [leavesRun, found, isEmpty] at notLeft
          · exact Or.inl (continues _ _ (follows_retention steps).1)
  | proceedFolderMove called files event =>
      cases isEvent
      simp only [stepOperation, found] at taken
      cases operation with
      | download | retention => cases taken
      | folderMove execution =>
          rcases Option.map_eq_some_iff.mp taken with ⟨next, steps, rfl⟩
          split
          · next returns =>
              exact Or.inr (@notRunning_folderMove environment.fingerprint
                { execution with db := world.db, files } next event isOpen
                steps returns)
          · exact Or.inl (continues _ _ (follows_folderMove steps).1)
  | stop => cases notLeft
  | _ => cases isEvent

/-! ## The invariant -/

/-- Every running Run has a call, or an unfinished discover task. -/
structure Attended (world : World) : Prop where
  isOpen : ∀ key operation, world.operations.get key = some operation →
    operation.isOpen
  calls : ∀ runId run, world.db.run.get runId = some run →
    run.status = .running → run.kind ≠ "discover" →
      ∃ key operation, world.operations.get key = some operation ∧
        operation.runId = runId
  held : System.LockHeld world.system

/-- A Run which is running was running before. -/
theorem Follows.running
    {mayEnd : Nat → Prop} {before after : Database}
    (follows : Follows mayEnd before after) {runId : Nat} {run' : RunRow}
    (found' : after.run.get runId = some run')
    (isRunning : run'.status = .running) :
    ∃ run, before.run.get runId = some run ∧ run.status = .running ∧
      run.kind = run'.kind := by
  cases found : before.run.get runId with
  | none => exact absurd isRunning (follows.fresh found found')
  | some run =>
      rcases follows.runs found with ⟨again, foundAgain, same⟩
      rw [found', Option.some.injEq] at foundAgain
      subst foundAgain
      exact ⟨run, rfl, same.running isRunning, same.kind.symm⟩

theorem Follows.ended
    {mayEnd : Nat → Prop} {before after : Database}
    (follows : Follows mayEnd before after) {runId : Nat}
    (ended : System.RunEnded before.run runId) :
    System.RunEnded after.run runId := by
  rcases ended with ⟨run, found, notRunning⟩
  rcases follows.runs found with ⟨run', found', same⟩
  exact ⟨run', found', fun isRunning => notRunning (same.running isRunning)⟩

/-- Events which leave the executions keep what discover Runs have. -/
theorem lockHeld_kept
    {world world' : World} (held : System.LockHeld world.system)
    (owned' : Owned world')
    (executions : world'.system.executions = world.system.executions)
    (ended : ∀ runId, System.RunEnded world.db.run runId →
      System.RunEnded world'.db.run runId)
    (running : ∀ runId run', world'.db.run.get runId = some run' →
      run'.status = .running → run'.kind = "discover" →
        ∃ run, world.db.run.get runId = some run ∧
          run.status = .running ∧ run.kind = run'.kind)
    (unfinished : ∀ key task, world.db.task.get key = some task →
      isUnfinished task.status = true →
        ∃ task', world'.db.task.get key = some task' ∧
          isUnfinished task'.status = true ∧
          reference task' = reference task) :
    System.LockHeld world'.system := by
  constructor
  · intro key task found isDiscover runId inRun
    rcases owned'.tasks key task found with ⟨own, run, -, isRun, foundRun, -⟩
    rw [inRun, Option.some.injEq] at isRun
    subst isRun
    exact ⟨run, foundRun⟩
  · intro key execution found isDiscover result isStage notBlocked runId inRun
    rw [executions] at found
    exact ended runId (held.reported key execution found isDiscover result
      isStage notBlocked runId inRun)
  · intro runId run' found' isRunning isDiscover
    rcases running runId run' found' isRunning isDiscover with
      ⟨run, found, wasRunning, kind⟩
    rcases held.held runId run found wasRunning (kind.trans isDiscover) with
      ⟨key, task, foundTask, taskDiscover, inRun, isUnfinishedTask⟩
    rcases unfinished key task foundTask isUnfinishedTask with
      ⟨task', foundTask', unfinished', same⟩
    simp only [reference, Prod.mk.injEq] at same
    exact ⟨key, task', foundTask', same.2.1.trans taskDiscover,
      same.1.trans inRun, unfinished'⟩

/-- A manual retry takes no work away. -/
theorem unfinished_retry
    {tasks : Table TaskRow} {taskId : Nat} {now : Time} {key : Nat}
    {task : TaskRow} (found : tasks.get key = some task)
    (unfinished : isUnfinished task.status = true) :
    ∃ task', (retry tasks taskId now).2.get key = some task' ∧
      isUnfinished task'.status = true ∧ reference task' = reference task := by
  rw [retry, Table.get_updateWhere, found, Option.map_some]
  split
  · exact ⟨_, rfl, rfl, rfl⟩
  · exact ⟨task, rfl, unfinished, rfl⟩

section Steps

variable {environment : Environment} {world world' : World} {action : Action}

theorem stepOperation_of_step
    {key : Nat} (isEvent : action.event.operation = some key)
    (taken : step environment world action = some world') :
    stepOperation environment world action.now action.event =
      some world' := by
  obtain ⟨event, now⟩ := action
  cases event with
  | proceedDownload | raiseDownload | proceedRetention
  | proceedFolderMove | stop => exact taken
  | _ => cases isEvent

/-- A Run of a call which starts, or a Run from before, is running. -/
theorem Begins.ofRunning
    {playlistId : Nat} {operation : Operation} {runs : Table RunRow}
    {run : RunRow} (begins : Begins world playlistId operation runs run)
    {runId : Nat} {run' : RunRow}
    (found' : (runs.insert run).get runId = some run')
    (isRunning : run'.status = .running) :
    (runId = operation.runId ∧ run' = run) ∨
      world.db.run.get runId = some run' := by
  rw [Table.get_insert] at found'
  split at found'
  · next isNew =>
      cases found'
      exact Or.inl ⟨isNew.trans begins.runId.symm, rfl⟩
  · rcases begins.recovered runId with
      same | ⟨-, before, after, -, foundAfter, -, -, -, ended⟩
    · exact Or.inr (same.symm.trans found')
    · rw [foundAfter, Option.some.injEq] at found'
      subst found'
      exact absurd isRunning ended

/-- A Run which had ended stays so at a start. -/
theorem Begins.ended
    {playlistId : Nat} {operation : Operation} {runs : Table RunRow}
    {run : RunRow} (begins : Begins world playlistId operation runs run)
    {runId : Nat} (ended : System.RunEnded world.db.run runId) :
    System.RunEnded (runs.insert run) runId := by
  rcases ended with ⟨own, found, notRunning⟩
  rcases begins.recovered runId with
    same | ⟨-, before, after, -, foundAfter, -, -, -, ends⟩
  · exact ⟨own, Table.get_insert_of_some _ (same.trans found), notRunning⟩
  · exact ⟨after, Table.get_insert_of_some _ foundAfter, ends⟩

/-- The Runs of the calls. -/
theorem Attended.calls_step
    (wellFormed : System.WellFormed world.system)
    (attended : Attended world)
    (notLeft : leavesRun world action = false)
    (taken : step environment world action = some world')
    {runId : Nat} {run' : RunRow}
    (found' : world'.db.run.get runId = some run')
    (isRunning : run'.status = .running) (notDiscover : run'.kind ≠ "discover") :
    ∃ key operation, world'.operations.get key = some operation ∧
      operation.runId = runId := by
  have before : ∀ {mayEnd : Nat → Prop} {db : Database},
      Follows mayEnd world.db db → db.run.get runId = some run' →
      ∃ key operation, world.operations.get key = some operation ∧
        operation.runId = runId := by
    intro mayEnd db follows found'
    rcases follows.running found' isRunning with ⟨run, found, was, kind⟩
    exact attended.calls runId run found was (kind ▸ notDiscover)
  cases step_case taken with
  | system isEvent notPart steps =>
      exact before (follows_system wellFormed notPart steps) found'
  | refused => exact attended.calls runId run' found' isRunning notDiscover
  | discover isEvent starts =>
      rcases ok_of_enqueueDiscoverRun starts with ⟨-, -, rfl⟩
      rw [World.withDb, World.db, RunRepository.start, Table.get_insert]
        at found'
      split at found'
      · cases found'
        exact absurd rfl notDiscover
      · exact attended.calls runId run' found' isRunning notDiscover
  | @start playlistId operation runs run isStart begins =>
      rcases begins.ofRunning found' isRunning with ⟨isNew, -⟩ | found
      · exact ⟨world.operations.nextKey, operation,
          Table.get_insert_nextKey _ _, isNew.symm⟩
      · rcases attended.calls runId run' found isRunning notDiscover with
          ⟨key, called, foundCall, same⟩
        exact ⟨key, called, Table.get_insert_of_some _ foundCall, same⟩
  | @operate key operation db next isEvent found operates =>
      have isDb := world.db_after key db next
      rcases before (follows_operates operates).2.2 (isDb ▸ found') with
        ⟨other, called, foundCall, same⟩
      by_cases isCall : other = key
      · subst isCall
        rw [found, Option.some.injEq] at foundCall
        subst foundCall
        rcases run_of_call (attended.isOpen other operation found) notLeft
            isEvent found (stepOperation_of_step isEvent taken) with
          ⟨goesOn, foundNext, sameRun⟩ | notRunning
        · exact ⟨other, goesOn, foundNext, sameRun.trans same⟩
        · rw [same] at notRunning
          exact absurd isRunning (notRunning run' found')
      · exact ⟨other, called, get_other isCall foundCall, same⟩
  | user acts => exact before (follows_user acts) found'

/-- The discover Runs. -/
theorem lockHeld_step
    (wellFormed : System.WellFormed world.system) (owned' : Owned world')
    (held : System.LockHeld world.system)
    (notLeft : leavesRun world action = false)
    (taken : step environment world action = some world') :
    System.LockHeld world'.system := by
  cases step_case taken with
  | @system event system isEvent notPart steps =>
      apply System.lockHeld_step wellFormed held _ steps
      simpa only [leavesRun, isEvent] using notLeft
  | refused => exact held
  | @discover playlistId attempts dryRun trigger started isEvent starts =>
      have steps : System.step environment.system world.system
          ⟨.startDiscover playlistId dryRun trigger attempts, action.now⟩ =
            some (world.withDb started.2).system := by
        show Option.map _ (enqueueDiscoverRun world.db playlistId dryRun
          trigger attempts action.now).toOption = _
        rw [starts]
        rfl
      exact System.lockHeld_step wellFormed held rfl steps
  | @start playlistId operation runs run isStart begins =>
      apply lockHeld_kept held owned' rfl
      · exact fun runId => begins.ended
      · intro runId run' found' isRunning isDiscover
        rcases begins.ofRunning found' isRunning with ⟨-, rfl⟩ | found
        · exact absurd (begins.kind.symm.trans isDiscover)
            (kind_ne_discover operation)
        · exact ⟨run', found, isRunning, rfl⟩
      · exact fun key task found unfinished => ⟨task, found, unfinished, rfl⟩
  | @operate key operation db next isEvent found operates =>
      have isDb := world.db_after key db next
      have follows := (follows_operates operates).2.2
      apply lockHeld_kept held owned'
      · exact world.executions_after key db next
      · rw [isDb]
        exact fun runId => follows.ended
      · rw [isDb]
        exact fun _ _ found' isRunning _ => follows.running found' isRunning
      · rw [isDb]
        intro taskKey task foundTask unfinished
        refine ⟨task, ?_, unfinished, rfl⟩
        rcases operates_tasks operates with
          same | ⟨download, targetId, workId, -, -, tasks⟩
        · rw [same]
          exact foundTask
        · rw [tasks]
          exact (enqueuePipeline_extends world.db.task targetId
            (some download.runId) workId download.retryLimit).kept foundTask
  | @user db acts =>
      have follows := follows_user acts
      apply lockHeld_kept held owned' rfl
      · exact fun runId => follows.ended
      · exact fun _ _ found' isRunning _ => follows.running found' isRunning
      · intro key task found unfinished
        by_cases isRetry : ∃ taskId, action.event = .retryTask taskId
        · rcases isRetry with ⟨taskId, isEvent⟩
          obtain ⟨event, now⟩ := action
          dsimp only at isEvent
          subst isEvent
          cases acts
          exact unfinished_retry found unfinished
        · have same := tasks_of_stepUser
            (fun taskId isEvent => isRetry ⟨taskId, isEvent⟩) acts
          refine ⟨task, ?_, unfinished, rfl⟩
          rw [World.withDb, World.db, same]
          exact found

theorem attended_step
    (wellFormed : System.WellFormed world.system) (owned' : Owned world')
    (attended : Attended world)
    (notLeft : leavesRun world action = false)
    (taken : step environment world action = some world') :
    Attended world' := by
  constructor
  · intro key operation found'
    rcases operations_cases taken found' with
      found | ⟨_, _, _, isStart, -⟩ | ⟨before, found, operates⟩
    · exact attended.isOpen key operation found
    · rw [eq_stepStart isStart taken] at found'
      rcases isOpen_of_start isStart found' with found | isOpen
      · exact attended.isOpen key operation found
      · exact isOpen
    · exact isOpen_of_operates operates
  · intro runId run' found' isRunning notDiscover
    exact attended.calls_step wellFormed notLeft taken found' isRunning
      notDiscover
  · exact lockHeld_step wellFormed owned' attended.held notLeft taken

end Steps

/-! ## The lock -/

theorem Idle.attended {world : World} (idle : Idle world) :
    Attended world := by
  constructor
  · intro key operation found
    rw [idle.operations] at found
    cases found
  · intro runId run found isRunning
    exact absurd isRunning (idle.runs runId run found)
  · have unlocked : System.Unlocked world.system :=
      ⟨idle.tasks, idle.executions, idle.runs⟩
    exact unlocked.lockHeld

/-- A playlist which is active has a call or an unfinished task. -/
theorem Attended.working
    {world : World} (owned : Owned world) (attended : Attended world)
    {playlistId : Nat}
    (active : playlistSyncIsActive world.db playlistId = true) :
    (∃ key operation, world.operations.get key = some operation ∧
      operation.playlistId = playlistId) ∨
    ∃ key task, world.db.task.get key = some task ∧
      isUnfinished task.status = true ∧
      taskPlaylist world.db task = some playlistId := by
  simp only [playlistSyncIsActive, Bool.or_eq_true, Table.any_eq_true_iff,
    Bool.and_eq_true, beq_iff_eq] at active
  rcases active with (⟨key, task, found, ⟨direct, same⟩, unfinished⟩ |
    ⟨key, task, found, ⟨ofTarget, unfinished⟩, inPlaylist⟩) |
    ⟨runId, run, found, inPlaylist, isRunning⟩
  · right
    refine ⟨key, task, found, unfinished, ?_⟩
    rw [taskPlaylist, if_pos direct, same]
  · right
    refine ⟨key, task, found, unfinished, ?_⟩
    have notDirect : task.targetRefType ≠ "playlist" := by
      rw [ofTarget]
      decide
    rw [taskPlaylist, if_neg notDirect, if_pos ofTarget, targetPlaylist]
    rcases (Option.any_eq_true _ _).mp inPlaylist with ⟨item, isItem, same⟩
    rw [isItem, Option.map_some, beq_iff_eq.mp same]
  · by_cases isDiscover : run.kind = "discover"
    · right
      rcases attended.held.held runId run found isRunning isDiscover with
        ⟨key, task, foundTask, -, inRun, unfinished⟩
      refine ⟨key, task, foundTask, unfinished, ?_⟩
      rcases owned.tasks key task foundTask with
        ⟨own, again, ownPlaylist, isOwn, foundOwn, -, inOwn, isPlaylist⟩
      rw [inRun, Option.some.injEq] at isOwn
      subst isOwn
      rw [found, Option.some.injEq] at foundOwn
      subst foundOwn
      rwa [← inOwn, inPlaylist] at isPlaylist
    · left
      rcases attended.calls runId run found isRunning isDiscover with
        ⟨key, operation, foundCall, rfl⟩
      refine ⟨key, operation, foundCall, ?_⟩
      rcases (owned.calls key operation foundCall).run with
        ⟨again, foundAgain, -, inOwn⟩
      rw [found, Option.some.injEq] at foundAgain
      subst foundAgain
      rw [inPlaylist, Option.some.injEq] at inOwn
      exact inOwn.symm

/-- The steps which neither disturb a call nor leave a running Run. -/
def Orderly (environment : Environment) (world : World) (action : Action) :
    Prop :=
  disturbs environment world action = false ∧ leavesRun world action = false

theorem attended_of_run
    {environment : Environment} {start finish : World} (idle : Idle start)
    (steps : Steps (step environment) (Orderly environment) start finish) :
    Attended finish := by
  have invariant := steps.invariant
    (fun world =>
      System.WellFormed world.system ∧ Owned world ∧ Attended world)
    ⟨System.wellFormed_of_no_tasks idle.tasks idle.executions,
      idle.toUntouched.owned, idle.attended⟩
    (by
      rintro world action next ⟨wellFormed, owned, attended⟩ ⟨-, notLeft⟩
        taken
      have owned' := owned_step wellFormed owned taken
      exact ⟨wellFormed_step wellFormed taken, owned',
        attended_step wellFormed owned' attended notLeft taken⟩)
  exact invariant.2.2

/--
In every run of orderly steps a playlist is locked exactly while a call works
on it or a task of it is unfinished: the lock is never left behind, and never
given up early.
-/
theorem playlist_locked_iff
    {environment : Environment} {start finish : World} (idle : Idle start)
    (steps : Steps (step environment) (Orderly environment) start finish)
    (playlistId : Nat) :
    playlistSyncIsActive finish.db playlistId = true ↔
      (∃ key operation, finish.operations.get key = some operation ∧
        operation.playlistId = playlistId) ∨
      ∃ key task, finish.db.task.get key = some task ∧
        isUnfinished task.status = true ∧
        taskPlaylist finish.db task = some playlistId := by
  have attended := attended_of_run idle steps
  rcases exclusive_of_run idle (steps.weaken fun _ _ orderly => orderly.1) with
    ⟨owned, exclusive⟩
  constructor
  · exact attended.working owned
  · intro working
    by_contra inactive
    have noRun : ∀ runId, isActive finish.db playlistId runId ≠ true :=
      fun _ => not_active_of_inactive owned.tasks
        (Bool.eq_false_iff.mpr inactive)
    rcases working with ⟨key, operation, found, rfl⟩ |
      ⟨key, task, found, unfinished, inPlaylist⟩
    · exact noRun _ (exclusive.active owned found)
    · rcases active_of_unfinished_task owned found unfinished with
        ⟨runId, own, -, isPlaylist, active⟩
      rw [inPlaylist, Option.some.injEq] at isPlaylist
      subst isPlaylist
      exact noRun runId active

theorem orderly_startedPhase {finish : World}
    (executed : run (fun world action =>
      if !disturbs oneWorker world action && !leavesRun world action then
        step oneWorker world action
      else none) onePlaylist startedPhase = some finish) :
    Steps (step oneWorker) (Orderly oneWorker) onePlaylist finish := by
  apply Steps.of_checked_run (fun world action =>
    !disturbs oneWorker world action && !leavesRun world action) _
    startedPhase executed
  intro world action passes
  rwa [Bool.and_eq_true, Bool.not_eq_true', Bool.not_eq_true'] at passes

theorem playlist_locked_iff_startedPhase :
    ∃ finish, run (step oneWorker) onePlaylist startedPhase = some finish ∧
      ((∃ key operation, finish.operations.get key = some operation ∧
        operation.playlistId = 1) ∨
      ∃ key task, finish.db.task.get key = some task ∧
        isUnfinished task.status = true ∧
        taskPlaylist finish.db task = some 1) := by
  refine ⟨_, rfl, ?_⟩
  have locked := @playlist_locked_iff oneWorker onePlaylist _
    idle_onePlaylist (orderly_startedPhase rfl) 1
  exact locked.mp rfl

end Sluicery.Operations
