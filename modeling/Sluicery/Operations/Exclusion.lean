import Sluicery.Operations.TaskOwners

/-!
# One operation for a playlist

A Run is active while it is running or has an unfinished task.  A start is
refused while a Run of its playlist is active.  So at most one is, unless a
cancel or a recovery ends the Run of a call which goes on, or a task is
retried beside the Run of another operation.
-/

namespace Sluicery.Operations

open Sluicery.Library Sluicery.Library.Transition
open Sluicery.Db Sluicery.Db.TaskRepository
open Sluicery.Core Sluicery.Tasks

/-! ## Active Runs -/

/-- The Run belongs to the playlist, and is running or has work to do. -/
def isActive (db : Database) (playlistId runId : Nat) : Bool :=
  (db.run.get runId).any fun run =>
    run.playlistId == some playlistId &&
      (run.status == .running || db.task.any fun _ task =>
        task.runId == some runId && isUnfinished task.status)

theorem isActive_iff
    {db : Database} {playlistId runId : Nat} :
    isActive db playlistId runId = true ↔
      ∃ run, db.run.get runId = some run ∧
        run.playlistId = some playlistId ∧
        (run.status = .running ∨ ∃ key task,
          db.task.get key = some task ∧ task.runId = some runId ∧
            isUnfinished task.status = true) := by
  simp only [isActive, Option.any_eq_true, Bool.and_eq_true, beq_iff_eq,
    Bool.or_eq_true, Table.any_eq_true_iff]

/-- No two Runs of a playlist are active. -/
def Alone (db : Database) : Prop :=
  ∀ playlistId first second, isActive db playlistId first = true →
    isActive db playlistId second = true → first = second

theorem Alone.of_active
    {before after : Database} (alone : Alone before)
    (each : ∀ playlistId runId, isActive after playlistId runId = true →
      isActive before playlistId runId = true) : Alone after := by
  intro playlistId first second isFirst isSecond
  exact alone playlistId first second (each _ _ isFirst) (each _ _ isSecond)

/-- One more Run is active, and was alone on its playlist. -/
theorem Alone.add
    {before after : Database} {playlistId runId : Nat} (alone : Alone before)
    (free : ∀ other, isActive before playlistId other = true →
      other = runId)
    (each : ∀ owner other, isActive after owner other = true →
      isActive before owner other = true ∨
        (owner = playlistId ∧ other = runId)) : Alone after := by
  intro owner first second isFirst isSecond
  rcases each owner first isFirst with first | ⟨rfl, rfl⟩
  · rcases each owner second isSecond with second | ⟨rfl, rfl⟩
    · exact alone owner _ _ first second
    · exact free _ first
  · rcases each owner second isSecond with second | ⟨-, rfl⟩
    · exact (free _ second).symm
    · rfl

/-- A playlist which is not active has no active Run. -/
theorem not_active_of_inactive
    {db : Database} {playlistId runId : Nat}
    (owned : ∀ key task, db.task.get key = some task → TaskOwned db task)
    (inactive : playlistSyncIsActive db playlistId = false) :
    isActive db playlistId runId ≠ true := by
  intro active
  simp only [playlistSyncIsActive, Bool.or_eq_false_iff] at inactive
  rcases inactive with ⟨⟨direct, ofTarget⟩, running⟩
  rcases isActive_iff.mp active with
    ⟨run, found, inPlaylist, isRunning | ⟨key, task, foundTask, inRun,
      unfinished⟩⟩
  · refine absurd ?_ (Bool.eq_false_iff.mp running)
    rw [Table.any_eq_true_iff]
    refine ⟨runId, run, found, ?_⟩
    simp [inPlaylist, isRunning]
  · rcases owned key task foundTask with
      ⟨ownRunId, own, ownPlaylist, isRun, foundOwn, -, ownIn, isPlaylist⟩
    rw [inRun, Option.some.injEq] at isRun
    subst isRun
    rw [found, Option.some.injEq] at foundOwn
    subst foundOwn
    rw [inPlaylist, Option.some.injEq] at ownIn
    subst ownIn
    unfold taskPlaylist at isPlaylist
    split at isPlaylist
    · next isDirect =>
        refine absurd ?_ (Bool.eq_false_iff.mp direct)
        rw [Table.any_eq_true_iff]
        refine ⟨key, task, foundTask, ?_⟩
        simp [isDirect, Option.some.inj isPlaylist, unfinished]
    · split at isPlaylist
      · next isTarget =>
          refine absurd ?_ (Bool.eq_false_iff.mp ofTarget)
          rw [Table.any_eq_true_iff]
          refine ⟨key, task, foundTask, ?_⟩
          unfold targetPlaylist at isPlaylist
          rcases Option.map_eq_some_iff.mp isPlaylist with
            ⟨item, isItem, same⟩
          simp [isTarget, unfinished, isItem, same]
      · cases isPlaylist

/-- Where an active Run comes from; `renewed` Runs got an unfinished task. -/
theorem active_before
    {mayEnd renewed : Nat → Prop} {before after : Database}
    (follows : Follows mayEnd before after)
    (known : ∀ key task', after.task.get key = some task' →
      ∀ runId, task'.runId = some runId → before.run.get runId ≠ none)
    (tasks : ∀ key task', after.task.get key = some task' →
      isUnfinished task'.status = true →
        System.UnfinishedBefore before.task key task' ∨
          ∃ runId, task'.runId = some runId ∧ renewed runId)
    {playlistId runId : Nat}
    (active : isActive after playlistId runId = true) :
    isActive before playlistId runId = true ∨
      (renewed runId ∧ ∃ run, before.run.get runId = some run ∧
        run.playlistId = some playlistId) := by
  rcases isActive_iff.mp active with ⟨run', found', inPlaylist, work⟩
  cases found : before.run.get runId with
  | none =>
      rcases work with isRunning | ⟨key, task', foundTask, inRun, -⟩
      · exact absurd isRunning (follows.fresh found found')
      · exact absurd found (known key task' foundTask runId inRun)
  | some run =>
      rcases follows.runs found with ⟨again, foundAgain, same⟩
      rw [found', Option.some.injEq] at foundAgain
      subst foundAgain
      have inBefore : run.playlistId = some playlistId :=
        same.playlistId.symm.trans inPlaylist
      rcases work with isRunning | ⟨key, task', foundTask, inRun, unfinished⟩
      · exact Or.inl (isActive_iff.mpr
          ⟨run, found, inBefore, Or.inl (same.running isRunning)⟩)
      · rcases tasks key task' foundTask unfinished with
          ⟨task, foundBefore, wasUnfinished, columns⟩ | ⟨own, isOwn, isRenewed⟩
        · have columns := reference_of_fixedColumns columns
          simp only [reference, Prod.mk.injEq] at columns
          exact Or.inl (isActive_iff.mpr ⟨run, found, inBefore, Or.inr
            ⟨key, task, foundBefore, columns.1 ▸ inRun, wasUnfinished⟩⟩)
        · rw [inRun, Option.some.injEq] at isOwn
          subst isOwn
          exact Or.inr ⟨isRenewed, run, rfl, inBefore⟩

/-- No task is new or was revived. -/
theorem active_of_unfinished
    {mayEnd : Nat → Prop} {before after : Database}
    (follows : Follows mayEnd before after)
    (known : ∀ key task', after.task.get key = some task' →
      ∀ runId, task'.runId = some runId → before.run.get runId ≠ none)
    (tasks : ∀ key task', after.task.get key = some task' →
      isUnfinished task'.status = true →
        System.UnfinishedBefore before.task key task')
    {playlistId runId : Nat}
    (active : isActive after playlistId runId = true) :
    isActive before playlistId runId = true := by
  have cases := @active_before _ (fun _ => False) _ _ follows known
    (fun key task' found' unfinished =>
      Or.inl (tasks key task' found' unfinished)) _ _ active
  exact cases.resolve_right fun impossible => impossible.1

/-! ## The condition -/

/--
The step ends the Run of a call which goes on, by a cancel of its tasks or a
recovery, or revives a task while another Run of its playlist is active.
-/
def disturbs (environment : Environment) (world : World) (action : Action) :
    Bool :=
  match action.event with
  | .system (.cancelRun runId) =>
      (requestCancelRun world.db.task runId action.now).1 != 0 &&
        world.operations.any fun _ operation => operation.runId == runId
  | .recoverOrphanRuns =>
      world.operations.any fun _ operation =>
        isRecovered environment world.db action operation.runId
  | .retryTask taskId =>
      (world.db.task.get taskId).any fun task =>
        (taskPlaylist world.db task).any fun playlistId =>
          world.db.run.any fun runId _ =>
            task.runId != some runId && isActive world.db playlistId runId
  | _ => false

/-- Every call has a running Run, and no playlist has two active Runs. -/
structure Exclusive (world : World) : Prop where
  running : ∀ key operation, world.operations.get key = some operation →
    ∃ run, world.db.run.get operation.runId = some run ∧
      run.status = .running
  alone : Alone world.db

/-! ## Events of the system and of users -/

section Quiet

variable {environment : Environment} {world world' : World}

theorem kind_ne_discover (operation : Operation) :
    operation.kind ≠ runKind .discover := by
  cases operation with
  | download => exact (by decide : "download" ≠ "discover")
  | retention => exact (by decide : "retention" ≠ "discover")
  | folderMove => exact (by decide : "folder_move" ≠ "discover")

/-- Only a discover task, or its own cancel, lets an event end a Run. -/
theorem not_touches_call
    (wellFormed : System.WellFormed world.system) (owned : Owned world)
    {event : System.Event} (notPart : isPart event = false)
    (notCancel : ∀ runId, event ≠ .cancelRun runId)
    {key : Nat} {operation : Operation}
    (found : world.operations.get key = some operation) :
    ¬ System.touchesRun world.system event operation.runId := by
  have notDiscover : ∀ taskKey task, world.db.task.get taskKey = some task →
      task.type = .discover → task.runId ≠ some operation.runId := by
    intro taskKey task foundTask isDiscover inRun
    rcases owned.tasks taskKey task foundTask with
      ⟨runId, run, -, isRun, foundRun, kind, -⟩
    rw [inRun, Option.some.injEq] at isRun
    subst isRun
    rcases (owned.calls key operation found).run with
      ⟨own, foundOwn, ownKind, -⟩
    rw [foundRun, Option.some.injEq] at foundOwn
    subst foundOwn
    rw [kind, isDiscover] at ownKind
    exact kind_ne_discover operation ownKind.symm
  have ofExecution : ∀ executionKey execution,
      world.system.executions.get executionKey = some execution →
      execution.task.type = .discover →
        System.handledRun execution ≠ operation.runId := by
    intro executionKey execution foundExecution isDiscover handled
    rcases (wellFormed.executions executionKey execution
      foundExecution).task with ⟨task, foundTask, same⟩
    have same := reference_of_fixedColumns same
    simp only [reference, Prod.mk.injEq] at same
    rcases owned.tasks _ task foundTask with ⟨runId, -, -, inRun, -⟩
    apply notDiscover _ task foundTask (same.2.1.trans isDiscover)
    rw [inRun, ← handled, System.handledRun, ← same.1, inRun]
    rfl
  intro touches
  cases event with
  | start executionKey | finish executionKey =>
      rcases touches with ⟨execution, foundExecution, isDiscover, handled⟩
      exact ofExecution _ execution foundExecution isDiscover handled
  | reap =>
      rcases touches with ⟨taskKey, task, foundTask, isDiscover, inRun⟩
      exact notDiscover taskKey task foundTask isDiscover inRun
  | cancelRun runId => exact notCancel runId rfl
  | interruptDiscover started taskKey
  | concludeDiscover started taskKey =>
      rcases touches with ⟨together, rfl⟩
      rcases (Option.any_eq_true _ _).mp together with
        ⟨task, foundTask, meets⟩
      rw [Bool.and_eq_true, beq_iff_eq, beq_iff_eq] at meets
      exact notDiscover taskKey task foundTask meets.1 meets.2
  | _ => exact touches

/-- An event which does not disturb ends no Run of a call. -/
theorem follows_undisturbed
    (wellFormed : System.WellFormed world.system) (owned : Owned world)
    {event : System.Event} {now : Time} {system : System.State}
    (notPart : isPart event = false)
    (undisturbed :
      disturbs environment world ⟨.system event, now⟩ = false)
    (taken : System.step environment.system world.system ⟨event, now⟩ =
      some system) :
    ∃ mayEnd, Follows mayEnd world.db system.db ∧
      ∀ key operation, world.operations.get key = some operation →
        ¬ mayEnd operation.runId := by
  have follows := follows_system wellFormed notPart taken
  by_cases isCancel : ∃ runId, event = .cancelRun runId
  · rcases isCancel with ⟨runId, rfl⟩
    by_cases none : (requestCancelRun world.db.task runId now).1 = 0
    · refine ⟨fun _ => False, ?_, fun _ _ _ => id⟩
      rcases Option.map_eq_some_iff.mp taken with ⟨db, cancels, rfl⟩
      unfold Web.runCancel at cancels
      rcases Option.map_eq_some_iff.mp cancels with ⟨run, -, rfl⟩
      dsimp only
      rw [if_pos none]
      exact follows_of_eq rfl rfl rfl
    · refine ⟨_, follows, ?_⟩
      rintro key operation found rfl
      simp only [disturbs, Bool.and_eq_false_iff, bne_eq_false_iff_eq]
        at undisturbed
      rcases undisturbed with isNone | noCall
      · exact none isNone
      · refine absurd ?_ (Bool.eq_false_iff.mp noCall)
        rw [Table.any_eq_true_iff]
        exact ⟨key, operation, found, beq_self_eq_true _⟩
  · refine ⟨_, follows, fun key operation found => ?_⟩
    exact not_touches_call wellFormed owned notPart
      (fun runId isEvent => isCancel ⟨runId, isEvent⟩) found

/-- The action of a user which does not disturb ends no Run of a call. -/
theorem not_recovered
    {action : Action}
    (undisturbed : disturbs environment world action = false)
    {key : Nat} {operation : Operation}
    (found : world.operations.get key = some operation) :
    isRecovered environment world.db action operation.runId = false := by
  obtain ⟨event, now⟩ := action
  cases event with
  | recoverOrphanRuns =>
      by_contra recovers
      simp only [disturbs] at undisturbed
      refine absurd ?_ (Bool.eq_false_iff.mp undisturbed)
      rw [Table.any_eq_true_iff]
      exact ⟨key, operation, found, Bool.eq_true_of_not_eq_false recovers⟩
  | _ => rfl

/-- The calls stay, and none of their Runs has ended. -/
theorem Exclusive.running_kept
    (exclusive : Exclusive world) {mayEnd : Nat → Prop}
    (follows : Follows mayEnd world.db world'.db)
    (goOn : ∀ key operation, world.operations.get key = some operation →
      ¬ mayEnd operation.runId)
    {key : Nat} {operation : Operation}
    (found : world.operations.get key = some operation) :
    ∃ run, world'.db.run.get operation.runId = some run ∧
      run.status = .running := by
  rcases exclusive.running key operation found with
    ⟨run, foundRun, isRunning⟩
  rcases follows.runs foundRun with ⟨run', foundRun', same⟩
  exact ⟨run', foundRun',
    (same.kept (goOn key operation found)).trans isRunning⟩

/-- The tasks of another database have Runs which were there before. -/
theorem Owned.known
    (owned : Owned world) {tasks : Table TaskRow}
    (from' : TasksFrom world.db.task tasks) :
    ∀ key task', tasks.get key = some task' → ∀ runId,
      task'.runId = some runId → world.db.run.get runId ≠ none := by
  intro key task' found' runId inRun missing
  rcases from' key task' found' with ⟨task, found, same⟩
  have same := reference_of_fixedColumns same
  simp only [reference, Prod.mk.injEq] at same
  exact owned.runId_ne missing found (same.1 ▸ inRun)

/-- A manual retry gives work to the Run of its task only. -/
theorem retry_unfinished
    {tasks : Table TaskRow} {taskId : Nat} {now : Time} {key : Nat}
    {task' : TaskRow} (found' : (retry tasks taskId now).2.get key =
      some task') (unfinished : isUnfinished task'.status = true) :
    System.UnfinishedBefore tasks key task' ∨
      ∃ task, tasks.get taskId = some task ∧ task'.runId = task.runId := by
  rw [retry, Table.get_updateWhere] at found'
  rcases Option.map_eq_some_iff.mp found' with ⟨task, found, same⟩
  split at same
  · next matched =>
      rw [Bool.and_eq_true, beq_iff_eq] at matched
      subst same
      exact Or.inr ⟨task, matched.1 ▸ found, rfl⟩
  · subst same
    exact Or.inl ⟨task, found, unfinished, rfl⟩

end Quiet

/-! ## Steps -/

section Steps

variable {environment : Environment} {world : World}

/-- The Run of a call is active. -/
theorem Exclusive.active
    (owned : Owned world) (exclusive : Exclusive world) {key : Nat}
    {operation : Operation}
    (found : world.operations.get key = some operation) :
    isActive world.db operation.playlistId operation.runId = true := by
  rcases (owned.calls key operation found).run with
    ⟨run, foundRun, -, inPlaylist⟩
  rcases exclusive.running key operation found with
    ⟨again, foundAgain, isRunning⟩
  rw [foundRun, Option.some.injEq] at foundAgain
  subst foundAgain
  exact isActive_iff.mpr ⟨run, foundRun, inPlaylist, Or.inl isRunning⟩

theorem Exclusive.system
    (wellFormed : System.WellFormed world.system) (owned : Owned world)
    (exclusive : Exclusive world) {event : System.Event} {now : Time}
    {system : System.State} (notPart : isPart event = false)
    (undisturbed :
      disturbs environment world ⟨.system event, now⟩ = false)
    (tasks : TasksFrom world.db.task system.db.task)
    (taken : System.step environment.system world.system ⟨event, now⟩ =
      some system) : Exclusive { world with system } := by
  rcases follows_undisturbed wellFormed owned notPart undisturbed taken with
    ⟨mayEnd, follows, goOn⟩
  constructor
  · intro key operation found
    exact @Exclusive.running_kept world { world with system } exclusive
      mayEnd follows goOn key operation found
  · apply exclusive.alone.of_active
    intro playlistId runId active
    have notInsert : event.inserts = false := by
      cases event with
      | startDiscover | enqueueTarget => cases notPart
      | _ => rfl
    apply active_of_unfinished follows (owned.known tasks) _ active
    intro key task' found' unfinished
    exact System.unfinishedBefore_of_step notInsert taken found' unfinished

/-- What the users do to the tasks, but for a manual retry. -/
theorem tasks_of_stepUser
    {db after : Database} {now : Time} {event : Event}
    (notRetry : ∀ taskId, event ≠ .retryTask taskId)
    (acts : stepUser environment db now event = some after) :
    after.task = db.task := by
  cases event with
  | recoverOrphanRuns =>
      cases acts
      rfl
  | recordSkipped =>
      cases acts
      unfold Scheduler.recordSkipped
      split <;> rfl
  | retryTask taskId => exact absurd rfl (notRetry taskId)
  | system => cases acts
  | _ =>
      exact (sameTasks_stepUser rfl
        (fun _ _ _ impossible => by cases impossible)
        (fun _ impossible => by cases impossible) acts).1

theorem Exclusive.user
    (owned : Owned world) (exclusive : Exclusive world) {action : Action}
    {db : Database}
    (undisturbed : disturbs environment world action = false)
    (tasks : TasksFrom world.db.task db.task)
    (acts : stepUser environment world.db action.now action.event =
      some db) : Exclusive (world.withDb db) := by
  have follows := follows_user acts
  constructor
  · intro key operation found
    apply @Exclusive.running_kept world (world.withDb db) exclusive _
      follows _ key operation found
    intro other called foundCalled
    rw [not_recovered undisturbed foundCalled]
    exact Bool.false_ne_true
  · by_cases isRetry : ∃ taskId, action.event = .retryTask taskId
    · rcases isRetry with ⟨taskId, isEvent⟩
      obtain ⟨event, now⟩ := action
      dsimp only at isEvent
      subst isEvent
      cases acts
      cases foundTask : world.db.task.get taskId with
      | none =>
          apply exclusive.alone.of_active
          intro playlistId runId active
          apply active_of_unfinished follows (owned.known tasks) _ active
          intro key task' found' unfinished
          rcases retry_unfinished found' unfinished with
            before | ⟨task, found, -⟩
          · exact before
          · rw [foundTask] at found
            cases found
      | some task =>
          rcases owned.tasks taskId task foundTask with
            ⟨retried, run, playlistId, inRun, foundRun, -, inPlaylist,
              isPlaylist⟩
          apply @Alone.add _ _ playlistId retried exclusive.alone
          · intro other active
            by_contra notSame
            refine absurd ?_ (Bool.eq_false_iff.mp undisturbed)
            rcases isActive_iff.mp active with ⟨otherRun, foundOther, -⟩
            simp only [disturbs, foundTask, isPlaylist, Option.any_some,
              Table.any_eq_true_iff]
            refine ⟨other, otherRun, foundOther, ?_⟩
            rw [active, inRun, Bool.and_true, bne_iff_ne]
            intro same
            exact notSame (Option.some.inj same).symm
          · intro owner runId active
            have revives : ∀ key task',
                (retry world.db.task taskId now).2.get key = some task' →
                isUnfinished task'.status = true →
                  System.UnfinishedBefore world.db.task key task' ∨
                    ∃ runId, task'.runId = some runId ∧ runId = retried := by
              intro key task' found' unfinished
              apply (retry_unfinished found' unfinished).imp_right
              rintro ⟨other, found, same⟩
              rw [foundTask, Option.some.injEq] at found
              subst found
              exact ⟨retried, same.trans inRun, rfl⟩
            apply (@active_before _ (fun runId => runId = retried) _ _
              follows (owned.known tasks) revives _ _ active).imp_right
            rintro ⟨rfl, own, foundOwn, inOwn⟩
            rw [foundRun, Option.some.injEq] at foundOwn
            subst foundOwn
            rw [inPlaylist, Option.some.injEq] at inOwn
            exact ⟨inOwn.symm, rfl⟩
    · apply exclusive.alone.of_active
      intro playlistId runId active
      have same := tasks_of_stepUser
        (fun taskId isEvent => isRetry ⟨taskId, isEvent⟩) acts
      apply active_of_unfinished follows (owned.known tasks) _ active
      intro key task' found' unfinished
      exact ⟨task', same ▸ found', unfinished, rfl⟩

/-- A Run is inserted, and the tasks of the other Runs are the same. -/
theorem active_of_insert
    {db : Database} {run : RunRow} {task : Table TaskRow}
    (tasks : ∀ key row, task.get key = some row →
      db.task.get key = some row ∨ row.runId = some db.run.nextKey)
    {playlistId owner runId : Nat}
    (inPlaylist : run.playlistId = some playlistId)
    (active : isActive { db with run := db.run.insert run, task } owner
      runId = true) :
    isActive db owner runId = true ∨
      (owner = playlistId ∧ runId = db.run.nextKey) := by
  rcases isActive_iff.mp active with ⟨own, found, inOwn, work⟩
  rw [Table.get_insert] at found
  split at found
  · next isNew =>
      cases found
      rw [inPlaylist, Option.some.injEq] at inOwn
      exact Or.inr ⟨inOwn.symm, isNew⟩
  · next old =>
      apply Or.inl
      rw [isActive_iff]
      refine ⟨own, found, inOwn, work.imp_right ?_⟩
      rintro ⟨key, row, foundRow, inRun, unfinished⟩
      rcases tasks key row foundRow with before | isNew
      · exact ⟨key, row, before, inRun, unfinished⟩
      · rw [inRun, Option.some.injEq] at isNew
        exact absurd isNew old

/-- The start of a discover Run with its task. -/
theorem Exclusive.discover
    (owned : Owned world) (exclusive : Exclusive world) {playlistId : Nat}
    {run : RunRow} {task : TaskRow}
    (inactive : playlistSyncIsActive world.db playlistId = false)
    (inPlaylist : run.playlistId = some playlistId)
    (inRun : task.runId = some world.db.run.nextKey) :
    Exclusive (world.withDb { world.db with
      run := world.db.run.insert run
      task := world.db.task.insert task }) where
  running key operation found := by
    rcases exclusive.running key operation found with ⟨own, foundRun, same⟩
    exact ⟨own, Table.get_insert_of_some _ foundRun, same⟩
  alone := by
    apply exclusive.alone.add
    · intro other active
      exact absurd active (not_active_of_inactive owned.tasks inactive)
    · intro owner other active
      apply active_of_insert _ inPlaylist active
      intro key row found
      rw [Table.get_insert] at found
      split at found
      · cases found
        exact Or.inr inRun
      · exact Or.inl found

/-- The Run of a call is not taken over by a start. -/
theorem Begins.kept
    (owned : Owned world) {playlistId : Nat} {operation : Operation}
    {runs : Table RunRow} {run own : RunRow}
    (begins : Begins world playlistId operation runs run) {key : Nat}
    {called : Operation} (found : world.operations.get key = some called)
    (foundRun : world.db.run.get called.runId = some own) :
    runs.get called.runId = some own := by
  rcases begins.recovered called.runId with
    same | ⟨unlocked, before, -, foundBefore, -, ⟨isMove, inMoved, -⟩, -⟩
  · exact same.trans foundRun
  · rcases (owned.calls key called found).run with
      ⟨again, foundAgain, kind, inPlaylist⟩
    rw [foundBefore, Option.some.injEq] at foundAgain
    subst foundAgain
    rw [inMoved, Option.some.injEq] at inPlaylist
    refine absurd ?_ (Bool.eq_false_iff.mp unlocked)
    rw [moveLocked, Table.any_eq_true_iff]
    refine ⟨key, called, found, ?_⟩
    rw [isMove] at kind
    cases called with
    | download => exact absurd kind (by decide : "folder_move" ≠ "download")
    | retention =>
        exact absurd kind (by decide : "folder_move" ≠ "retention")
    | folderMove execution => exact beq_iff_eq.mpr inPlaylist.symm

/-- The start of a call. -/
theorem Exclusive.start
    (owned : Owned world) (exclusive : Exclusive world) {playlistId : Nat}
    {operation : Operation} {runs : Table RunRow} {run : RunRow}
    (begins : Begins world playlistId operation runs run) :
    Exclusive (world.started { world.db with run := runs.insert run }
      operation) where
  running key called found := by
    rw [World.started, Table.get_insert] at found
    split at found
    · cases found
      refine ⟨run, ?_, begins.running⟩
      rw [begins.runId]
      exact Table.get_insert_nextKey _ _
    · rcases exclusive.running key called found with ⟨own, foundRun, same⟩
      exact ⟨own, Table.get_insert_of_some _
        (begins.kept owned found foundRun), same⟩
  alone := by
    have recovered : ∀ owner runId,
        isActive { world.db with run := runs } owner runId = true →
          isActive world.db owner runId = true := by
      intro owner runId active
      rcases isActive_iff.mp active with ⟨own, found, inPlaylist, work⟩
      rw [isActive_iff]
      rcases begins.recovered runId with
        same | ⟨-, before, after, foundBefore, foundAfter, -, -, same, ended⟩
      · exact ⟨own, same.symm.trans found, inPlaylist, work⟩
      · rw [foundAfter, Option.some.injEq] at found
        subst found
        exact ⟨before, foundBefore, same ▸ inPlaylist,
          Or.inr (work.resolve_left ended)⟩
    have tasks : ∀ key task, world.db.task.get key = some task →
        TaskOwned { world.db with run := runs } task :=
      fun key task found =>
        (owned.tasks key task found).kept begins.columns rfl
    apply (exclusive.alone.of_active recovered).add
    · intro other active
      exact absurd active (not_active_of_inactive tasks begins.inactive)
    · intro owner other active
      exact active_of_insert (fun _ _ => Or.inl) begins.inPlaylist active

/-- The step of a call. -/
theorem Exclusive.operate
    (owned : Owned world) (exclusive : Exclusive world) {key : Nat}
    {operation : Operation} {db : Database} {next : Option Operation}
    (found : world.operations.get key = some operation)
    (operates : Operates environment world.db operation db next) :
    Exclusive (world.after key db next) := by
  have called := owned.calls key operation found
  have isDb := world.db_after key db next
  rcases follows_operates operates with ⟨kept, -, follows⟩
  constructor
  · intro other after found'
    rw [isDb]
    have stays : ∃ run, world.db.run.get after.runId = some run ∧
        run.status = .running ∧
          ¬ (after.runId = operation.runId ∧ next = none) := by
      rcases get_after found found' with ⟨notSame, same⟩ | ⟨rfl, rfl⟩
      · rcases exclusive.running other after same with
          ⟨run, foundRun, isRunning⟩
        refine ⟨run, foundRun, isRunning, fun ends => notSame ?_⟩
        exact owned.ownRun other key _ _ same found ends.1
      · rw [(kept after rfl).1]
        rcases exclusive.running other operation found with
          ⟨run, foundRun, isRunning⟩
        exact ⟨run, foundRun, isRunning, fun ends => by cases ends.2⟩
    rcases stays with ⟨run, foundRun, isRunning, goesOn⟩
    rcases follows.runs foundRun with ⟨run', foundRun', same⟩
    exact ⟨run', foundRun', (same.kept goesOn).trans isRunning⟩
  · rw [isDb]
    apply exclusive.alone.of_active
    intro playlistId runId active
    have known : ∀ taskKey task, db.task.get taskKey = some task → ∀ own,
        task.runId = some own → world.db.run.get own ≠ none := by
      intro taskKey task foundTask own inRun missing
      rcases task_after called operates foundTask with old | ⟨inOwn, -⟩
      · exact owned.runId_ne missing old inRun
      · rw [inRun, Option.some.injEq] at inOwn
        rcases called.run with ⟨run, foundRun, -⟩
        rw [← inOwn, missing] at foundRun
        cases foundRun
    have tasks : ∀ taskKey task, db.task.get taskKey = some task →
        isUnfinished task.status = true →
          System.UnfinishedBefore world.db.task taskKey task ∨
            ∃ own, task.runId = some own ∧ own = operation.runId := by
      intro taskKey task foundTask unfinished
      rcases task_after called operates foundTask with old | ⟨inOwn, -⟩
      · exact Or.inl ⟨task, old, unfinished, rfl⟩
      · exact Or.inr ⟨_, inOwn, rfl⟩
    rcases @active_before _ (fun own => own = operation.runId) _ _ follows
        known tasks _ _ active with before | ⟨rfl, run, foundRun, inPlaylist⟩
    · exact before
    · -- The Run of the call has been active all the time.
      rcases exclusive.running key operation found with
        ⟨again, foundAgain, isRunning⟩
      rw [foundRun, Option.some.injEq] at foundAgain
      subst foundAgain
      exact isActive_iff.mpr ⟨run, foundRun, inPlaylist, Or.inl isRunning⟩

end Steps

theorem exclusive_step
    {environment : Environment} {world world' : World} {action : Action}
    (wellFormed : System.WellFormed world.system) (owned : Owned world)
    (exclusive : Exclusive world)
    (undisturbed : disturbs environment world action = false)
    (taken : step environment world action = some world') :
    Exclusive world' := by
  cases step_case taken with
  | @system event system isEvent notPart steps =>
      obtain ⟨_, now⟩ := action
      dsimp only at isEvent
      subst isEvent
      exact exclusive.system wellFormed owned notPart undisturbed
        (tasksFrom_step rfl rfl taken) steps
  | refused => exact exclusive
  | @discover playlistId attempts dryRun trigger started isEvent starts =>
      rcases ok_of_enqueueDiscoverRun starts with ⟨valid, -, rfl⟩
      exact exclusive.discover owned (inactive_of_validateSyncStart valid)
        rfl rfl
  | start isStart begins => exact exclusive.start owned begins
  | operate isEvent found operates =>
      exact exclusive.operate owned found operates
  | user acts =>
      rcases not_call_of_stepUser acts with ⟨notStart, notCall⟩
      exact exclusive.user owned undisturbed
        (tasksFrom_step notStart notCall taken) acts

/-! ## Runs without a disturbance -/

/-- Nothing has started, and no Run is left running. -/
structure Idle (world : World) : Prop extends Untouched world where
  runs : ∀ runId run, world.db.run.get runId = some run →
    run.status ≠ .running

theorem Idle.exclusive {world : World} (idle : Idle world) :
    Exclusive world where
  running key operation found := by
    rw [idle.operations] at found
    cases found
  alone := by
    intro playlistId first second isFirst
    rcases isActive_iff.mp isFirst with
      ⟨run, found, -, isRunning | ⟨key, task, foundTask, -⟩⟩
    · exact absurd isRunning (idle.runs first run found)
    · rw [idle.tasks] at foundTask
      cases foundTask

theorem exclusive_of_run
    {environment : Environment} {start finish : World} (idle : Idle start)
    (steps : Steps (step environment)
      (fun world action => disturbs environment world action = false) start
      finish) : Owned finish ∧ Exclusive finish := by
  have invariant := steps.invariant
    (fun world =>
      System.WellFormed world.system ∧ Owned world ∧ Exclusive world)
    ⟨System.wellFormed_of_no_tasks idle.tasks idle.executions,
      idle.toUntouched.owned, idle.exclusive⟩
    (by
      rintro world action next ⟨wellFormed, owned, exclusive⟩ undisturbed
        taken
      exact ⟨wellFormed_step wellFormed taken,
        owned_step wellFormed owned taken,
        exclusive_step wellFormed owned exclusive undisturbed taken⟩)
  exact invariant.2

/-- The Run of an unfinished task is active on the playlist of the task. -/
theorem active_of_unfinished_task
    {world : World} (owned : Owned world) {key : Nat} {task : TaskRow}
    (found : world.db.task.get key = some task)
    (unfinished : isUnfinished task.status = true) :
    ∃ runId playlistId, task.runId = some runId ∧
      taskPlaylist world.db task = some playlistId ∧
      isActive world.db playlistId runId = true := by
  rcases owned.tasks key task found with
    ⟨runId, run, playlistId, inRun, foundRun, -, inPlaylist, isPlaylist⟩
  exact ⟨runId, playlistId, inRun, isPlaylist, isActive_iff.mpr
    ⟨run, foundRun, inPlaylist, Or.inr
      ⟨key, task, found, inRun, unfinished⟩⟩⟩

/--
In every run without a disturbance at most one Run of a playlist is active,
at most one call works on a playlist, its Run is running, and every
unfinished task of the playlist is one of this call.
-/
theorem one_operation_per_playlist
    {environment : Environment} {start finish : World} (idle : Idle start)
    (steps : Steps (step environment)
      (fun world action => disturbs environment world action = false) start
      finish) :
    Alone finish.db ∧
      finish.operations.UniqueBy Operation.playlistId ∧
      ∀ key operation, finish.operations.get key = some operation →
        isActive finish.db operation.playlistId operation.runId = true ∧
          ∀ taskKey task, finish.db.task.get taskKey = some task →
            isUnfinished task.status = true →
            taskPlaylist finish.db task = some operation.playlistId →
              task.runId = some operation.runId ∧
                runKind task.type = operation.kind := by
  rcases exclusive_of_run idle steps with ⟨owned, exclusive⟩
  refine ⟨exclusive.alone, ?_, ?_⟩
  · intro left right leftCall rightCall foundLeft foundRight same
    have isLeft := exclusive.active owned foundLeft
    have isRight := exclusive.active owned foundRight
    rw [same] at isLeft
    exact owned.ownRun left right _ _ foundLeft foundRight
      (exclusive.alone _ _ _ isLeft isRight)
  · intro key operation found
    have active := exclusive.active owned found
    apply And.intro active
    intro taskKey task foundTask unfinished inPlaylist
    rcases active_of_unfinished_task owned foundTask unfinished with
      ⟨runId, playlistId, inRun, isPlaylist, isActiveRun⟩
    rw [inPlaylist, Option.some.injEq] at isPlaylist
    subst isPlaylist
    rw [exclusive.alone _ _ _ isActiveRun active] at inRun
    apply And.intro inRun
    rcases owned.tasks taskKey task foundTask with
      ⟨ownRunId, run, -, isRun, foundRun, kind, -⟩
    rw [inRun, Option.some.injEq] at isRun
    subst isRun
    rcases (owned.calls key operation found).run with
      ⟨again, foundAgain, ofCall, -⟩
    rw [foundRun, Option.some.injEq] at foundAgain
    subst foundAgain
    exact kind.symm.trans ofCall

/-- No two unfinished tasks have the same type and Target or playlist. -/
def OneUnfinished (tasks : Table TaskRow) : Prop :=
  ∀ left right leftTask rightTask, tasks.get left = some leftTask →
    tasks.get right = some rightTask →
    isUnfinished leftTask.status = true →
    isUnfinished rightTask.status = true →
    leftTask.type = rightTask.type →
    leftTask.targetRefType = rightTask.targetRefType →
    leftTask.targetRefId = rightTask.targetRefId → left = right

/--
In every run without a disturbance a Target is in one pipeline at most, and a
playlist has one discover task at most, as far as they are unfinished.
-/
theorem one_pipeline_per_target
    {environment : Environment} {start finish : World} (idle : Idle start)
    (steps : Steps (step environment)
      (fun world action => disturbs environment world action = false) start
      finish) : OneUnfinished finish.db.task := by
  rcases exclusive_of_run idle steps with ⟨owned, exclusive⟩
  intro left right leftTask rightTask foundLeft foundRight leftUnfinished
    rightUnfinished sameType sameRefType sameRefId
  rcases active_of_unfinished_task owned foundLeft leftUnfinished with
    ⟨leftRun, leftPlaylist, inLeft, ofLeft, isLeft⟩
  rcases active_of_unfinished_task owned foundRight rightUnfinished with
    ⟨rightRun, rightPlaylist, inRight, ofRight, isRight⟩
  have samePlaylist : leftPlaylist = rightPlaylist := by
    rw [taskPlaylist, sameRefType, sameRefId] at ofLeft
    exact Option.some.inj (ofLeft.symm.trans ofRight)
  subst samePlaylist
  have sameRun := exclusive.alone _ _ _ isLeft isRight
  apply owned.once left right leftTask rightTask foundLeft foundRight
  rw [reference, reference, inLeft, inRight, sameRun, sameType, sameRefType,
    sameRefId]

theorem idle_onePlaylist : Idle onePlaylist where
  toUntouched := untouched_onePlaylist
  runs _ _ found := by cases found

/-- The run of a phase with a worker meets the condition. -/
theorem undisturbed_startedPhase {finish : World}
    (executed : run (fun world action =>
      if !disturbs oneWorker world action then step oneWorker world action
      else none) onePlaylist startedPhase = some finish) :
    Steps (step oneWorker)
      (fun world action => disturbs oneWorker world action = false)
      onePlaylist finish := by
  apply Steps.of_checked_run (fun world action =>
    !disturbs oneWorker world action) _ startedPhase executed
  intro world action passes
  rwa [Bool.not_eq_true'] at passes

theorem one_operation_per_playlist_startedPhase :
    ∃ finish, run (step oneWorker) onePlaylist startedPhase = some finish ∧
      Alone finish.db ∧
      finish.operations.UniqueBy Operation.playlistId := by
  refine ⟨_, rfl, ?_⟩
  have exclusion := @one_operation_per_playlist oneWorker onePlaylist _
    idle_onePlaylist (undisturbed_startedPhase rfl)
  exact ⟨exclusion.1, exclusion.2.1⟩

theorem one_pipeline_per_target_startedPhase :
    ∃ finish, run (step oneWorker) onePlaylist startedPhase = some finish ∧
      OneUnfinished finish.db.task := by
  refine ⟨_, rfl, ?_⟩
  exact @one_pipeline_per_target oneWorker onePlaylist _ idle_onePlaylist
    (undisturbed_startedPhase rfl)

end Sluicery.Operations
