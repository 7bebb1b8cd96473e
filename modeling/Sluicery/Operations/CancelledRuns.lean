import Sluicery.Operations.TaskRuns
import Sluicery.System.Stranding

/-!
# Cancelled Runs and recovered Runs

A Run which is cancelled stays cancelled, whatever the order of the writers:
`finish` passes it by, and a retention or a folder move never writes a Run
which can be cancelled.  The guard lets another cancel pass, and that one
replaces the statistics.  A recovery ends old Runs, which had no unfinished
task when it read their tasks.
-/

namespace Sluicery.Operations.RunWriters

open Sluicery.Library Sluicery.Library.Transition
open Sluicery.Db Sluicery.Db.TaskRepository
open Sluicery.Core Sluicery.Tasks Sluicery.Scheduler

/-! ## Who cancels a Run -/

/-- The next statement of the call finishes the Run as cancelled. -/
def Writer.cancels (db : Database) (runId : Nat) : Writer → Prop
  | .finishCancelled cancelled _ => cancelled = runId
  | .finishInterrupted cancelled => cancelled = runId
  | .finishConcluded concluded status _ =>
      status = .cancelled ∧ concluded = runId
  | .recoverRuns recovery => ∃ decision ∈ recovery.ending db,
      decision.runId = runId ∧ orphanStatus decision.tasks = .cancelled
  | _ => False

/-- The event finishes the Run as cancelled. -/
def cancels (state : State) (event : Event) (runId : Nat) : Prop :=
  match event with
  | .operations event => cancelsInWorld state.world event runId
  | .proceed key => ∃ writer, state.writers.get key = some writer ∧
      writer.cancels state.db runId
  | _ => False

/-! ## What the statements write -/

section Statements

variable (db : Database) (now : Time)

/-- A recovery cancels the Runs whose decision says so. -/
theorem runsWritten_endRuns
    {cancels : Nat → Prop} (decisions : List Decision)
    (runs : Table RunRow)
    (does : ∀ decision ∈ decisions,
      orphanStatus decision.tasks = .cancelled → cancels decision.runId) :
    RunsWritten cancels runs (endRuns now decisions runs) := by
  induction decisions generalizing runs with
  | nil => exact .refl _
  | cons decision rest induction =>
      have first : RunsWritten cancels runs (endRun decision now runs) :=
        runsWritten_finish _ _ _ _ _ (does decision List.mem_cons_self)
      apply first.trans
      exact induction _ fun other member =>
        does other (List.mem_cons_of_mem _ member)

/-- A Run for which there is no decision is left alone. -/
theorem get_endRuns_of_not_mem
    {decisions : List Decision} {runId : Nat} (runs : Table RunRow)
    (missing : ∀ decision ∈ decisions, decision.runId ≠ runId) :
    (endRuns now decisions runs).get runId = runs.get runId := by
  induction decisions generalizing runs with
  | nil => rfl
  | cons decision rest induction =>
      rw [endRuns, induction _ fun other member =>
        missing other (List.mem_cons_of_mem _ member)]
      rw [endRun, RunRepository.get_finish]
      have other : ¬ runId = decision.runId :=
        fun same => missing decision List.mem_cons_self same.symm
      cases runs.get runId with
      | none => rfl
      | some run => simp [RunRepository.finishable, other]

theorem runsWritten_reapStatement (taskId : Nat) (rest : List Nat) :
    (reapStatement db taskId rest now).1.run = db.run ∧
      (reapStatement db taskId rest now).1.task = db.task := by
  unfold reapStatement
  split
  · exact ⟨rfl, rfl⟩
  · split <;> exact ⟨rfl, rfl⟩

theorem runsWritten_recovery (recovery : Recovery) :
    RunsWritten (fun runId => Writer.cancels db runId (.recoverRuns recovery))
      db.run (recovery.proceed db now).1.run := by
  unfold Recovery.proceed
  split
  · apply runsWritten_endRuns
    exact fun decision member cancelled =>
      ⟨decision, member, rfl, cancelled⟩
  · exact .refl _
  · exact .refl _

/-- Every statement writes Runs through `finish`. -/
theorem runsWritten_proceed (writer : Writer) :
    RunsWritten (fun runId => writer.cancels db runId) db.run
      (writer.proceed db now).1.run := by
  cases writer with
  | cancelRun | syncCancelled => exact .refl _
  | finishCancelled runId stats =>
      exact runsWritten_finish _ _ _ _ _ fun _ => rfl
  | finishInterrupted runId =>
      exact runsWritten_finish _ _ _ _ _ fun _ => rfl
  | concludeRun runId taskStatus =>
      simp only [Writer.proceed]
      split
      · exact .refl _
      · split <;> exact .refl _
  | finishConcluded runId status stats =>
      exact runsWritten_finish _ _ _ _ _ fun cancelled => ⟨cancelled, rfl⟩
  | reapTasks recovered =>
      cases recovered with
      | nil => exact .refl _
      | cons taskId rest =>
          exact runsWritten_of_eq
            (runsWritten_reapStatement db now taskId rest).1
  | reapRun runId recovered =>
      simp only [Writer.proceed]
      split
      · exact .refl _
      · split <;> exact .refl _
  | finishReaped runId stats recovered =>
      exact runsWritten_finish _ _ _ _ _ fun impossible => nomatch impossible
  | recoverRuns recovery => exact runsWritten_recovery db now recovery

/-- Of the statements only a cancel writes tasks. -/
theorem tasksLinked_proceed
    {runs : Table RunRow} (linked : TasksLinked runs db.task)
    (writer : Writer) :
    TasksLinked runs (writer.proceed db now).1.task := by
  cases writer with
  | cancelRun runId stats =>
      exact linked.rewrites (@Queue.step_rewrites db.task _
        (.requestCancelRun runId now) rfl rfl)
  | concludeRun runId taskStatus =>
      simp only [Writer.proceed]
      split
      · exact linked
      · split <;> exact linked
  | reapTasks recovered =>
      cases recovered with
      | nil => exact linked
      | cons taskId rest =>
          show TasksLinked runs (reapStatement db taskId rest now).1.task
          rw [(runsWritten_reapStatement db now taskId rest).2]
          exact linked
  | reapRun runId recovered =>
      simp only [Writer.proceed]
      split
      · exact linked
      · split <;> exact linked
  | recoverRuns recovery =>
      simp only [Writer.proceed, Recovery.proceed]
      split <;> exact linked
  | _ => exact linked

end Statements

/-! ## What the writers have read -/

/-- The Run has the kind and the start of the row which was read. -/
def IsRead (runs : Table RunRow) (runId : Nat) (read : RunRow) : Prop :=
  ∃ run, runs.get runId = some run ∧ run.kind = read.kind ∧
    run.startedAt = read.startedAt

theorem IsRead.written
    {cancels : Nat → Prop} {before after : Table RunRow} {runId : Nat}
    {read : RunRow} (isRead : IsRead before runId read)
    (written : RunsWritten cancels before after) :
    IsRead after runId read := by
  rcases isRead with ⟨run, found, kind, startedAt⟩
  rcases written.kept found with ⟨run', found', isWritten⟩
  exact ⟨run', found', isWritten.kind.trans kind,
    isWritten.startedAt.trans startedAt⟩

/-- One of `running_runs`. -/
structure Selected (runs : Table RunRow) (recovery : Recovery)
    (runId : Nat) (read : RunRow) : Prop where
  isRead : IsRead runs runId read
  old : read.startedAt < recovery.now - recovery.staleThreshold

/-- What a recovery has decided, from the tasks it has read. -/
structure Decided (runs : Table RunRow) (recovery : Recovery)
    (decision : Decision) : Prop where
  selected : Selected runs recovery decision.runId decision.run
  notSpared : isSpared recovery.now decision.run decision.tasks = false
  inSync : decision.tasks ≠ [] → InSync runs decision.runId

/-- The Run of a call which cancels it has tasks. -/
def WriterLinked (runs : Table RunRow) : Writer → Prop
  | .finishCancelled runId _ | .finishInterrupted runId
  | .concludeRun runId _ | .finishConcluded runId _ _ => InSync runs runId
  | .recoverRuns recovery =>
      (∀ entry ∈ recovery.remaining,
        Selected runs recovery entry.1 entry.2) ∧
      ∀ decision, recovery.decision = some decision →
        Decided runs recovery decision
  | _ => True

section Written

variable {cancels : Nat → Prop} {before after : Table RunRow}

theorem Selected.written
    {recovery : Recovery} {runId : Nat} {read : RunRow}
    (selected : Selected before recovery runId read)
    (written : RunsWritten cancels before after) :
    Selected after recovery runId read :=
  ⟨selected.isRead.written written, selected.old⟩

theorem Decided.written
    {recovery : Recovery} {decision : Decision}
    (decided : Decided before recovery decision)
    (written : RunsWritten cancels before after) :
    Decided after recovery decision :=
  ⟨decided.selected.written written, decided.notSpared,
    fun tasks => (decided.inSync tasks).written written⟩

theorem WriterLinked.written
    {writer : Writer} (linked : WriterLinked before writer)
    (written : RunsWritten cancels before after) :
    WriterLinked after writer := by
  cases writer with
  | finishCancelled | finishInterrupted | concludeRun | finishConcluded =>
      exact InSync.written linked written
  | recoverRuns recovery =>
      exact ⟨fun entry member => (linked.1 entry member).written written,
        fun decision decides => (linked.2 decision decides).written written⟩
  | cancelRun | syncCancelled | reapTasks | reapRun | finishReaped =>
      trivial

end Written

/-! ## Decisions of a recovery -/

/-- The decision on a Run keeps what was read. -/
theorem consider_eq_some_iff
    {recovery : Recovery} {db : Database} {entry : Nat × RunRow}
    {decision : Decision} :
    recovery.consider db entry = some decision ↔
      decision = ⟨entry.1, entry.2, runTasks db entry.1⟩ ∧
        isSpared recovery.now entry.2 (runTasks db entry.1) = false := by
  unfold Recovery.consider
  dsimp only
  split
  · next spared => simp [spared]
  · next notSpared => simp [notSpared, eq_comm]

/-- The tasks of a Run belong to it. -/
theorem mem_runTasks_iff
    {db : Database} {runId taskId : Nat} {task : TaskRow} :
    (taskId, task) ∈ runTasks db runId ↔
      db.task.get taskId = some task ∧ task.runId = some runId := by
  rw [runTasks, Table.mem_select_iff, beq_iff_eq]

/-- A Run with tasks is of a kind which has tasks. -/
theorem inSync_of_runTasks
    {db : Database} {runs : Table RunRow} {runId : Nat}
    (linked : TasksLinked runs db.task) (tasks : runTasks db runId ≠ []) :
    InSync runs runId := by
  rcases List.exists_mem_of_ne_nil _ tasks with ⟨⟨taskId, task⟩, member⟩
  rcases mem_runTasks_iff.mp member with ⟨found, inRun⟩
  exact (linked taskId task found).sync runId inRun

theorem decided_of_consider
    {recovery : Recovery} {db : Database} {entry : Nat × RunRow}
    {decision : Decision}
    (linked : TasksLinked db.run db.task)
    (selected : Selected db.run recovery entry.1 entry.2)
    (considers : recovery.consider db entry = some decision) :
    Decided db.run recovery decision := by
  rcases consider_eq_some_iff.mp considers with ⟨rfl, notSpared⟩
  exact ⟨selected, notSpared, inSync_of_runTasks linked⟩

/-- What the next step ends was decided. -/
theorem decided_of_ending
    {recovery : Recovery} {db : Database} {decision : Decision}
    (linked : TasksLinked db.run db.task)
    (known : WriterLinked db.run (.recoverRuns recovery))
    (ends : decision ∈ recovery.ending db) :
    Decided db.run recovery decision := by
  unfold Recovery.ending at ends
  split at ends
  · cases ends
  · next first isFirst =>
      rcases List.mem_cons.mp ends with rfl | later
      · exact known.2 decision isFirst
      · rcases List.mem_filterMap.mp later with ⟨entry, member, considers⟩
        exact decided_of_consider linked (known.1 entry member) considers

/-- Only a Run with a cancelled task is cancelled by a recovery. -/
theorem tasks_of_orphanStatus {tasks : List (Nat × TaskRow)}
    (cancelled : orphanStatus tasks = .cancelled) : tasks ≠ [] := by
  rintro rfl
  cases cancelled

/-! ## What a step can do -/

/-- A call has begun. -/
inductive Begins (state : State) : Writer → Prop where
  | cancelRun {runId : Nat} {stats : Json.Fields} :
      Begins state (.cancelRun runId stats)
  | interrupted {runId taskId : Nat}
      (together : System.startedTogether state.db runId taskId = true) :
      Begins state (.finishInterrupted runId)
  | conclude {runId taskId : Nat} {taskStatus : TaskStatus}
      (together : System.startedTogether state.db runId taskId = true) :
      Begins state (.concludeRun runId taskStatus)
  | reap {recovered : List Nat} : Begins state (.reapTasks recovered)
  | recover {staleThreshold now : Time} :
      Begins state (.recoverRuns
        { now
          staleThreshold
          remaining := runningRuns state.db.run staleThreshold now })

/-- What a step has done. -/
inductive StepCase (environment : Environment) (state : State)
    (action : Action) : State → Prop where
  | operations {event : Operations.Event} {world : World}
      (isEvent : action.event = .operations event)
      (notCall : isCall event = false)
      (steps : Operations.step environment state.world ⟨event, action.now⟩ =
        some world) :
      StepCase environment state action { state with world }
  | configured (db : Database) :
      StepCase environment state action (state.configured db)
  | began {task : Table TaskRow} {writer : Writer}
      (tasks : ∀ runs, TasksLinked runs state.db.task →
        TasksLinked runs task)
      (begins : Begins state writer) :
      StepCase environment state action
        (state.began { state.db with task } writer)
  | proceeded {key : Nat} {writer : Writer}
      (isEvent : action.event = .proceed key)
      (found : state.writers.get key = some writer) :
      StepCase environment state action
        (state.continued key (writer.proceed state.db action.now).1
          (writer.proceed state.db action.now).2)
  | stopped (key : Nat) :
      StepCase environment state action (state.continued key state.db none)

theorem step_case
    {environment : Environment} {state next : State} {action : Action}
    (taken : step environment state action = some next) :
    StepCase environment state action next := by
  obtain ⟨event, now⟩ := action
  cases event with
  | operations event =>
      simp only [step] at taken
      split at taken
      · cases taken
      · next notCall =>
          rcases Option.map_eq_some_iff.mp taken with ⟨world, steps, rfl⟩
          exact .operations rfl (Bool.eq_false_iff.mpr notCall) steps
  | configure db =>
      cases taken
      exact .configured db
  | runCancel runId =>
      rcases Option.map_eq_some_iff.mp taken with ⟨run, -, rfl⟩
      exact .began (fun _ => id) .cancelRun
  | interruptDiscover runId taskId =>
      simp only [step] at taken
      split at taken <;> cases taken
      next together =>
      apply StepCase.began _ (.interrupted together)
      exact fun runs linked => linked.rewrites
        (@Queue.step_rewrites state.db.task _ (.requestCancel taskId now) rfl
          rfl)
  | concludeDiscover runId taskId =>
      simp only [step] at taken
      split at taken
      · next together =>
          rcases Option.bind_eq_some_iff.mp taken with ⟨task, -, begins⟩
          split at begins <;> cases begins
          exact .began (fun _ => id) (.conclude together)
      · cases taken
  | reap =>
      cases taken
      apply StepCase.began _ .reap
      exact fun runs linked =>
        linked.rewrites (Queue.rewrites_recoverStale _ _ _)
  | recoverOrphanRuns staleThreshold =>
      cases taken
      exact .began (fun _ => id) .recover
  | proceed key =>
      rcases Option.map_eq_some_iff.mp taken with ⟨writer, found, rfl⟩
      exact .proceeded rfl found
  | stop key =>
      rcases Option.map_eq_some_iff.mp taken with ⟨writer, -, rfl⟩
      exact .stopped key

/-! ## The invariant -/

/-- The calls belong to Runs of their kind, and cancelled Runs have tasks. -/
structure Sound (state : State) : Prop where
  linked : Linked state.world
  writers : ∀ key writer, state.writers.get key = some writer →
    WriterLinked state.db.run writer
  cancelled : ∀ runId run, state.db.run.get runId = some run →
    run.status = .cancelled → IsSync run.kind

theorem inSync_of_cancels
    {state : State} {event : Event} {runId : Nat} (sound : Sound state)
    (cancelled : cancels state event runId) : InSync state.db.run runId := by
  cases event with
  | operations event =>
      rcases cancelled with
        ⟨handled, -, key, execution, -, found, isDiscover, handles⟩
      have known := sound.linked.executions key execution found
      rcases known.discover isDiscover with ⟨own, inRun⟩
      have isOwn : own = runId := by
        simpa [System.handledRun, Handlers.discoverRunId, inRun] using handles
      exact isOwn ▸ known.sync own inRun
  | proceed key =>
      rcases cancelled with ⟨writer, found, cancelled⟩
      have known := sound.writers key writer found
      cases writer with
      | finishCancelled | finishInterrupted =>
          rcases cancelled
          exact known
      | finishConcluded =>
          rcases cancelled with ⟨-, rfl⟩
          exact known
      | recoverRuns recovery =>
          rcases cancelled with ⟨decision, ends, rfl, isCancelled⟩
          exact (decided_of_ending sound.linked.tasks known ends).inSync
            (tasks_of_orphanStatus isCancelled)
      | cancelRun | syncCancelled | concludeRun | reapTasks | reapRun
      | finishReaped => exact cancelled.elim
  | configure | runCancel | interruptDiscover | concludeDiscover | reap
  | recoverOrphanRuns | stop => exact cancelled.elim

/-- What a step writes to the Runs. -/
theorem runsWritten_of_step
    {environment : Environment} {state next : State} {action : Action}
    (sound : Sound state)
    (taken : step environment state action = some next) :
    RunsWritten (cancels state action.event) state.db.run next.db.run := by
  cases step_case taken with
  | operations isEvent notCall steps =>
      rw [isEvent]
      exact runsWritten_step sound.linked notCall steps
  | configured | began | stopped => exact .refl _
  | @proceeded key writer isEvent found =>
      rw [isEvent]
      have written : RunsWritten (cancels state (.proceed key)) state.db.run
          (writer.proceed state.db action.now).1.run :=
        (runsWritten_proceed state.db action.now writer).weaken
          fun runId does => ⟨writer, found, does⟩
      cases (writer.proceed state.db action.now).2 <;> exact written

/-! ## Steps keep the invariant -/

/-- A cancel which meets a task meets a Run with tasks. -/
theorem inSync_of_requestCancelRun
    {runs : Table RunRow} {tasks : Table TaskRow} {runId : Nat} {now : Time}
    (linked : TasksLinked runs tasks)
    (meets : (requestCancelRun tasks runId now).1 ≠ 0) :
    InSync runs runId := by
  rcases Nat.add_pos_iff_pos_or_pos.mp (Nat.pos_of_ne_zero meets) with
    waits | works
  · rcases (Table.count_pos_iff _ _).mp waits with ⟨key, task, found, meets⟩
    simp only [Bool.and_eq_true, beq_iff_eq] at meets
    exact (linked key task found).sync runId meets.1
  · rcases (Table.count_pos_iff _ _).mp works with ⟨key, task, found, meets⟩
    simp only [Bool.and_eq_true, beq_iff_eq] at meets
    rw [Table.get_updateWhere] at found
    rcases Option.map_eq_some_iff.mp found with ⟨before, foundBefore, rfl⟩
    apply (linked key before foundBefore).sync runId
    rw [← meets.1]
    split <;> rfl

/-- A command waits for the task of a Run which has tasks. -/
theorem inSync_of_startedTogether
    {world : World} {runId taskId : Nat} (linked : Linked world)
    (together : System.startedTogether world.db runId taskId = true) :
    InSync world.db.run runId := by
  rcases (Option.any_eq_true _ _).mp together with ⟨task, found, meets⟩
  simp only [Bool.and_eq_true, beq_iff_eq] at meets
  exact (linked.tasks taskId task found).sync runId meets.2

theorem selected_of_runningRuns
    (runs : Table RunRow) (staleThreshold now : Time) :
    ∀ entry ∈ runningRuns runs staleThreshold now,
      Selected runs
        { now
          staleThreshold
          remaining := runningRuns runs staleThreshold now }
        entry.1 entry.2 := by
  rintro ⟨runId, run⟩ member
  rw [runningRuns, Table.mem_select_iff] at member
  simp only [Bool.and_eq_true, decide_eq_true_eq] at member
  exact ⟨⟨run, member.1, rfl, rfl⟩, member.2.2⟩

/-- What a call knows when it comes to its next statement. -/
theorem writerLinked_proceed
    {db : Database} {now : Time} {writer next : Writer}
    (linked : TasksLinked db.run db.task)
    (known : WriterLinked db.run writer)
    (isNext : (writer.proceed db now).2 = some next) :
    WriterLinked db.run next := by
  cases writer with
  | cancelRun runId stats =>
      simp only [Writer.proceed] at isNext
      split at isNext
      · cases isNext
      · next meets =>
          cases isNext
          exact inSync_of_requestCancelRun linked meets
  | finishCancelled =>
      cases isNext
      trivial
  | syncCancelled | finishInterrupted | finishConcluded => cases isNext
  | concludeRun runId taskStatus =>
      simp only [Writer.proceed] at isNext
      split at isNext
      · cases isNext
      · split at isNext <;> cases isNext
        exact known
  | reapTasks recovered =>
      cases recovered with
      | nil => cases isNext
      | cons taskId rest =>
          cases isNext
          unfold reapStatement
          split
          · trivial
          · split
            · dsimp only
              split <;> trivial
            · trivial
  | reapRun runId recovered =>
      simp only [Writer.proceed] at isNext
      split at isNext
      · cases isNext
        trivial
      · split at isNext <;> cases isNext <;> trivial
  | finishReaped =>
      cases isNext
      trivial
  | recoverRuns recovery =>
      rcases Option.map_eq_some_iff.mp isNext with ⟨after, isAfter, rfl⟩
      unfold Recovery.proceed at isAfter
      split at isAfter
      · cases isAfter
      · cases isAfter
      · next entry rest noDecision remaining =>
          cases isAfter
          have selected : ∀ other ∈ entry :: rest,
              Selected db.run recovery other.1 other.2 :=
            fun other member => known.1 other (remaining ▸ member)
          constructor
          · intro other member
            have isSelected := selected other (List.mem_cons_of_mem _ member)
            exact ⟨isSelected.isRead, isSelected.old⟩
          · intro decision considers
            have decided := decided_of_consider linked
              (selected entry List.mem_cons_self) considers
            exact ⟨⟨decided.selected.isRead, decided.selected.old⟩,
              decided.notSpared, decided.inSync⟩

theorem linked_of_step
    {environment : Environment} {state next : State} {action : Action}
    (sound : Sound state)
    (taken : step environment state action = some next) :
    Linked next.world := by
  have written := runsWritten_of_step sound taken
  have tasks := sound.linked.tasks
  cases step_case taken with
  | operations isEvent notCall steps =>
      exact linked_step sound.linked notCall steps
  | configured | stopped => exact sound.linked.withDb written tasks
  | began rewrites begins =>
      exact sound.linked.withDb written (rewrites _ tasks)
  | @proceeded key writer isEvent found =>
      have proceeded := tasksLinked_proceed state.db action.now tasks writer
      revert written
      cases (writer.proceed state.db action.now).2 with
      | none =>
          exact fun written =>
            sound.linked.withDb written (proceeded.written written)
      | some goesOn =>
          exact fun written =>
            sound.linked.withDb written (proceeded.written written)

/-- Where a call after a step comes from. -/
theorem writer_cases
    {environment : Environment} {state next : State} {action : Action}
    (taken : step environment state action = some next)
    {key : Nat} {writer : Writer}
    (found : next.writers.get key = some writer) :
    state.writers.get key = some writer ∨ Begins state writer ∨
      ∃ acting, state.writers.get key = some acting ∧
        (acting.proceed state.db action.now).2 = some writer := by
  cases step_case taken with
  | operations | configured => exact Or.inl found
  | began tasks begins =>
      rw [State.began, Table.get_insert] at found
      split at found
      · rw [Option.some.injEq] at found
        exact Or.inr (Or.inl (found ▸ begins))
      · exact Or.inl found
  | @proceeded moved acting isEvent isActing =>
      cases isNext : (acting.proceed state.db action.now).2 with
      | none =>
          rw [isNext, State.continued, Table.get_erase] at found
          split at found
          · cases found
          · exact Or.inl found
      | some goesOn =>
          rw [isNext, State.continued, Table.get_modify] at found
          split at found
          · next same =>
              subst same
              rw [isActing, Option.map_some, Option.some.injEq] at found
              subst found
              exact Or.inr (Or.inr ⟨acting, isActing, isNext⟩)
          · exact Or.inl found
  | stopped moved =>
      rw [State.continued, Table.get_erase] at found
      split at found
      · cases found
      · exact Or.inl found

/-- A call which begins belongs to a Run of its kind. -/
theorem writerLinked_of_begins
    {state : State} {writer : Writer} (linked : Linked state.world)
    (begins : Begins state writer) : WriterLinked state.db.run writer := by
  cases begins with
  | cancelRun | reap => trivial
  | interrupted together | conclude together =>
      exact inSync_of_startedTogether linked together
  | recover =>
      exact ⟨selected_of_runningRuns _ _ _,
        fun _ impossible => nomatch impossible⟩

theorem writersLinked_of_step
    {environment : Environment} {state next : State} {action : Action}
    (sound : Sound state)
    (taken : step environment state action = some next)
    {key : Nat} {writer : Writer}
    (found : next.writers.get key = some writer) :
    WriterLinked next.db.run writer := by
  have known : WriterLinked state.db.run writer := by
    rcases writer_cases taken found with
      kept | begins | ⟨acting, isActing, isNext⟩
    · exact sound.writers key writer kept
    · exact writerLinked_of_begins sound.linked begins
    · exact writerLinked_proceed sound.linked.tasks
        (sound.writers key acting isActing) isNext
  exact known.written (runsWritten_of_step sound taken)

theorem sound_step
    {environment : Environment} {state next : State} {action : Action}
    (sound : Sound state)
    (taken : step environment state action = some next) : Sound next where
  linked := linked_of_step sound taken
  writers := fun _ _ found => writersLinked_of_step sound taken found
  cancelled := by
    intro runId run' found' isCancelled
    have written := runsWritten_of_step sound taken
    cases found : state.db.run.get runId with
    | none =>
        have does := written.fresh found found' isCancelled
        rcases inSync_of_cancels sound does with ⟨run, exists_run, -⟩
        rw [found] at exists_run
        cases exists_run
    | some run =>
        rcases written.kept found with ⟨other, foundOther, isWritten⟩
        rw [found', Option.some.injEq] at foundOther
        subst foundOther
        rw [isWritten.kind]
        rcases isWritten.caused isCancelled with before | does
        · exact sound.cancelled runId run found before
        · rcases inSync_of_cancels sound does with ⟨same, foundSame, isSync⟩
          rw [found, Option.some.injEq] at foundSame
          exact foundSame ▸ isSync

/-! ## Whole runs -/

/-- There are no tasks and no Runs, and nothing is going on. -/
structure Fresh (state : State) : Prop where
  tasks : state.db.task = .empty
  runs : state.db.run = .empty
  executions : state.world.system.executions = .empty
  operations : state.world.operations = .empty
  writers : state.writers = .empty

theorem Fresh.sound {state : State} (fresh : Fresh state) : Sound state := by
  constructor
  · constructor
    · intro key task found
      simp [fresh.tasks] at found
    · intro key execution found
      simp [fresh.executions] at found
    · intro key operation found
      simp [fresh.operations] at found
  · intro key writer found
    simp [fresh.writers] at found
  · intro runId run found
    simp [fresh.runs] at found

/-- Any order of the events leads from one state to the other. -/
abbrev Reaches (environment : Environment) (start finish : State) : Prop :=
  Steps (step environment) (fun _ _ => True) start finish

theorem sound_of_reaches
    {environment : Environment} {start state : State} (fresh : Fresh start)
    (reaches : Reaches environment start state) : Sound state :=
  reaches.invariant Sound fresh.sound
    fun _ _ _ sound _ taken => sound_step sound taken

/-- The Run exists and is cancelled. -/
def IsCancelled (runs : Table RunRow) (runId : Nat) : Prop :=
  ∃ run, runs.get runId = some run ∧ run.status = .cancelled

theorem isCancelled_step
    {environment : Environment} {state next : State} {action : Action}
    {runId : Nat} (sound : Sound state)
    (isCancelled : IsCancelled state.db.run runId)
    (taken : step environment state action = some next) :
    IsCancelled next.db.run runId := by
  rcases isCancelled with ⟨run, found, cancelled⟩
  rcases (runsWritten_of_step sound taken).kept found with
    ⟨run', found', written⟩
  rcases written.absorbing cancelled
    (sound.cancelled runId run found cancelled) with rfl | ⟨-, again⟩
  · exact ⟨run', found', cancelled⟩
  · exact ⟨run', found', again.status⟩

theorem isCancelled_of_reaches
    {environment : Environment} {state later : State} {runId : Nat}
    (sound : Sound state) (isCancelled : IsCancelled state.db.run runId)
    (reaches : Reaches environment state later) :
    IsCancelled later.db.run runId := by
  have both := reaches.invariant
    (fun state => Sound state ∧ IsCancelled state.db.run runId)
    ⟨sound, isCancelled⟩
    fun _ _ _ before _ taken => ⟨sound_step before.1 taken,
      isCancelled_step before.1 before.2 taken⟩
  exact both.2

/-- Without another cancel of the Run its whole row stays. -/
theorem cancelled_row_of_steps
    {environment : Environment} {state later : State} {runId : Nat}
    {run : RunRow} (sound : Sound state)
    (found : state.db.run.get runId = some run)
    (cancelled : run.status = .cancelled)
    (steps : Steps (step environment)
      (fun state action => ¬ cancels state action.event runId) state later) :
    later.db.run.get runId = some run := by
  have both := steps.invariant
    (fun state => Sound state ∧ state.db.run.get runId = some run)
    ⟨sound, found⟩ ?_
  · exact both.2
  intro state action next ⟨sound, found⟩ notAgain taken
  refine ⟨sound_step sound taken, ?_⟩
  rcases (runsWritten_of_step sound taken).kept found with
    ⟨run', found', written⟩
  rcases written.absorbing cancelled
    (sound.cancelled runId run found cancelled) with rfl | ⟨does, -⟩
  · exact found'
  · exact absurd does notAgain

/-! ## Recovered Runs -/

/-- The recovery is still the call at the key. -/
def InCall (key : Nat) (recovery : Recovery) (state : State) : Prop :=
  ∃ held, state.writers.get key = some (.recoverRuns held) ∧
    held.now = recovery.now ∧ held.staleThreshold = recovery.staleThreshold

/-- The tasks are those of the Run in a state which the call has met. -/
def ReadInCall (environment : Environment) (start state : State) (key : Nat)
    (recovery : Recovery) (runId : Nat) (tasks : List (Nat × TaskRow)) :
    Prop :=
  ∃ read, Reaches environment start read ∧ InCall key recovery read ∧
    Steps (step environment) (fun between _ => InCall key recovery between)
      read state ∧
    tasks = runTasks read.db runId

/-- A recovery reads the tasks of a Run and decides on it. -/
theorem reads_of_proceed
    {db : Database} {now : Time} {writer : Writer} {recovery : Recovery}
    {decision : Decision}
    (isNext : (writer.proceed db now).2 = some (.recoverRuns recovery))
    (decides : recovery.decision = some decision) :
    ∃ acting, writer = .recoverRuns acting ∧ acting.now = recovery.now ∧
      acting.staleThreshold = recovery.staleThreshold ∧
      decision.tasks = runTasks db decision.runId := by
  cases writer with
  | cancelRun | concludeRun | reapRun =>
      simp only [Writer.proceed] at isNext
      repeat' split at isNext
      all_goals cases isNext
  | reapTasks recovered =>
      cases recovered with
      | nil => cases isNext
      | cons taskId rest =>
          simp only [Writer.proceed, reapStatement, Option.some.injEq]
            at isNext
          repeat' split at isNext
          all_goals cases isNext
  | recoverRuns acting =>
      rcases Option.map_eq_some_iff.mp isNext with ⟨after, isAfter, same⟩
      rw [Writer.recoverRuns.injEq] at same
      subst same
      unfold Recovery.proceed at isAfter
      split at isAfter
      · cases isAfter
      · cases isAfter
      · cases isAfter
        rcases consider_eq_some_iff.mp decides with ⟨rfl, -⟩
        exact ⟨acting, rfl, rfl, rfl, rfl⟩
  | _ => cases isNext

/-- A decision is about tasks which the call has read. -/
theorem readInCall_of_decision
    {environment : Environment} {start state : State} (fresh : Fresh start)
    (reaches : Reaches environment start state)
    {key : Nat} {recovery : Recovery} {decision : Decision}
    (found : state.writers.get key = some (.recoverRuns recovery))
    (decides : recovery.decision = some decision) :
    ReadInCall environment start state key recovery decision.runId
      decision.tasks := by
  induction reaches generalizing recovery decision with
  | refl => simp [fresh.writers] at found
  | @tail state next action before permitted taken induction =>
      rcases writer_cases taken found with
        kept | begins | ⟨acting, isActing, isNext⟩
      · rcases induction kept decides with
          ⟨read, first, isCall, between, tasks⟩
        exact ⟨read, first, isCall,
          between.tail ⟨recovery, kept, rfl, rfl⟩ taken, tasks⟩
      · cases begins
        cases decides
      · rcases reads_of_proceed isNext decides with
          ⟨held, rfl, now, staleThreshold, tasks⟩
        have isCall : InCall key recovery state :=
          ⟨held, isActing, now, staleThreshold⟩
        exact ⟨state, before, isCall, .single isCall taken, tasks⟩

/-- What a recovery ends was decided from tasks which the call has read. -/
theorem readInCall_of_ending
    {environment : Environment} {start state : State} (fresh : Fresh start)
    (reaches : Reaches environment start state)
    {key : Nat} {recovery : Recovery} {decision : Decision}
    (found : state.writers.get key = some (.recoverRuns recovery))
    (ends : decision ∈ recovery.ending state.db) :
    ReadInCall environment start state key recovery decision.runId
      decision.tasks := by
  unfold Recovery.ending at ends
  split at ends
  · cases ends
  · next first isFirst =>
      rcases List.mem_cons.mp ends with rfl | later
      · exact readInCall_of_decision fresh reaches found isFirst
      · -- The others are read in the transaction of the first update.
        rcases List.mem_filterMap.mp later with ⟨entry, -, considers⟩
        rcases consider_eq_some_iff.mp considers with ⟨rfl, -⟩
        exact ⟨state, reaches, ⟨recovery, found, rfl, rfl⟩, .refl, rfl⟩

/-- A recovery changes the Runs it ends. -/
theorem ending_of_changed
    {db : Database} {now : Time} {recovery : Recovery} {runId : Nat}
    (changed : (recovery.proceed db now).1.run.get runId ≠
      db.run.get runId) :
    ∃ decision ∈ recovery.ending db, decision.runId = runId := by
  by_contra none
  apply changed
  unfold Recovery.proceed
  split
  · apply get_endRuns_of_not_mem
    exact fun decision member same => none ⟨decision, member, same⟩
  · rfl
  · rfl

/-- The step is one of the recovery, and the Run is not as before. -/
structure EndsRun (key : Nat) (recovery : Recovery) (state next : State)
    (action : Action) (runId : Nat) : Prop where
  isEvent : action.event = .proceed key
  found : state.writers.get key = some (.recoverRuns recovery)
  changed : next.db.run.get runId ≠ state.db.run.get runId

/--
The Run is older than the threshold, and when the call read its tasks none of
them was unfinished; a download without tasks was older still.
-/
structure Recoverable (environment : Environment) (start state : State)
    (key : Nat) (recovery : Recovery) (runId : Nat) (run : RunRow) :
    Prop where
  found : state.db.run.get runId = some run
  old : run.startedAt < recovery.now - recovery.staleThreshold
  read : ∃ tasks,
    ReadInCall environment start state key recovery runId tasks ∧
    (∀ task ∈ tasks, isUnfinished task.2.status = false) ∧
    (tasks = [] → run.kind = "download" →
      run.startedAt < recovery.now - tasklessDownloadRecovery)

theorem recoverable_of_endsRun
    {environment : Environment} {start state next : State} {action : Action}
    {key : Nat} {recovery : Recovery} {runId : Nat} (fresh : Fresh start)
    (reaches : Reaches environment start state)
    (taken : step environment state action = some next)
    (ends : EndsRun key recovery state next action runId) :
    ∃ run, Recoverable environment start state key recovery runId run := by
  have sound := sound_of_reaches fresh reaches
  have moves : next.db.run =
      (recovery.proceed state.db action.now).1.run := by
    rw [step, ends.isEvent] at taken
    dsimp only at taken
    rw [ends.found, Option.map_some, Option.some.injEq] at taken
    rw [← taken]
    cases (Writer.proceed state.db action.now (.recoverRuns recovery)).2 <;>
      rfl
  have changed := ends.changed
  rw [moves] at changed
  rcases ending_of_changed changed with ⟨decision, member, rfl⟩
  have decided := decided_of_ending sound.linked.tasks
    (sound.writers key _ ends.found) member
  have readInCall := readInCall_of_ending fresh reaches ends.found member
  rcases decided.selected.isRead with ⟨run, found, kind, startedAt⟩
  have notSpared := decided.notSpared
  simp only [isSpared, Bool.or_eq_false_iff, List.any_eq_false,
    Bool.and_eq_false_iff, decide_eq_false_iff_not, Int.not_le] at notSpared
  refine ⟨run, found, startedAt ▸ decided.selected.old, decision.tasks,
    readInCall, ?_, ?_⟩
  · exact fun task member => Bool.eq_false_iff.mpr (notSpared.1 task member)
  · intro none isDownload
    rw [startedAt]
    simpa [none, ← kind, isDownload] using notSpared.2

/-! ## The main result -/

/--
Whatever the order of the writers, a cancelled Run stays cancelled, and it
keeps its row as long as no other cancel finishes it.  What a recovery ends
is older than its threshold, and had no unfinished task when it was read.
-/
theorem cancelled_stays
    {environment : Environment} {start reached : State}
    (fresh : Fresh start) (reaches : Reaches environment start reached) :
    (∀ runId run, reached.db.run.get runId = some run →
      run.status = .cancelled →
      (∀ later, Reaches environment reached later →
        IsCancelled later.db.run runId) ∧
      ∀ later, Steps (step environment)
        (fun state action => ¬ cancels state action.event runId)
        reached later → later.db.run.get runId = some run) ∧
    ∀ action next key recovery runId,
      step environment reached action = some next →
      EndsRun key recovery reached next action runId →
        ∃ run, Recoverable environment start reached key recovery runId
          run := by
  have sound := sound_of_reaches fresh reaches
  constructor
  · intro runId run found cancelled
    constructor
    · exact fun later => isCancelled_of_reaches sound ⟨run, found, cancelled⟩
    · exact fun later => cancelled_row_of_steps sound found cancelled
  · exact fun action next key recovery runId taken =>
      recoverable_of_endsRun fresh reaches taken

/-- One worker, and one Playlist which is about to be made. -/
def oneWorker : Environment where
  system := System.oneWorker
  fingerprint := fun _ _ => ""

/-- The cancel of a discover Run whose handler works. -/
def cancelledRun : List Action :=
  [⟨.configure System.onePlaylist.db, 0⟩,
    ⟨.operations (.startDiscover 1 false .manual 5), 0⟩,
    ⟨.operations (.system (.claim .network "network" none)), 0⟩,
    ⟨.operations (.system (.start 1)), 0⟩,
    ⟨.runCancel 1, 1⟩,
    ⟨.proceed 1, 1⟩,
    ⟨.proceed 1, 2⟩]

/-- The handler sees the cancel. -/
def handlerExit : Action :=
  ⟨.operations (.system (.finish 1 (.discover .cancelled))), 3⟩

theorem fresh_empty : Fresh {} := ⟨rfl, rfl, rfl, rfl, rfl⟩

theorem cancelled_stays_handlerExit :
    ∃ reached later, run (step oneWorker) {} cancelledRun = some reached ∧
      step oneWorker reached handlerExit = some later ∧
      IsCancelled later.db.run 1 := by
  refine ⟨_, _, rfl, rfl, ?_⟩
  have stays := @cancelled_stays oneWorker {} _ fresh_empty
    (Steps.of_run cancelledRun rfl)
  exact (stays.1 1 _ rfl rfl).1 _ (Steps.of_run [handlerExit] rfl)

/-- The statistics of a cancelled Run stay. -/
def KeepsStatistics (environment : Environment) (start : State) : Prop :=
  ∀ reached later runId run run',
    Reaches environment start reached → Reaches environment reached later →
      reached.db.run.get runId = some run → run.status = .cancelled →
        later.db.run.get runId = some run' → run'.statsJson = run.statsJson

/-- A recovery ends no Run with an unfinished task. -/
def SparesUnfinished (environment : Environment) (start : State) : Prop :=
  ∀ reached action next key recovery runId,
    Reaches environment start reached →
      step environment reached action = some next →
        EndsRun key recovery reached next action runId →
          ∀ task ∈ runTasks reached.db runId,
            isUnfinished task.2.status = false

/-- The task of a discover Run is cancelled, and later the Run recovered. -/
def decidedRun : List Action :=
  [⟨.configure System.onePlaylist.db, 0⟩,
    ⟨.operations (.startDiscover 1 false .manual 5), 0⟩,
    ⟨.operations (.system (.cliCancelTask 1)), 1⟩,
    ⟨.recoverOrphanRuns 300000000, 600000000⟩,
    ⟨.proceed 1, 600000000⟩,
    ⟨.operations (.retryTask 1), 600000000⟩]

/--
The exit of the handler replaces the statistics which the cancel wrote; and a
task which is retried after the recovery has read it is unfinished when its
Run is ended.
-/
theorem not_cancelled_stays :
    ¬ KeepsStatistics oneWorker {} ∧ ¬ SparesUnfinished oneWorker {} := by
  constructor
  · intro keeps
    have same := keeps _ _ 1 _ _ (Steps.of_run cancelledRun rfl)
      (Steps.of_run [handlerExit] rfl) rfl rfl rfl
    cases same
  · intro spares
    have finished := spares _ ⟨.proceed 1, 600000001⟩ _ 1 _ 1
      (Steps.of_run decidedRun rfl) rfl ⟨rfl, rfl, ?_⟩ _
      List.mem_cons_self
    · cases finished
    · intro same
      cases same

end Sluicery.Operations.RunWriters
