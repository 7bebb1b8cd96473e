import Mathlib
import Sluicery.Core.IntegrityTarget
import Sluicery.Operations.RunWriters
import Sluicery.Operations.Steps

/-!
# What the events write to the Runs

A Run of a discover or a download which is cancelled stays as it is, or is
finished as cancelled once more.  `RunsWritten` says this of a step together
with what every step keeps, and names the Runs which the step cancels.
Retentions and folder moves write their Runs without a condition, and so the
kind of a Run decides.
-/

namespace Sluicery.Operations

open Sluicery.Library Sluicery.Db Sluicery.Db.TaskRepository
open Sluicery.Core Sluicery.Tasks Sluicery.Tasks.Handlers

/-! ## Rows -/

/-- The kinds of Runs which have tasks. -/
def IsSync (kind : String) : Prop :=
  kind = "discover" ∨ kind = "download"

/-- The Run exists, and is of another kind. -/
def IsDirect (runs : Table RunRow) (runId : Nat) : Prop :=
  ∃ run, runs.get runId = some run ∧ ¬ IsSync run.kind

/-- The row is finished as cancelled. -/
def CancelledAgain (run run' : RunRow) : Prop :=
  ∃ stats time, run' = RunRepository.finishValues .cancelled stats time run

/-- What a step does to the row of a Run which it may cancel. -/
structure RunWritten (cancels : Prop) (run run' : RunRow) : Prop where
  kind : run'.kind = run.kind
  startedAt : run'.startedAt = run.startedAt
  absorbing : run.status = .cancelled → IsSync run.kind →
    run' = run ∨ cancels ∧ CancelledAgain run run'
  caused : run'.status = .cancelled → run.status = .cancelled ∨ cancels

theorem RunWritten.refl (cancels : Prop) (run : RunRow) :
    RunWritten cancels run run :=
  ⟨rfl, rfl, fun _ _ => Or.inl rfl, Or.inl⟩

theorem RunWritten.weaken
    {cancels permissive : Prop} {run run' : RunRow}
    (written : RunWritten cancels run run') (weaker : cancels → permissive) :
    RunWritten permissive run run' where
  kind := written.kind
  startedAt := written.startedAt
  absorbing := fun cancelled isSync =>
    (written.absorbing cancelled isSync).imp_right (And.imp_left weaker)
  caused := fun cancelled => (written.caused cancelled).imp_right weaker

theorem CancelledAgain.status {run run' : RunRow}
    (again : CancelledAgain run run') : run'.status = .cancelled := by
  rcases again with ⟨_, _, rfl⟩
  rfl

/-- Only the last of two cancels is left. -/
theorem CancelledAgain.trans {run middle run' : RunRow}
    (first : CancelledAgain run middle)
    (second : CancelledAgain middle run') : CancelledAgain run run' := by
  rcases first with ⟨_, _, rfl⟩
  rcases second with ⟨stats, time, rfl⟩
  exact ⟨stats, time, rfl⟩

theorem RunWritten.trans
    {cancels : Prop} {run middle run' : RunRow}
    (first : RunWritten cancels run middle)
    (second : RunWritten cancels middle run') :
    RunWritten cancels run run' where
  kind := second.kind.trans first.kind
  startedAt := second.startedAt.trans first.startedAt
  absorbing := by
    intro cancelled isSync
    rcases first.absorbing cancelled isSync with rfl | ⟨does, again⟩
    · exact second.absorbing cancelled isSync
    · rcases second.absorbing again.status (first.kind ▸ isSync) with
        rfl | ⟨-, once⟩
      · exact Or.inr ⟨does, again⟩
      · exact Or.inr ⟨does, again.trans once⟩
  caused := by
    intro cancelled
    rcases second.caused cancelled with before | does
    · exact first.caused before
    · exact Or.inr does

/-! ## Tables -/

/-- What a step does to the Runs: `cancels` are those it cancels. -/
structure RunsWritten (cancels : Nat → Prop)
    (before after : Table RunRow) : Prop where
  kept {runId : Nat} {run : RunRow} (found : before.get runId = some run) :
    ∃ run', after.get runId = some run' ∧ RunWritten (cancels runId) run run'
  fresh {runId : Nat} {run : RunRow} (missing : before.get runId = none)
    (found : after.get runId = some run) (cancelled : run.status = .cancelled) :
    cancels runId

section RunsWritten

variable {cancels : Nat → Prop} {before middle after : Table RunRow}

theorem RunsWritten.refl (runs : Table RunRow) :
    RunsWritten cancels runs runs where
  kept := fun found => ⟨_, found, .refl _ _⟩
  fresh := fun missing found => by
    rw [missing] at found
    cases found

theorem runsWritten_of_eq (same : after = before) :
    RunsWritten cancels before after := by
  rw [same]
  exact .refl _

theorem RunsWritten.weaken
    {permissive : Nat → Prop} (written : RunsWritten cancels before after)
    (weaker : ∀ runId, cancels runId → permissive runId) :
    RunsWritten permissive before after where
  kept := by
    intro runId run found
    rcases written.kept found with ⟨run', found', isWritten⟩
    exact ⟨run', found', isWritten.weaken (weaker runId)⟩
  fresh := fun missing found cancelled =>
    weaker _ (written.fresh missing found cancelled)

theorem RunsWritten.trans
    (first : RunsWritten cancels before middle)
    (second : RunsWritten cancels middle after) :
    RunsWritten cancels before after where
  kept := by
    intro runId run found
    rcases first.kept found with ⟨run', foundMiddle, written⟩
    rcases second.kept foundMiddle with ⟨run'', foundAfter, written'⟩
    exact ⟨run'', foundAfter, written.trans written'⟩
  fresh := by
    intro runId run missing found cancelled
    cases foundMiddle : middle.get runId with
    | none => exact second.fresh foundMiddle found cancelled
    | some between =>
        rcases second.kept foundMiddle with ⟨run', foundAfter, written⟩
        rw [found, Option.some.injEq] at foundAfter
        subst foundAfter
        rcases written.caused cancelled with already | does
        · exact first.fresh missing foundMiddle already
        · exact does

/-- `finish`, whose guard leaves a cancelled Run to other cancels. -/
theorem runsWritten_finish
    (runs : Table RunRow) (finished : Nat) (status : RunStatus)
    (stats : Json.Fields) (now : Time)
    (does : status = .cancelled → cancels finished) :
    RunsWritten cancels runs
      (RunRepository.finish runs finished status stats now).2 where
  kept := by
    intro runId run found
    rw [RunRepository.get_finish, found, Option.map_some]
    refine ⟨_, rfl, ?_⟩
    split
    case isFalse => exact .refl _ _
    next finishes =>
    simp only [RunRepository.finishable, Bool.and_eq_true, beq_iff_eq,
      Bool.or_eq_true, bne_iff_ne] at finishes
    rcases finishes with ⟨rfl, guarded⟩
    constructor
    · rfl
    · rfl
    · intro cancelled _
      have again := guarded.resolve_right fun other => other cancelled
      subst again
      exact Or.inr ⟨does rfl, stats, now, rfl⟩
    · exact fun cancelled => Or.inr (does cancelled)
  fresh := by
    intro runId run missing found
    rw [RunRepository.get_finish, missing] at found
    cases found

/-- A direct assignment to a Run which has no tasks. -/
theorem runsWritten_modify
    {runs : Table RunRow} {changed : Nat} {change : RunRow → RunRow}
    (direct : IsDirect runs changed)
    (kind : ∀ run, (change run).kind = run.kind)
    (startedAt : ∀ run, (change run).startedAt = run.startedAt)
    (status : ∀ run, (change run).status = .cancelled →
      run.status = .cancelled) :
    RunsWritten cancels runs (runs.modify changed change) where
  kept := by
    intro runId run found
    rw [Table.get_modify]
    split
    · next same =>
        subst same
        rcases direct with ⟨other, foundOther, notSync⟩
        rw [found, Option.some.injEq] at foundOther
        subst foundOther
        rw [found, Option.map_some]
        exact ⟨_, rfl, kind run, startedAt run,
          fun _ isSync => absurd isSync notSync,
          fun cancelled => Or.inl (status run cancelled)⟩
    · exact ⟨run, found, .refl _ _⟩
  fresh := by
    intro runId run missing found
    rw [Table.get_modify, missing] at found
    split at found <;> cases found

/-- No step changes the kind of a Run. -/
theorem IsDirect.written {runId : Nat} (direct : IsDirect before runId)
    (written : RunsWritten cancels before after) : IsDirect after runId := by
  rcases direct with ⟨run, found, notSync⟩
  rcases written.kept found with ⟨run', found', isWritten⟩
  exact ⟨run', found', isWritten.kind.symm ▸ notSync⟩

theorem runsWritten_insert
    (runs : Table RunRow) {run : RunRow} (started : run.status ≠ .cancelled) :
    RunsWritten cancels runs (runs.insert run) where
  kept := fun found =>
    ⟨_, Table.get_insert_of_some _ found, .refl _ _⟩
  fresh := fun missing found cancelled => by
    rw [Table.eq_of_get_insert missing found] at cancelled
    exact absurd cancelled started

end RunsWritten

/-! ## Events of the system -/

/-- The event ends the handler of a discover Run with a cancel. -/
def cancelsHandled (state : System.State) (event : System.Event)
    (runId : Nat) : Prop :=
  ∃ key execution, event = .finish key (.discover .cancelled) ∧
    state.executions.get key = some execution ∧
    execution.task.type = .discover ∧ System.handledRun execution = runId

section Handlers

variable (cancels : Nat → Prop) (db : Database) (now : Time)

theorem runsWritten_finishRun
    (runId : Option Nat) (status : RunStatus) (stats : Json.Fields)
    (does : status = .cancelled → cancels (runId.getD 0)) :
    RunsWritten cancels db.run (finishRun db runId status stats now).run := by
  cases runId with
  | none => exact .refl _
  | some finished => exact runsWritten_finish _ _ _ _ _ does

theorem runsWritten_failRun (runId : Option Nat) :
    RunsWritten cancels db.run
      (finishRun db runId .failed (emptyStats true) now).run := by
  apply runsWritten_finishRun
  intro impossible
  cases impossible

/-- The first part of a handler only fails a Run. -/
theorem runsWritten_startHandler
    {execution : System.Execution} {parseDatetime : String → Option Time}
    {started : Started × Database}
    (starts : System.startHandler db execution parseDatetime now =
      some started) :
    RunsWritten cancels db.run started.2.run := by
  by_cases isDiscover : execution.task.type = .discover
  · simp only [System.startHandler, isDiscover, Option.some.injEq] at starts
    rw [← starts]
    have failed := runsWritten_failRun cancels db now
    unfold discoverStart discoverFailed
    dsimp only
    split
    · split
      · exact failed _
      · exact .refl _
    · exact failed _
  · exact runsWritten_of_eq
      (System.startHandler_run_eq db now isDiscover starts)

/-- The second part of a handler cancels a Run when its listing was cancelled. -/
theorem runsWritten_finishHandler
    {execution : System.Execution} {work : Work} {answer : System.Answer}
    {finished : Except String TaskResult × Database}
    (does : answer = .discover .cancelled →
      execution.task.type = .discover →
        cancels (System.handledRun execution))
    (finishes :
      System.finishHandler db execution work now answer = some finished) :
    RunsWritten cancels db.run finished.2.run := by
  by_cases isDiscover : execution.task.type = .discover
  case neg =>
    exact runsWritten_of_eq
      (System.finishHandler_run_eq db now isDiscover finishes)
  have failed := runsWritten_failRun cancels db now
  cases answer with
  | discover answer =>
      simp only [System.finishHandler, isDiscover, if_true,
        Option.some.injEq] at finishes
      rw [← finishes]
      cases answer with
      | cookieError => exact failed _
      | cancelled =>
          exact runsWritten_finishRun cancels db now _ _ _
            fun _ => does rfl isDiscover
      | failed classification =>
          cases classification with
          | blocked => exact .refl _
          | _ => exact failed _
      | applied stats =>
          simp only [discoverFinish]
          split
          · apply runsWritten_finish
            intro impossible
            cases impossible
          · exact .refl _
  | _ => simp [System.finishHandler, isDiscover] at finishes

end Handlers

/-- An event which touches no Run keeps the Runs, and adds none. -/
theorem runsWritten_of_untouched
    {cancels : Nat → Prop} {environment : System.Environment}
    {state state' : System.State} {action : System.Action}
    (notStart : action.event.startsDiscover = false)
    (untouched : ∀ runId, ¬ System.touchesRun state action.event runId)
    (taken : System.step environment state action = some state') :
    RunsWritten cancels state.db.run state'.db.run where
  kept := by
    intro runId run found
    rcases System.runsKept_of_step notStart taken runId run found with
      ⟨run', found', -, -, same⟩
    rw [same (untouched runId)] at found'
    exact ⟨run, found', .refl _ _⟩
  fresh := by
    intro runId run missing found
    rw [(System.runsEnd_of_not_start notStart taken).absent missing] at found
    cases found

/-- Of the other events of the system only handlers finish Runs. -/
theorem runsWritten_system
    {environment : System.Environment} {state state' : System.State}
    {action : System.Action}
    (notCall : RunWriters.isCall (.system action.event) = false)
    (notPart : isPart action.event = false)
    (taken : System.step environment state action = some state') :
    RunsWritten (cancelsHandled state action.event) state.db.run
      state'.db.run := by
  obtain ⟨event, now⟩ := action
  cases event with
  | start key =>
      rcases Option.bind_eq_some_iff.mp taken with ⟨execution, found, taken⟩
      simp only [System.stepExecution] at taken
      split at taken
      · rcases Option.map_eq_some_iff.mp taken with ⟨started, starts, rfl⟩
        exact runsWritten_startHandler _ _ _ starts
      · cases taken
  | finish key answer =>
      rcases Option.bind_eq_some_iff.mp taken with ⟨execution, found, taken⟩
      simp only [System.stepExecution] at taken
      split at taken
      · rcases Option.map_eq_some_iff.mp taken with ⟨finished, finishes, rfl⟩
        apply runsWritten_finishHandler _ _ _ _ finishes
        rintro rfl isDiscover
        exact ⟨key, execution, rfl, found, isDiscover, rfl⟩
      · cases taken
  | startDiscover => cases notPart
  | reap | cancelRun | interruptDiscover | concludeDiscover => cases notCall
  | _ => exact runsWritten_of_untouched rfl (fun _ => id) taken

/-! ## Calls -/

/-- The operations of a retention on its candidates leave tasks and Runs. -/
theorem retention_perform
    {fingerprint : StorageKind → Option Json.Fields → String}
    {execution next : Retention.Execution}
    {candidate : Retention.RetentionCandidate}
    {rest : List Retention.RetentionCandidate} {name : String} {now : Time}
    (performs : execution.perform fingerprint candidate rest name now =
      .ok next) :
    next.runId = execution.runId ∧ next.db.task = execution.db.task ∧
      next.db.run = execution.db.run := by
  unfold Retention.Execution.perform at performs
  split at performs
  case h_1 => cases performs
  case h_2 =>
    split at performs <;> cases performs
    exact ⟨rfl, rfl, rfl⟩
  case h_3 =>
    cases performs
    exact ⟨rfl, rfl, rfl⟩
  case h_4 =>
    split at performs <;> cases performs
    exact ⟨rfl, rfl, rfl⟩
  case h_5 =>
    cases performs
    exact ⟨rfl, rfl, rfl⟩
  case h_6 =>
    split at performs <;> cases performs
    exact ⟨rfl, rfl, rfl⟩

/-- The end of a retention writes its own Run. -/
theorem runsWritten_conclude
    (cancels : Nat → Prop) {execution : Retention.Execution}
    (outcome : Retention.Outcome) (now : Time)
    (direct : IsDirect execution.db.run execution.runId) :
    RunsWritten cancels execution.db.run
      (execution.conclude outcome now).db.run := by
  show RunsWritten cancels execution.db.run
    (execution.db.run.modify execution.runId fun run =>
      Retention.concludedRun execution.deletedCount execution.deletedBytes
        now run outcome)
  apply runsWritten_modify direct
  · intro run
    cases outcome <;> rfl
  · intro run
    cases outcome <;> rfl
  · intro run cancelled
    cases outcome <;> cases cancelled

theorem runsWritten_retention
    (cancels : Nat → Prop)
    {fingerprint : StorageKind → Option Json.Fields → String}
    {execution next : Retention.Execution} {event : Retention.Event}
    (direct : IsDirect execution.db.run execution.runId)
    (taken : Retention.step fingerprint execution event = some next) :
    next.runId = execution.runId ∧ next.db.task = execution.db.task ∧
      RunsWritten cancels execution.db.run next.db.run := by
  have concludes := fun outcome now =>
    runsWritten_conclude cancels outcome now direct
  cases event with
  | proceed name now =>
      simp only [Retention.step] at taken
      split at taken
      · cases taken
      split at taken
      · cases taken
        exact ⟨rfl, rfl, concludes _ _⟩
      · split at taken
        · next performs =>
            cases taken
            rcases retention_perform performs with ⟨runId, task, run⟩
            exact ⟨runId, task, runsWritten_of_eq run⟩
        · cases taken
          exact ⟨rfl, rfl, concludes _ _⟩
  | raise tookEffect name now =>
      simp only [Retention.step] at taken
      split at taken
      · cases taken
      split at taken
      · cases taken
        exact ⟨rfl, rfl, .refl _⟩
      · split at taken
        · next performed performs =>
            rcases retention_perform performs with ⟨runId, task, run⟩
            split at taken
            · cases taken
              refine ⟨runId, task, ?_⟩
              rw [← run]
              apply runsWritten_conclude
              rw [runId, run]
              exact direct
            · cases taken
              exact ⟨rfl, rfl, concludes _ _⟩
        · cases taken
          exact ⟨rfl, rfl, concludes _ _⟩

/-- A folder move writes its own Run in every commit. -/
theorem runsWritten_perform
    (cancels : Nat → Prop)
    {fingerprint : StorageKind → Option Json.Fields → String}
    {execution next : FolderMove.Execution} {logPath : String} {now : Time}
    (direct : IsDirect execution.db.run execution.runId)
    (performs : execution.perform fingerprint logPath now = some next) :
    next.runId = execution.runId ∧ next.db.task = execution.db.task ∧
      RunsWritten cancels execution.db.run next.db.run := by
  have keeps : ∀ movedCount intent, RunsWritten cancels execution.db.run
      (execution.setStats intent movedCount) := fun _ _ =>
    runsWritten_modify direct (fun _ => rfl) (fun _ => rfl) fun _ => id
  have journals : RunsWritten cancels execution.db.run
      (execution.db.run.modify execution.runId fun run =>
        { run with logPath := some logPath }) :=
    runsWritten_modify direct (fun _ => rfl) (fun _ => rfl) fun _ => id
  have succeeds : RunsWritten cancels execution.db.run
      (execution.db.run.modify execution.runId fun run =>
        { run with
          status := .succeeded
          finishedAt := some now
          statsJson := some (FolderMove.runStats execution.plan
            execution.movedCount none none) }) :=
    runsWritten_modify direct (fun _ => rfl) (fun _ => rfl)
      fun _ impossible => nomatch impossible
  unfold FolderMove.Execution.perform at performs
  split at performs
  case h_1 =>
    cases performs
    exact ⟨rfl, rfl, journals⟩
  case h_2 =>
    split at performs <;> cases performs
    exact ⟨rfl, rfl, succeeds⟩
  case h_3 =>
    split at performs <;> cases performs
    exact ⟨rfl, rfl, keeps _ _⟩
  case h_4 =>
    rcases Option.map_eq_some_iff.mp performs with ⟨files, -, rfl⟩
    exact ⟨rfl, rfl, .refl _⟩
  case h_5 =>
    split at performs <;> cases performs
    exact ⟨rfl, rfl, keeps _ _⟩
  case h_6 => cases performs

theorem runsWritten_fail
    {cancels : Nat → Prop} {execution : FolderMove.Execution} (now : Time)
    (direct : IsDirect execution.db.run execution.runId) :
    RunsWritten cancels execution.db.run (execution.fail now).db.run := by
  have fails : ∀ stats, RunsWritten cancels execution.db.run
      (execution.db.run.modify execution.runId fun run =>
        { run with
          status := .failed
          finishedAt := some now
          statsJson := stats }) := fun _ =>
    runsWritten_modify direct (fun _ => rfl) (fun _ => rfl)
      fun _ impossible => nomatch impossible
  exact fails _

theorem runsWritten_folderMove
    (cancels : Nat → Prop)
    {fingerprint : StorageKind → Option Json.Fields → String}
    {execution next : FolderMove.Execution} {event : FolderMove.Event}
    (direct : IsDirect execution.db.run execution.runId)
    (taken : FolderMove.step fingerprint execution event = some next) :
    next.runId = execution.runId ∧ next.db.task = execution.db.task ∧
      RunsWritten cancels execution.db.run next.db.run := by
  cases event with
  | proceed logPath now =>
      simp only [FolderMove.step] at taken
      split at taken
      · cases taken
      split at taken
      · next performs =>
          cases taken
          exact runsWritten_perform cancels direct performs
      · cases taken
        exact ⟨rfl, rfl, runsWritten_fail now direct⟩
  | raise tookEffect logPath now =>
      simp only [FolderMove.step] at taken
      split at taken
      · cases taken
      split at taken
      · next performed performs =>
          cases taken
          have done := runsWritten_perform cancels direct
            performs
          split
          · refine ⟨rfl, done.2.1, done.2.2.trans ?_⟩
            -- The failure is written after the effect.
            apply @runsWritten_fail cancels (execution.afterEffect performed)
            exact direct.written done.2.2
          · exact ⟨rfl, rfl, runsWritten_fail now direct⟩
      · cases taken
        exact ⟨rfl, rfl, runsWritten_fail now direct⟩
  | outside files =>
      cases taken
      exact ⟨rfl, rfl, .refl _⟩

theorem enqueueTargetPipeline_run
    {db : Database} {targetId : Nat} {runId : Option Nat} {workId : String}
    {maxAttempts : Nat} {now : Time}
    {enqueued : Option (List Nat) × Database}
    (enqueues : enqueueTargetPipeline db targetId runId workId maxAttempts
      now = .ok enqueued) :
    enqueued.2.run = db.run := by
  unfold enqueueTargetPipeline at enqueues
  split at enqueues <;> cases enqueues <;> rfl

theorem ok_of_raiseTransition {Value : Type}
    {result : Except TransitionError Value} {value : Value}
    (raises : raiseTransition result = .ok value) : result = .ok value := by
  cases result with
  | error error => cases error <;> cases raises
  | ok other => rw [Except.ok.inj raises]

/-- A download phase finishes its Run, and never as cancelled. -/
theorem runsWritten_download
    (cancels : Nat → Prop) {run : DownloadRun} {db : Database}
    {answer : Option String} {workId : String} {now : Time}
    {after : Option DownloadRun × Database}
    (proceeds : run.proceed db answer workId now = .ok after) :
    (∀ next, after.1 = some next → next.runId = run.runId) ∧
      RunsWritten cancels db.run after.2.run := by
  unfold DownloadRun.proceed at proceeds
  split at proceeds
  case h_1 =>
    rcases ok_of_map_eq_ok proceeds with ⟨next, selects, rfl⟩
    unfold DownloadRun.select at selects
    split at selects
    · cases selects
    split at selects
    · cases selects
    split at selects <;> cases selects
    exact ⟨fun _ isNext => Option.some.inj isNext ▸ rfl, .refl _⟩
  case h_2 =>
    cases proceeds
    exact ⟨fun _ isNext => Option.some.inj isNext ▸ rfl, .refl _⟩
  case h_3 =>
    rcases ok_of_map_eq_ok proceeds with ⟨next, checks, rfl⟩
    unfold DownloadRun.check at checks
    dsimp only at checks
    split at checks
    · rcases ok_of_map_eq_ok checks with ⟨target, -, rfl⟩
      exact ⟨fun _ isNext => Option.some.inj isNext ▸ rfl, .refl _⟩
    · rcases ok_of_map_eq_ok checks with ⟨target, -, rfl⟩
      exact ⟨fun _ isNext => Option.some.inj isNext ▸ rfl, .refl _⟩
  case h_4 =>
    cases proceeds
    exact ⟨fun _ isNext => Option.some.inj isNext ▸ rfl, .refl _⟩
  case h_5 =>
    rcases ok_of_map_eq_ok proceeds with ⟨next, enqueues, rfl⟩
    unfold DownloadRun.enqueue at enqueues
    split at enqueues
    · cases enqueues
      exact ⟨fun _ isNext => Option.some.inj isNext ▸ rfl, .refl _⟩
    · rcases ok_of_map_eq_ok enqueues with ⟨enqueued, raises, rfl⟩
      exact ⟨fun _ isNext => Option.some.inj isNext ▸ rfl, runsWritten_of_eq
        (enqueueTargetPipeline_run (ok_of_raiseTransition raises))⟩
  case h_6 queued blocked stats _ =>
    cases proceeds
    refine ⟨fun _ isNext => (nomatch isNext), ?_⟩
    apply runsWritten_finish
    unfold DownloadRun.finalStatus
    split <;> exact fun impossible => nomatch impossible

/-- The Runs which a folder move takes over fail. -/
theorem runsWritten_recoverRuns
    {cancels : Nat → Prop} {plan : FolderMove.FolderMovePlan} {now : Time}
    {runIds : List Nat} {runs recovered : Table RunRow}
    (recovers : FolderMove.recoverRuns plan now runIds runs =
      some recovered) :
    RunsWritten cancels runs recovered := by
  induction runIds generalizing runs with
  | nil =>
      cases recovers
      exact .refl _
  | cons runId rest induction =>
      rw [FolderMove.recoverRuns] at recovers
      split at recovers
      case isFalse => cases recovers
      next isRecoverable =>
      rcases (Option.any_eq_true _ _).mp isRecoverable with
        ⟨run, found, meets⟩
      simp only [FolderMove.isRecoverable, Bool.and_eq_true, beq_iff_eq]
        at meets
      have direct : IsDirect runs runId := by
        refine ⟨run, found, ?_⟩
        rw [meets.1.1.1]
        simp [IsSync]
      have fails : RunsWritten cancels runs
          (runs.modify runId (FolderMove.interruptedRun now)) := by
        apply runsWritten_modify direct
        · exact fun _ => rfl
        · exact fun _ => rfl
        · intro run impossible
          cases impossible
      exact fails.trans (induction recovers)

/-! ## Starts -/

theorem runsWritten_stepStart
    {cancels : Nat → Prop} (environment : Environment) (world : World)
    (now : Time) (event : Event) :
    RunsWritten cancels world.db.run
      (stepStart environment world now event).db.run := by
  have inserts : ∀ (runs : Table RunRow) (run : RunRow),
      run.status = .running → RunsWritten cancels runs (runs.insert run) := by
    intro runs run running
    apply runsWritten_insert
    rw [running]
    exact fun impossible => nomatch impossible
  cases event with
  | startDiscover playlistId dryRun trigger attempts =>
      simp only [stepStart]
      split
      · exact .refl _
      · next started starts =>
          rcases ok_of_enqueueDiscoverRun starts with ⟨-, -, rfl⟩
          exact inserts _ _ rfl
  | startDownload playlistId trigger targetLimit retryLimit =>
      simp only [stepStart]
      split
      · exact .refl _
      · next started starts =>
          unfold startDownloadRun at starts
          split at starts <;> cases starts
          exact inserts _ _ rfl
  | startRetention plan files logs logPath =>
      simp only [stepStart]
      split
      · exact .refl _
      · next execution starts =>
          unfold Retention.start at starts
          repeat' split at starts
          all_goals cases starts
          exact inserts _ _ rfl
  | startFolderMove plan files =>
      simp only [stepStart]
      split
      · exact .refl _
      split
      · exact .refl _
      · next execution starts =>
          unfold FolderMove.start at starts
          split at starts
          · cases starts
          split at starts
          · cases starts
          split at starts
          · cases starts
          next runs recovers =>
          dsimp only at starts
          split at starts
          · cases starts
          split at starts <;> cases starts
          exact (runsWritten_recoverRuns recovers).trans (inserts _ _ rfl)
  | _ => exact .refl _

/-! ## Steps of calls and users -/

/-- The Run of a call has the kind of the call. -/
def OperationLinked (runs : Table RunRow) (operation : Operation) : Prop :=
  ∃ run, runs.get operation.runId = some run ∧ run.kind = operation.kind

theorem OperationLinked.direct
    {runs : Table RunRow} {operation : Operation}
    (linked : OperationLinked runs operation)
    (other : ¬ IsSync operation.kind) : IsDirect runs operation.runId := by
  rcases linked with ⟨run, found, kind⟩
  exact ⟨run, found, kind.symm ▸ other⟩

theorem OperationLinked.written
    {cancels : Nat → Prop} {before after : Table RunRow}
    {operation : Operation} (linked : OperationLinked before operation)
    (written : RunsWritten cancels before after) :
    OperationLinked after operation := by
  rcases linked with ⟨run, found, kind⟩
  rcases written.kept found with ⟨run', found', isWritten⟩
  exact ⟨run', found', isWritten.kind.trans kind⟩

/-- A step of a call writes its own Run, and the call keeps its Run. -/
theorem runsWritten_operates
    (cancels : Nat → Prop) {environment : Environment}
    {db after : Database} {operation : Operation} {next : Option Operation}
    (linked : OperationLinked db.run operation)
    (operates : Operates environment db operation after next) :
    (∀ goesOn, next = some goesOn →
      goesOn.runId = operation.runId ∧ goesOn.kind = operation.kind) ∧
    RunsWritten cancels db.run after.run := by
  cases operates with
  | download proceeds =>
      have done := runsWritten_download cancels proceeds
      refine ⟨fun goesOn isNext => ?_, done.2⟩
      rcases Option.map_eq_some_iff.mp isNext with ⟨run, isRun, rfl⟩
      exact ⟨done.1 run isRun, rfl⟩
  | raised =>
      refine ⟨fun _ isNext => (nomatch isNext), ?_⟩
      exact runsWritten_finish _ _ _ _ _ fun impossible => nomatch impossible
  | @retention playlistId execution next files event taken =>
      have done := runsWritten_retention cancels
        (linked.direct (by simp [IsSync, Operation.kind])) taken
      refine ⟨fun goesOn isNext => ?_, done.2.2⟩
      split at isNext <;> cases isNext
      exact ⟨done.1, rfl⟩
  | @folderMove execution next files event taken =>
      have done := runsWritten_folderMove cancels
        (linked.direct (by simp [IsSync, Operation.kind])) taken
      refine ⟨fun goesOn isNext => ?_, done.2.2⟩
      split at isNext <;> cases isNext
      exact ⟨done.1, rfl⟩
  | stopped => exact ⟨fun _ isNext => (nomatch isNext), .refl _⟩

/-- The tasks and the Runs are as before. -/
def SameTasks (before after : Database) : Prop :=
  after.task = before.task ∧ after.run = before.run

theorem sameTasks_transition
    {db after : Database} {result : Except TransitionError (Table TargetRow)}
    (transition : result.toOption.map (fun target => { db with target }) =
      some after) : SameTasks db after := by
  rcases Option.map_eq_some_iff.mp transition with ⟨target, -, rfl⟩
  exact ⟨rfl, rfl⟩

theorem sameTasks_targetAction
    {db after : Database} {playlistId targetId : Nat}
    {action : Web.TargetAction} {now : Time}
    (acts : Web.playlistTargetAction db playlistId targetId action now =
      some after) : SameTasks db after := by
  unfold Web.playlistTargetAction at acts
  simp only [Option.bind_eq_bind, Option.bind_eq_some_iff] at acts
  rcases acts with ⟨target, -, item, -, acts⟩
  split at acts
  · cases acts
  · split at acts
    · exact sameTasks_transition acts
    · exact sameTasks_transition acts
    · exact sameTasks_transition acts
    · cases acts
      exact ⟨rfl, rfl⟩
    · cases acts

theorem sameTasks_applyDecision
    (checkedAt now : Time) (progress : Integrity.Progress)
    (entry : Integrity.ArtifactSnapshot × Integrity.Decision) :
    SameTasks progress.db
      (Integrity.applyDecision checkedAt now progress entry).db := by
  rw [Integrity.applyDecision_eq]
  split <;> exact ⟨rfl, rfl⟩

theorem sameTasks_settleTarget
    (now : Time) (progress : Integrity.Progress) (targetId : Nat) :
    SameTasks progress.db
      (Integrity.settleTarget now progress targetId).db := by
  unfold Integrity.settleTarget
  split
  · exact ⟨rfl, rfl⟩
  · split
    · split <;> exact ⟨rfl, rfl⟩
    · split <;> exact ⟨rfl, rfl⟩

/-- A loop of the integrity check leaves what its rounds leave. -/
theorem sameTasks_foldl
    {Entry : Type} {round : Integrity.Progress → Entry → Integrity.Progress}
    (each : ∀ progress entry, SameTasks progress.db (round progress entry).db)
    (entries : List Entry) (progress : Integrity.Progress) :
    SameTasks progress.db (entries.foldl round progress).db := by
  induction entries generalizing progress with
  | nil => exact ⟨rfl, rfl⟩
  | cons entry rest induction =>
      have first := each progress entry
      have others := induction (round progress entry)
      exact ⟨others.1.trans first.1, others.2.trans first.2⟩

theorem sameTasks_applyDecisions
    (db : Database) (report : Integrity.IntegrityReport)
    (decisions : List (Integrity.ArtifactSnapshot × Integrity.Decision))
    (checkedAt now : Time) :
    SameTasks db
      (Integrity.applyDecisions db report decisions checkedAt now).db := by
  unfold Integrity.applyDecisions
  dsimp only
  have applied := sameTasks_foldl (sameTasks_applyDecision checkedAt now)
    decisions { db, report }
  have settled := sameTasks_foldl (sameTasks_settleTarget now)
    (decisions.foldl (Integrity.applyDecision checkedAt now)
      { db, report }).affectedTargetIds.dedup
    (decisions.foldl (Integrity.applyDecision checkedAt now) { db, report })
  exact ⟨settled.1.trans applied.1, settled.2.trans applied.2⟩

/-- The actions of users on Targets and Artifacts. -/
theorem sameTasks_stepUser
    {environment : Environment} {db after : Database} {now : Time}
    {event : Event}
    (notCall : RunWriters.isCall event = false)
    (notSkipped : ∀ playlistId kind reason,
      event ≠ .recordSkipped playlistId kind reason)
    (notRetry : ∀ taskId, event ≠ .retryTask taskId)
    (acts : stepUser environment db now event = some after) :
    SameTasks db after := by
  cases event with
  | recoverOrphanRuns => cases notCall
  | recordSkipped => exact absurd rfl (notSkipped _ _ _)
  | retryTask => exact absurd rfl (notRetry _)
  | targetAction => exact sameTasks_targetAction acts
  | setMissingAction targetId action =>
      rcases Option.map_eq_some_iff.mp acts with ⟨answer, isAnswer, rfl⟩
      unfold Integrity.setMissingAction at isAnswer
      split at isAnswer
      · cases isAnswer
      · split at isAnswer <;> cases isAnswer
        exact ⟨rfl, rfl⟩
  | manualLink artifactId normalized existsInStorage =>
      simp only [stepUser, Integrity.manualLink] at acts
      repeat' split at acts
      all_goals cases acts
      all_goals exact ⟨rfl, rfl⟩
  | undoManualLink artifactId =>
      simp only [stepUser, Integrity.undoManualLink] at acts
      repeat' split at acts
      all_goals cases acts
      all_goals exact ⟨rfl, rfl⟩
  | checkIntegrity decisions checkedAt =>
      cases acts
      exact sameTasks_applyDecisions _ _ _ _ _
  | _ => cases acts

/-- Of the actions of users only a skipped start writes a Run, a new one. -/
theorem runsWritten_stepUser
    {cancels : Nat → Prop} {environment : Environment} {db after : Database}
    {now : Time} {event : Event}
    (notCall : RunWriters.isCall event = false)
    (acts : stepUser environment db now event = some after) :
    RunsWritten cancels db.run after.run := by
  cases event with
  | recoverOrphanRuns => cases notCall
  | recordSkipped playlistId kind reason =>
      cases acts
      unfold Scheduler.recordSkipped
      split
      · refine (runsWritten_insert _ ?_).trans
          (runsWritten_finish _ _ _ _ _ ?_)
        · exact fun impossible => nomatch impossible
        · exact fun impossible => nomatch impossible
      · exact .refl _
  | retryTask =>
      cases acts
      exact .refl _
  | _ =>
      exact runsWritten_of_eq (sameTasks_stepUser notCall
        (fun _ _ _ impossible => nomatch impossible)
        (fun _ impossible => nomatch impossible) acts).2

end Sluicery.Operations
