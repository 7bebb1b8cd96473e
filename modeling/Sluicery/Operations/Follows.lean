import Sluicery.Operations.RunsWritten
import Sluicery.System.Frames
import Sluicery.System.RunRows
import Sluicery.System.TargetEvents

/-!
# What a step leaves of Runs, Targets and items

Besides the starts, no step makes a Run running, and a Run ends by its own
call, by a handler of its own discover task, by its cancel, or by a recovery.
The playlist of a Target never changes.
-/

namespace Sluicery.Operations

open Sluicery.Library Sluicery.Db Sluicery.Db.TaskRepository
open Sluicery.Core Sluicery.Tasks

/-! ## Rows -/

/-- The same Run, which has ended at most if it may. -/
structure RunFollows (mayEnd : Prop) (run run' : RunRow) : Prop where
  kind : run'.kind = run.kind
  playlistId : run'.playlistId = run.playlistId
  running : run'.status = .running → run.status = .running
  kept : ¬ mayEnd → run'.status = run.status

theorem RunFollows.refl (mayEnd : Prop) (run : RunRow) :
    RunFollows mayEnd run run :=
  ⟨rfl, rfl, id, fun _ => rfl⟩

theorem RunFollows.trans
    {mayEnd : Prop} {run middle run' : RunRow}
    (first : RunFollows mayEnd run middle)
    (second : RunFollows mayEnd middle run') :
    RunFollows mayEnd run run' where
  kind := second.kind.trans first.kind
  playlistId := second.playlistId.trans first.playlistId
  running := fun isRunning => first.running (second.running isRunning)
  kept := fun stays => (second.kept stays).trans (first.kept stays)

theorem RunFollows.weaken
    {mayEnd permissive : Prop} {run run' : RunRow}
    (follows : RunFollows mayEnd run run') (weaker : mayEnd → permissive) :
    RunFollows permissive run run' where
  kind := follows.kind
  playlistId := follows.playlistId
  running := follows.running
  kept := fun stays => follows.kept fun ends => stays (weaker ends)

/-- The same Runs, some of which may have ended. -/
abbrev RunsFollow (mayEnd : Nat → Prop) : Table RunRow → Table RunRow → Prop :=
  RowsMove fun runId => RunFollows (mayEnd runId)

/-- The same Targets of the same items. -/
abbrev ItemsKept : Table TargetRow → Table TargetRow → Prop :=
  RowsMove fun _ row row' => row'.itemId = row.itemId

/-! ## Databases -/

/-- The same Runs, Targets and items; new Runs are not running. -/
structure Follows (mayEnd : Nat → Prop) (before after : Database) : Prop where
  runs {runId : Nat} {run : RunRow}
    (found : before.run.get runId = some run) :
    ∃ run', after.run.get runId = some run' ∧
      RunFollows (mayEnd runId) run run'
  fresh {runId : Nat} {run' : RunRow}
    (missing : before.run.get runId = none)
    (found' : after.run.get runId = some run') : run'.status ≠ .running
  targets {targetId : Nat} {row : TargetRow}
    (found : before.target.get targetId = some row) :
    ∃ row', after.target.get targetId = some row' ∧
      row'.itemId = row.itemId
  items : after.item = before.item

section Follows

variable {mayEnd : Nat → Prop} {before middle after : Database}

/-- Rows which move are there afterwards, and no others. -/
theorem follows_of_moves
    (runs : RunsFollow mayEnd before.run after.run)
    (targets : ItemsKept before.target after.target)
    (items : after.item = before.item) : Follows mayEnd before after where
  runs := runs.kept
  fresh := by
    intro runId run' missing found'
    rw [runs.absent missing] at found'
    cases found'
  targets := targets.kept
  items := items

theorem sameRuns (runs : Table RunRow) :
    RunsFollow mayEnd runs runs :=
  .refl (fun _ => .refl _) runs

theorem sameTargets (targets : Table TargetRow) : ItemsKept targets targets :=
  .of_eq (fun _ _ => rfl) rfl

/-- Nothing of this is written. -/
theorem follows_of_eq
    (runs : after.run = before.run) (targets : after.target = before.target)
    (items : after.item = before.item) : Follows mayEnd before after := by
  apply follows_of_moves
  · rw [runs]
    exact sameRuns _
  · rw [targets]
    exact sameTargets _
  · exact items

theorem Follows.trans
    (first : Follows mayEnd before middle)
    (second : Follows mayEnd middle after) :
    Follows mayEnd before after where
  runs := by
    intro runId run found
    rcases first.runs found with ⟨other, foundMiddle, follows⟩
    rcases second.runs foundMiddle with ⟨run', found', follows'⟩
    exact ⟨run', found', follows.trans follows'⟩
  fresh := by
    intro runId run' missing found' isRunning
    cases foundMiddle : middle.run.get runId with
    | none => exact second.fresh foundMiddle found' isRunning
    | some other =>
        rcases second.runs foundMiddle with ⟨again, foundAgain, follows⟩
        rw [found', Option.some.injEq] at foundAgain
        subst foundAgain
        exact first.fresh missing foundMiddle (follows.running isRunning)
  targets := by
    intro targetId row found
    rcases first.targets found with ⟨other, foundMiddle, same⟩
    rcases second.targets foundMiddle with ⟨row', found', same'⟩
    exact ⟨row', found', same'.trans same⟩
  items := second.items.trans first.items

theorem Follows.weaken
    {permissive : Nat → Prop} (follows : Follows mayEnd before after)
    (weaker : ∀ runId, mayEnd runId → permissive runId) :
    Follows permissive before after where
  runs := by
    intro runId run found
    rcases follows.runs found with ⟨run', found', isFollowed⟩
    exact ⟨run', found', isFollowed.weaken (weaker runId)⟩
  fresh := follows.fresh
  targets := follows.targets
  items := follows.items

end Follows

/-! ## Single updates -/

/-- The update of a Run which leaves its status. -/
theorem runs_write
    {mayEnd : Nat → Prop} (runs : Table RunRow) (runId : Nat)
    {change : RunRow → RunRow}
    (kind : ∀ run, (change run).kind = run.kind)
    (playlistId : ∀ run, (change run).playlistId = run.playlistId)
    (status : ∀ run, (change run).status = run.status) :
    RunsFollow mayEnd runs (runs.modify runId change) := by
  apply RowsMove.modify runs fun _ => RunFollows.refl _
  intro run _
  exact ⟨kind run, playlistId run, fun isRunning => status run ▸ isRunning,
    fun _ => status run⟩

/-- The update which ends a Run. -/
theorem runs_end
    {mayEnd : Nat → Prop} (runs : Table RunRow) {runId : Nat}
    {change : RunRow → RunRow}
    (kind : ∀ run, (change run).kind = run.kind)
    (playlistId : ∀ run, (change run).playlistId = run.playlistId)
    (ends : ∀ run, (change run).status ≠ .running) (may : mayEnd runId) :
    RunsFollow mayEnd runs (runs.modify runId change) := by
  apply RowsMove.modify runs fun _ => RunFollows.refl _
  intro run _
  exact ⟨kind run, playlistId run, fun isRunning => absurd isRunning (ends run),
    fun stays => absurd may stays⟩

theorem runs_finish
    {mayEnd : Nat → Prop} (runs : Table RunRow) {runId : Nat}
    {status : RunStatus} (stats : Json.Fields) (now : Time)
    (ends : status ≠ .running) (may : mayEnd runId) :
    RunsFollow mayEnd runs
      (RunRepository.finish runs runId status stats now).2 where
  kept {other run} found := by
    rw [RunRepository.get_finish, found, Option.map_some]
    refine ⟨_, rfl, ?_⟩
    split
    · next matched =>
        simp only [RunRepository.finishable, Bool.and_eq_true, beq_iff_eq]
          at matched
        exact ⟨rfl, rfl, fun isRunning => absurd isRunning ends,
          fun stays => absurd (matched.1 ▸ may) stays⟩
    · exact .refl _ _
  absent missing := by
    rw [RunRepository.get_finish, missing, Option.map_none]

theorem targets_modify
    (targets : Table TargetRow) (targetId : Nat)
    {change : TargetRow → TargetRow}
    (same : ∀ row, (change row).itemId = row.itemId) :
    ItemsKept targets (targets.modify targetId change) :=
  .modify targets (fun _ _ => rfl) fun row _ => same row

theorem itemId_touchTarget
    {now : Time} {change : TargetRow → TargetRow}
    (same : ∀ row, (change row).itemId = row.itemId) (row : TargetRow) :
    (touchTarget now change row).itemId = row.itemId := by
  unfold touchTarget
  split
  · rfl
  · exact same row

theorem targets_transition
    {targets after : Table TargetRow} {targetId : Nat}
    {status : TargetStatus} {error blockedReason : Option String}
    {incrementRetry : Bool} {now : Time}
    (transition : transitionTarget targets targetId status error
      blockedReason incrementRetry now = .ok after) :
    ItemsKept targets after := by
  rcases System.transitionTarget_ok transition with ⟨row, -, -, rfl⟩
  exact targets_modify _ _ fun _ => rfl

/-! ## Calls -/

section Calls

variable {environment : Environment} {db after : Database}

theorem targets_transitionRead
    {targets written : Table TargetRow} {targetId : Nat}
    {current status : TargetStatus} {error blockedReason : Option String}
    {now : Time}
    (transition : transitionRead targets targetId current status error
      blockedReason now = .ok written) :
    ItemsKept targets written := by
  unfold transitionRead at transition
  split at transition
  · dsimp only at transition
    split at transition
    · cases transition
      unfold TargetRepository.compareAndSetStatus
      exact .updateWhere _ (fun _ _ => rfl) fun _ _ _ _ => rfl
    · cases transition
  · cases transition

/-- What a call of a download phase keeps for itself. -/
theorem kept_proceed
    {run : DownloadRun} {answer : Option String} {workId : String}
    {now : Time} {next : Option DownloadRun × Database}
    (proceeds : run.proceed db answer workId now = .ok next) :
    ∀ goesOn, next.1 = some goesOn → goesOn.runId = run.runId ∧
      goesOn.playlistId = run.playlistId ∧
      goesOn.retryLimit = run.retryLimit := by
  intro goesOn isNext
  unfold DownloadRun.proceed at proceeds
  split at proceeds
  case h_1 =>
    rcases ok_of_map_eq_ok proceeds with ⟨selected, selects, rfl⟩
    cases isNext
    unfold DownloadRun.select at selects
    split at selects
    · cases selects
    split at selects
    · cases selects
    split at selects <;> cases selects
    exact ⟨rfl, rfl, rfl⟩
  case h_3 =>
    rcases ok_of_map_eq_ok proceeds with ⟨checked, checks, rfl⟩
    cases isNext
    unfold DownloadRun.check at checks
    dsimp only at checks
    split at checks
    · rcases ok_of_map_eq_ok checks with ⟨target, -, rfl⟩
      exact ⟨rfl, rfl, rfl⟩
    · rcases ok_of_map_eq_ok checks with ⟨target, -, rfl⟩
      exact ⟨rfl, rfl, rfl⟩
  case h_5 =>
    rcases ok_of_map_eq_ok proceeds with ⟨queued, enqueues, rfl⟩
    cases isNext
    unfold DownloadRun.enqueue at enqueues
    split at enqueues
    · cases enqueues
      exact ⟨rfl, rfl, rfl⟩
    · rcases ok_of_map_eq_ok enqueues with ⟨enqueued, -, rfl⟩
      exact ⟨rfl, rfl, rfl⟩
  case h_6 =>
    cases proceeds
    cases isNext
  all_goals
    cases proceeds
    cases isNext
    exact ⟨rfl, rfl, rfl⟩

/-- A download phase writes statuses, pipelines and the end of its Run. -/
theorem follows_download
    {run : DownloadRun} {answer : Option String} {workId : String}
    {now : Time} {next : Option DownloadRun × Database}
    (proceeds : run.proceed db answer workId now = .ok next) :
    Follows (fun runId => runId = run.runId ∧ next.1 = none) db next.2 := by
  unfold DownloadRun.proceed at proceeds
  split at proceeds
  case h_1 =>
    rcases ok_of_map_eq_ok proceeds with ⟨next, -, rfl⟩
    exact follows_of_eq rfl rfl rfl
  case h_2 =>
    cases proceeds
    exact follows_of_eq rfl rfl rfl
  case h_3 =>
    rcases ok_of_map_eq_ok proceeds with ⟨next, checks, rfl⟩
    unfold DownloadRun.check at checks
    dsimp only at checks
    split at checks
    · rcases ok_of_map_eq_ok checks with ⟨target, blocks, rfl⟩
      have transition := ok_of_raiseTransition blocks
      exact follows_of_moves (sameRuns _)
        (targets_transitionRead transition) rfl
    · rcases ok_of_map_eq_ok checks with ⟨target, reopens, rfl⟩
      have reopened := ok_of_raiseTransition reopens
      unfold reopenCandidate at reopened
      split at reopened
      · exact follows_of_moves (sameRuns _)
          (targets_transitionRead reopened) rfl
      · cases reopened
        exact follows_of_eq rfl rfl rfl
  case h_4 =>
    cases proceeds
    exact follows_of_eq rfl rfl rfl
  case h_5 =>
    rcases ok_of_map_eq_ok proceeds with ⟨next, enqueues, rfl⟩
    unfold DownloadRun.enqueue at enqueues
    split at enqueues
    · cases enqueues
      exact follows_of_eq rfl rfl rfl
    · rcases ok_of_map_eq_ok enqueues with ⟨enqueued, raises, rfl⟩
      have enqueued := ok_of_raiseTransition raises
      unfold enqueueTargetPipeline at enqueued
      split at enqueued <;> cases enqueued
      · exact follows_of_eq rfl rfl rfl
      · next queues =>
          exact follows_of_moves (sameRuns _) (targets_transition queues) rfl
  case h_6 =>
    cases proceeds
    refine follows_of_moves ?_ (sameTargets _) rfl
    apply runs_finish
    · unfold DownloadRun.finalStatus
      split
      · intro impossible
        cases impossible
      · intro impossible
        cases impossible
    · exact ⟨rfl, rfl⟩

/-- The operations of a retention change one Target, and no Run. -/
theorem follows_perform
    {fingerprint : StorageKind → Option Json.Fields → String}
    {mayEnd : Nat → Prop} {execution next : Retention.Execution}
    {candidate : Retention.RetentionCandidate}
    {rest : List Retention.RetentionCandidate} {name : String} {now : Time}
    (performs : execution.perform fingerprint candidate rest name now =
      .ok next) :
    next.runId = execution.runId ∧ next.db.task = execution.db.task ∧
      Follows mayEnd execution.db next.db := by
  have same : Follows mayEnd execution.db execution.db :=
    follows_of_eq rfl rfl rfl
  unfold Retention.Execution.perform at performs
  split at performs
  case h_1 => cases performs
  case h_2 =>
    split at performs <;> cases performs
    exact ⟨rfl, rfl, same⟩
  case h_3 =>
    cases performs
    exact ⟨rfl, rfl, same⟩
  case h_4 =>
    split at performs <;> cases performs
    exact ⟨rfl, rfl, same⟩
  case h_5 =>
    cases performs
    exact ⟨rfl, rfl, same⟩
  case h_6 =>
    split at performs <;> cases performs
    refine ⟨rfl, rfl, follows_of_moves (sameRuns _) ?_ rfl⟩
    exact targets_modify _ _ (itemId_touchTarget fun _ => rfl)

/-- The end of a retention ends its own Run. -/
theorem follows_conclude
    (execution : Retention.Execution) (outcome : Retention.Outcome)
    (now : Time) :
    Follows (fun runId => runId = execution.runId) execution.db
      (execution.conclude outcome now).db := by
  refine follows_of_moves ?_ (sameTargets _) rfl
  show RunsFollow _ _ (execution.db.run.modify execution.runId fun run =>
    Retention.concludedRun execution.deletedCount execution.deletedBytes now
      run outcome)
  apply runs_end
  · intro run
    cases outcome <;> rfl
  · intro run
    cases outcome <;> rfl
  · intro run isRunning
    cases outcome <;> cases isRunning
  · rfl

theorem follows_retention
    {fingerprint : StorageKind → Option Json.Fields → String}
    {execution next : Retention.Execution} {event : Retention.Event}
    (taken : Retention.step fingerprint execution event = some next) :
    next.runId = execution.runId ∧ next.db.task = execution.db.task ∧
      Follows
        (fun runId => runId = execution.runId ∧ next.outcome.isSome = true)
        execution.db next.db := by
  have concludes : ∀ outcome now,
      Follows (fun runId => runId = execution.runId ∧
        (execution.conclude outcome now).outcome.isSome = true) execution.db
        (execution.conclude outcome now).db := fun outcome now =>
    (follows_conclude execution outcome now).weaken
      fun _ same => ⟨same, rfl⟩
  cases event with
  | proceed name now =>
      simp only [Retention.step] at taken
      split at taken
      · cases taken
      split at taken
      · cases taken
        exact ⟨rfl, rfl, concludes _ _⟩
      · split at taken
        · next performs =>
            cases taken
            exact follows_perform performs
        · cases taken
          exact ⟨rfl, rfl, concludes _ _⟩
  | raise tookEffect name now =>
      simp only [Retention.step] at taken
      split at taken
      · cases taken
      split at taken
      · cases taken
        exact ⟨rfl, rfl, follows_of_eq rfl rfl rfl⟩
      · split at taken
        · next performed performs =>
            split at taken
            · cases taken
              rcases follows_perform performs with ⟨sameRun, tasks, follows⟩
              refine ⟨sameRun, tasks, follows.trans ?_⟩
              apply (follows_conclude performed _ _).weaken
              exact fun runId same => ⟨same.trans sameRun, rfl⟩
            · cases taken
              exact ⟨rfl, rfl, concludes _ _⟩
        · cases taken
          exact ⟨rfl, rfl, concludes _ _⟩

/-- A commit of a folder move leaves the status of its Run until the last. -/
theorem follows_commit
    {fingerprint : StorageKind → Option Json.Fields → String}
    {execution next : FolderMove.Execution} {logPath : String} {now : Time}
    (performs : execution.perform fingerprint logPath now = some next) :
    next.runId = execution.runId ∧ next.plan = execution.plan ∧
      next.db.task = execution.db.task ∧ Follows
        (fun runId => runId = execution.runId ∧ next.outcome.isSome = true)
        execution.db next.db := by
  have stays : ∀ {next : FolderMove.Execution},
      next.db.item = execution.db.item →
      next.db.target = execution.db.target →
      RunsFollow (fun runId => runId = execution.runId ∧
        next.outcome.isSome = true) execution.db.run next.db.run →
      Follows (fun runId => runId = execution.runId ∧
        next.outcome.isSome = true) execution.db next.db :=
    fun items targets runs =>
      follows_of_moves runs (targets ▸ sameTargets _) items
  have counts : ∀ {mayEnd : Nat → Prop} intent movedCount,
      RunsFollow mayEnd execution.db.run
        (execution.setStats intent movedCount) := fun _ _ =>
    runs_write _ _ (fun _ => rfl) (fun _ => rfl) fun _ => rfl
  have journals : ∀ {mayEnd : Nat → Prop}, RunsFollow mayEnd execution.db.run
      (execution.db.run.modify execution.runId fun run =>
        { run with logPath := some logPath }) :=
    runs_write _ _ (fun _ => rfl) (fun _ => rfl) fun _ => rfl
  have succeeds : ∀ {mayEnd : Nat → Prop}, mayEnd execution.runId →
      RunsFollow mayEnd execution.db.run
        (FolderMove.commitName execution now).run := fun may =>
    @runs_end _ execution.db.run _ (fun run =>
      { run with
        status := .succeeded
        finishedAt := some now
        statsJson := some (FolderMove.runStats execution.plan
          execution.movedCount none none) })
      (fun _ => rfl) (fun _ => rfl)
      (fun _ impossible => by cases impossible) may
  unfold FolderMove.Execution.perform at performs
  split at performs
  case h_1 =>
    cases performs
    exact ⟨rfl, rfl, rfl, stays rfl rfl journals⟩
  case h_2 =>
    split at performs <;> cases performs
    exact ⟨rfl, rfl, rfl, stays rfl rfl (succeeds ⟨rfl, rfl⟩)⟩
  case h_3 =>
    split at performs <;> cases performs
    exact ⟨rfl, rfl, rfl, stays rfl rfl (counts _ _)⟩
  case h_4 =>
    rcases Option.map_eq_some_iff.mp performs with ⟨files, -, rfl⟩
    exact ⟨rfl, rfl, rfl, follows_of_eq rfl rfl rfl⟩
  case h_5 =>
    split at performs <;> cases performs
    exact ⟨rfl, rfl, rfl, stays rfl rfl (counts _ _)⟩
  case h_6 => cases performs

/-- The failure of a folder move ends its own Run. -/
theorem follows_fail (execution : FolderMove.Execution) (now : Time) :
    Follows (fun runId => runId = execution.runId) execution.db
      (execution.fail now).db := by
  have fails : ∀ stats, RunsFollow (fun runId => runId = execution.runId)
      execution.db.run
      (execution.db.run.modify execution.runId fun run =>
        { run with
          status := .failed
          finishedAt := some now
          statsJson := stats }) := fun stats =>
    runs_end _ (fun _ => rfl) (fun _ => rfl)
      (fun _ impossible => by cases impossible) rfl
  exact follows_of_moves (fails _) (sameTargets _) rfl

theorem follows_folderMove
    {fingerprint : StorageKind → Option Json.Fields → String}
    {execution next : FolderMove.Execution} {event : FolderMove.Event}
    (taken : FolderMove.step fingerprint execution event = some next) :
    next.runId = execution.runId ∧ next.plan = execution.plan ∧
      next.db.task = execution.db.task ∧ Follows
        (fun runId => runId = execution.runId ∧ next.outcome.isSome = true)
        execution.db next.db := by
  cases event with
  | proceed logPath now =>
      simp only [FolderMove.step] at taken
      split at taken
      · cases taken
      split at taken
      · next performs =>
          cases taken
          exact follows_commit performs
      · cases taken
        exact ⟨rfl, rfl, rfl, (follows_fail execution now).weaken
          fun _ same => ⟨same, rfl⟩⟩
  | raise tookEffect logPath now =>
      simp only [FolderMove.step] at taken
      split at taken
      · cases taken
      split at taken
      · next performed performs =>
          cases taken
          rcases follows_commit performs with ⟨-, -, tasks, follows⟩
          split
          · refine ⟨rfl, rfl, tasks, (follows.weaken ?_).trans
              ((follows_fail (execution.afterEffect performed) now).weaken
                fun _ same => ⟨same, rfl⟩)⟩
            exact fun _ ends => ⟨ends.1, rfl⟩
          · exact ⟨rfl, rfl, rfl, (follows_fail execution now).weaken
              fun _ same => ⟨same, rfl⟩⟩
      · cases taken
        exact ⟨rfl, rfl, rfl, (follows_fail execution now).weaken
          fun _ same => ⟨same, rfl⟩⟩
  | outside files =>
      cases taken
      exact ⟨rfl, rfl, rfl, follows_of_eq rfl rfl rfl⟩

/-- A step of a call ends no other Run, and its own when it returns. -/
theorem follows_operates
    {operation : Operation} {next : Option Operation}
    (operates : Operates environment db operation after next) :
    (∀ goesOn, next = some goesOn → goesOn.runId = operation.runId ∧
      goesOn.kind = operation.kind ∧
      goesOn.playlistId = operation.playlistId) ∧
    ((∀ run, operation ≠ .download run) → after.task = db.task) ∧
    Follows (fun runId => runId = operation.runId ∧ next = none) db
      after := by
  cases operates with
  | @download run answer workId now after proceeds =>
      refine ⟨?_, fun notDownload => absurd rfl (notDownload _), ?_⟩
      · intro goesOn isNext
        rcases Option.map_eq_some_iff.mp isNext with ⟨other, isOther, rfl⟩
        have same := kept_proceed proceeds other isOther
        exact ⟨same.1, rfl, same.2.1⟩
      · apply (follows_download proceeds).weaken
        rintro runId ⟨rfl, isNone⟩
        exact ⟨rfl, by rw [isNone]; rfl⟩
  | raised =>
      refine ⟨?_, fun _ => rfl, ?_⟩
      · intro goesOn isNext
        cases isNext
      · refine follows_of_moves ?_ (sameTargets _) rfl
        apply runs_finish
        · intro impossible
          cases impossible
        · exact ⟨rfl, rfl⟩
  | @retention playlistId execution next files event taken =>
      rcases follows_retention taken with ⟨sameRun, tasks, follows⟩
      refine ⟨?_, fun _ => tasks, ?_⟩
      · intro goesOn isNext
        split at isNext <;> cases isNext
        exact ⟨sameRun, rfl, rfl⟩
      · apply follows.weaken
        rintro runId ⟨rfl, isOver⟩
        exact ⟨rfl, if_pos isOver⟩
  | @folderMove execution next files event taken =>
      rcases follows_folderMove taken with
        ⟨sameRun, samePlan, tasks, follows⟩
      refine ⟨?_, fun _ => tasks, ?_⟩
      · intro goesOn isNext
        split at isNext <;> cases isNext
        exact ⟨sameRun, rfl,
          congrArg FolderMove.FolderMovePlan.playlistId samePlan⟩
      · apply follows.weaken
        rintro runId ⟨rfl, isOver⟩
        exact ⟨rfl, if_pos isOver⟩
  | stopped =>
      refine ⟨?_, fun _ => rfl, follows_of_eq rfl rfl rfl⟩
      intro goesOn isNext
      cases isNext

end Calls

/-! ## Events of the system -/

theorem itemId_of_rowChange
    {state : System.State} {event : System.Event} {targetId : Nat}
    {row row' : TargetRow}
    (change : System.RowChange state event targetId row row') :
    row'.itemId = row.itemId := by
  cases change with
  | kept kept => exact kept.itemId
  | started _ advances =>
      rcases advances with ⟨status, becomes, -⟩
      exact becomes.itemId
  | reported _ _ _ reports =>
      rcases reports with kept | ⟨-, failed | unavailable | blocked⟩
      · exact kept.itemId
      · exact failed.itemId
      · exact unavailable.itemId
      · exact blocked.itemId
  | settled _ _ _ _ synced => exact synced.itemId
  | recovered _ _ becomes => exact becomes.itemId
  | cancelled _ _ becomes => exact becomes.itemId

theorem follows_system
    {environment : System.Environment} {state state' : System.State}
    {action : System.Action} (wellFormed : System.WellFormed state)
    (notPart : isPart action.event = false)
    (taken : System.step environment state action = some state') :
    Follows (System.touchesRun state action.event) state.db state'.db := by
  have notStart : action.event.startsDiscover = false := by
    cases isEvent : action.event with
    | startDiscover =>
        rw [isEvent] at notPart
        cases notPart
    | _ => rfl
  have kept := System.runsKept_of_step notStart taken
  have ends := System.runsEnd_of_not_start notStart taken
  constructor
  · intro runId run found
    rcases kept runId run found with ⟨run', found', kind, playlistId, same⟩
    rcases ends.kept found with ⟨again, foundAgain, -, running⟩
    rw [found', Option.some.injEq] at foundAgain
    subst foundAgain
    exact ⟨run', found', kind, playlistId, running,
      fun untouched => congrArg RunRow.status (same untouched)⟩
  · intro runId run' missing found'
    rw [ends.absent missing] at found'
    cases found'
  · intro targetId row found
    cases isSet : action.event.setsTarget with
    | false =>
        rcases (System.rowsMove_of_step wellFormed isSet taken).kept found
          with ⟨row', found', change⟩
        exact ⟨row', found', itemId_of_rowChange change⟩
    | true =>
        obtain ⟨event, now⟩ := action
        cases event with
        | createTarget itemId playlistProfileId =>
            cases taken
            exact ⟨row, Table.get_insert_of_some _ found, rfl⟩
        | blockTarget | reopenTarget | enqueueTarget => cases notPart
        | _ => cases isSet
  · exact (System.frame_of_step taken).item

/-! ## Actions of users -/

theorem follows_recoverEach
    (db : Database) (now : Time) (entries : List (Nat × RunRow))
    (runs : Table RunRow) :
    RunsFollow (fun runId => ∃ run, (runId, run) ∈ entries) runs
      (Scheduler.recoverEach db now entries runs) := by
  have composes : ∀ (mayEnd : Nat → Prop) key row row' row'',
      RunFollows (mayEnd key) row row' → RunFollows (mayEnd key) row' row'' →
        RunFollows (mayEnd key) row row'' :=
    fun _ _ _ _ _ first second => first.trans second
  induction entries generalizing runs with
  | nil => exact sameRuns _
  | cons entry rest induction =>
      refine RowsMove.trans (composes _) (runs_finish _ _ _ ?_ ?_)
        ((induction _).weaken fun runId run run' _ follows =>
          follows.weaken fun ⟨other, member⟩ =>
            ⟨other, List.mem_cons_of_mem _ member⟩)
      · unfold Scheduler.orphanStatus
        split
        · intro impossible
          cases impossible
        · split
          · intro impossible
            cases impossible
          · intro impossible
            cases impossible
      · exact ⟨entry.2, List.mem_cons_self⟩

theorem follows_settleTarget
    {mayEnd : Nat → Prop} (now : Time) (progress : Integrity.Progress)
    (targetId : Nat) :
    Follows mayEnd progress.db
      (Integrity.settleTarget now progress targetId).db := by
  have sets : ∀ status, Follows mayEnd progress.db
      (Integrity.setStatus progress.db targetId status now) := fun status =>
    follows_of_moves (sameRuns _)
      (targets_modify _ _ (itemId_touchTarget fun _ => rfl)) rfl
  unfold Integrity.settleTarget
  split
  · exact follows_of_eq rfl rfl rfl
  · split
    · split
      · exact follows_of_eq rfl rfl rfl
      · exact sets _
    · split
      · exact sets _
      · exact follows_of_eq rfl rfl rfl

/-- A loop of the integrity check keeps what its rounds keep. -/
theorem follows_foldl
    {Entry : Type} {mayEnd : Nat → Prop}
    {round : Integrity.Progress → Entry → Integrity.Progress}
    (each : ∀ progress entry,
      Follows mayEnd progress.db (round progress entry).db)
    (entries : List Entry) (progress : Integrity.Progress) :
    Follows mayEnd progress.db (entries.foldl round progress).db := by
  induction entries generalizing progress with
  | nil => exact follows_of_eq rfl rfl rfl
  | cons entry rest induction =>
      exact (each progress entry).trans (induction (round progress entry))

theorem follows_applyDecisions
    {mayEnd : Nat → Prop} (db : Database)
    (report : Integrity.IntegrityReport)
    (decisions : List (Integrity.ArtifactSnapshot × Integrity.Decision))
    (checkedAt now : Time) :
    Follows mayEnd db
      (Integrity.applyDecisions db report decisions checkedAt now).db := by
  unfold Integrity.applyDecisions
  dsimp only
  have each : ∀ progress entry, Follows mayEnd progress.db
      (Integrity.applyDecision checkedAt now progress entry).db := by
    intro progress entry
    rw [Integrity.applyDecision_eq]
    split <;> exact follows_of_eq rfl rfl rfl
  have applied : Follows mayEnd db (decisions.foldl
      (Integrity.applyDecision checkedAt now) { db, report }).db :=
    follows_foldl each decisions { db, report }
  exact applied.trans (follows_foldl (follows_settleTarget now) _ _)

/-- The Runs which a recovery at this moment ends. -/
def isRecovered (environment : Environment) (db : Database)
    (action : Action) (runId : Nat) : Bool :=
  match action.event with
  | .recoverOrphanRuns =>
      (db.run.get runId).any (Scheduler.isOrphan db
        environment.system.config.staleThreshold action.now runId)
  | _ => false

theorem follows_user
    {environment : Environment} {db after : Database} {action : Action}
    (acts : stepUser environment db action.now action.event = some after) :
    Follows (fun runId => isRecovered environment db action runId = true) db
      after := by
  obtain ⟨event, now⟩ := action
  cases event with
  | recoverOrphanRuns =>
      cases acts
      refine follows_of_moves ?_ (sameTargets _) rfl
      apply (follows_recoverEach _ _ _ _).weaken
      intro runId run run' found follows
      apply follows.weaken
      rintro ⟨other, member⟩
      rw [Table.mem_select_iff] at member
      show (db.run.get runId).any _ = true
      rw [member.1, Option.any_some]
      exact member.2
  | recordSkipped playlistId kind reason =>
      cases acts
      unfold Scheduler.recordSkipped
      split
      · constructor
        · intro runId run found
          refine ⟨run, ?_, .refl _ _⟩
          have other : runId ≠ db.run.nextKey := by
            rintro rfl
            rw [Table.get_nextKey] at found
            cases found
          rw [RunRepository.get_finish, RunRepository.start]
          dsimp only
          rw [Table.get_insert_of_some _ found, Option.map_some, if_neg]
          intro matched
          simp only [RunRepository.finishable, Bool.and_eq_true, beq_iff_eq]
            at matched
          exact other matched.1
        · intro runId run' missing found'
          rw [RunRepository.get_finish, RunRepository.start,
            Table.get_insert] at found'
          dsimp only at found'
          split at found'
          · next isNext =>
              rw [Option.map_some, Option.some.injEq, isNext, if_pos]
                at found'
              · rw [← found']
                intro impossible
                cases impossible
              · simp [RunRepository.finishable]
          · rw [missing] at found'
            cases found'
        · exact fun found => ⟨_, found, rfl⟩
        · rfl
      · exact follows_of_eq rfl rfl rfl
  | retryTask taskId =>
      cases acts
      exact follows_of_eq rfl rfl rfl
  | targetAction playlistId targetId action =>
      simp only [stepUser, Web.playlistTargetAction, Option.bind_eq_bind,
        Option.bind_eq_some_iff] at acts
      rcases acts with ⟨target, -, item, -, acts⟩
      have moves : ∀ {result : Except TransitionError (Table TargetRow)},
          (∀ targets, result = .ok targets → ItemsKept db.target targets) →
          (result.toOption.map fun target => { db with target }) =
            some after →
          Follows (fun runId => isRecovered environment db
            ⟨.targetAction playlistId targetId action, now⟩ runId = true) db
            after := by
        intro result kept transition
        rcases Option.map_eq_some_iff.mp transition with ⟨targets, isOk, rfl⟩
        exact follows_of_moves (sameRuns _)
          (kept targets (ok_of_toOption isOk)) rfl
      split at acts
      · cases acts
      · split at acts
        · exact moves (fun _ => targets_transition) acts
        · exact moves (fun _ => targets_transition) acts
        · exact moves (fun _ => targets_transition) acts
        · cases acts
          exact follows_of_moves (sameRuns _)
            (targets_modify _ _ (itemId_touchTarget fun _ => rfl)) rfl
        · cases acts
  | setMissingAction targetId action =>
      rcases Option.map_eq_some_iff.mp acts with ⟨answer, isAnswer, rfl⟩
      unfold Integrity.setMissingAction at isAnswer
      split at isAnswer
      · cases isAnswer
      · split at isAnswer <;> cases isAnswer
        exact follows_of_moves (sameRuns _)
          (targets_modify _ _ (itemId_touchTarget fun _ => rfl)) rfl
  | manualLink artifactId normalized existsInStorage =>
      simp only [stepUser, Integrity.manualLink] at acts
      repeat' split at acts
      all_goals cases acts
      · exact follows_of_eq rfl rfl rfl
      · exact follows_of_moves (sameRuns _)
          (targets_modify _ _ (itemId_touchTarget fun _ => rfl)) rfl
  | undoManualLink artifactId =>
      simp only [stepUser, Integrity.undoManualLink] at acts
      repeat' split at acts
      all_goals cases acts
      exact follows_of_moves (sameRuns _)
        (targets_modify _ _ (itemId_touchTarget fun _ => rfl)) rfl
  | checkIntegrity decisions checkedAt =>
      cases acts
      exact follows_applyDecisions _ _ _ _ _
  | _ => cases acts

end Sluicery.Operations
