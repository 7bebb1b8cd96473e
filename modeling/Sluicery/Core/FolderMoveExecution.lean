import Sluicery.Core.FolderMove
import Sluicery.Core.Integrity
import Sluicery.Library.Transition

/-!
# Executing a folder move

`execute_folder_move` as a state machine: the log, every intent, every file,
every commit and the final change of the folder name is one step, which may
also raise, before or after it took effect.  A process which stops leaves the
state as it is between two steps.

The journal is written beside these steps and read by nothing; a journal
write which raises is a step which raises after its effect.
-/

namespace Sluicery.Core.FolderMove

open Sluicery.Library Sluicery.Library.Transition
open Sluicery.Db Sluicery.Storage

/-! ## State -/

/-- The next operation. -/
inductive Phase where
  | journal
  | intent
  | moving
  | committing
deriving DecidableEq, Repr

/-- How an execution ended. -/
inductive Outcome where
  | succeeded
  | failed
deriving DecidableEq, Repr

/-- A running or ended execution. -/
structure Execution where
  db : Database
  files : Files StoredFile
  plan : FolderMovePlan
  runId : Nat
  movedCount : Nat := 0
  currentIntent : Option FolderMoveCandidate := none
  remaining : List FolderMoveCandidate
  phase : Phase := .journal
  outcome : Option Outcome := none

/-- `_run_stats`. -/
def runStats (plan : FolderMovePlan) (movedCount : Nat)
    (currentIntent : Option FolderMoveCandidate)
    (reasonCode : Option String) : Json.Fields :=
  [("moved_count", .int movedCount),
    ("total_count", .int plan.candidates.length),
    ("unaffected_count", .int plan.unaffectedCount),
    ("old_folder_name", .str plan.oldFolderName),
    ("new_folder_name", .str plan.newFolderName)] ++
  (currentIntent.elim [] fun candidate =>
    [("current_intent", .obj (candidateJson candidate))]) ++
  (reasonCode.elim [] fun reason => [("reason_code", .str reason)])

/-! ## Start -/

/-- The Run is one the plan takes over. -/
def isRecoverable (plan : FolderMovePlan) (run : RunRow) : Bool :=
  run.kind == "folder_move" && run.playlistId == some plan.playlistId &&
    run.status == .running &&
    namesMatch plan.oldFolderName plan.newFolderName run

/-- A Run which is taken over fails. -/
def interruptedRun (now : Time) (run : RunRow) : RunRow :=
  { run with
    status := .failed
    finishedAt := some now
    statsJson := some (Json.update (run.statsJson.getD [])
      [("reason_code", .str "process_interrupted")]) }

/-- The loop over `recovery_run_ids`; `none` when a Run has changed. -/
def recoverRuns (plan : FolderMovePlan) (now : Time) :
    List Nat → Table RunRow → Option (Table RunRow)
  | [], runs => some runs
  | runId :: rest, runs =>
      if (runs.get runId).any (isRecoverable plan) then
        recoverRuns plan now rest (runs.modify runId (interruptedRun now))
      else none

/-- The Playlist is as in the plan. -/
def playlistMatches (db : Database) (plan : FolderMovePlan) : Bool :=
  (db.playlist.get plan.playlistId).any fun playlist =>
    playlist.folderName == plan.oldFolderName &&
      playlist.updatedAt == plan.playlistUpdatedAt

section Execution

variable (fingerprint : StorageKind → Option Json.Fields → String)

/-- The checks of `execute_folder_move`, and its Run. -/
def start (db : Database) (files : Files StoredFile) (plan : FolderMovePlan)
    (now : Time) : Except String Execution :=
  if ¬ plan.movable then .error "安全に実行できないフォルダ移動計画です"
  else if plan.candidates.any fun candidate =>
      candidate.fileIdentity.isNone then
    .error "実ファイル確認を含むプレビューを再実行してください"
  else
    match recoverRuns plan now plan.recoveryRunIds db.run with
    | none =>
        .error "回収対象のフォルダ移動Runが変化しました。再確認してください"
    | some runs =>
        let recovered := { db with run := runs }
        if playlistSyncIsActive recovered plan.playlistId then
          .error "Playlistの同期またはフォルダ移動が実行中です"
        else if ¬ playlistMatches recovered plan ∨
            ¬ plan.candidates.all fun candidate =>
              candidateRowsMatch fingerprint recovered
                candidate.toRelocation then
          .error
            "確認後にPlaylistまたは移動対象が変化しました。再確認してください"
        else
          .ok
            { db := { recovered with
                run := runs.insert
                  { trigger := .manual, kind := "folder_move",
                    playlistId := some plan.playlistId, startedAt := now,
                    statsJson := some (runStats plan 0 none none) } }
              files
              plan
              runId := runs.nextKey
              remaining := plan.candidates }

/-! ## Steps -/

/-- The Run of the execution takes the given statistics. -/
def Execution.setStats (execution : Execution)
    (currentIntent : Option FolderMoveCandidate) (movedCount : Nat) :
    Table RunRow :=
  execution.db.run.modify execution.runId fun run =>
    { run with
      statsJson :=
        some (runStats execution.plan movedCount currentIntent none) }

/-- The file of a candidate is moved, or was moved before. -/
def moveFile (files : Files StoredFile) (candidate : FolderMoveCandidate) :
    Option (Files StoredFile) :=
  candidate.fileIdentity.bind fun expected =>
    let moved : Option (Files StoredFile) :=
      if candidate.alreadyMoved then
        if (files candidate.source).isNone then some files else none
      else if (inspectFile files candidate.source).any
          (identityMatches · expected) then
        move files candidate.source candidate.destination
      else none
    moved.filter fun files =>
      (inspectFile files candidate.destination).any
        (identityMatches · expected)

/-- The Artifact of a candidate takes its new path. -/
def movedArtifact (candidate : Relocation) (row : ArtifactRow) :
    ArtifactRow :=
  { row with
    relativePath := candidate.destinationPath
    absolutePathCache := none }

/-- The new path violates the unique key of the Artifacts. -/
def violatesKey (db : Database) (candidate : Relocation) : Bool :=
  (db.artifact.get candidate.artifactId).any fun row =>
    Integrity.violatesUnique db candidate.artifactId
      (movedArtifact candidate row)

/-- The Artifact and the Run after a move, in one commit. -/
def commitMove (execution : Execution) (candidate : FolderMoveCandidate)
    (now : Time) : Database :=
  { execution.db with
    artifact := execution.db.artifact.modify candidate.artifactId
      (touchArtifact now (movedArtifact candidate.toRelocation))
    run := execution.setStats none (execution.movedCount + 1) }

/-- The Playlist takes the new name and the Run succeeds, in one commit. -/
def commitName (execution : Execution) (now : Time) : Database :=
  { execution.db with
    playlist := execution.db.playlist.modify execution.plan.playlistId
      fun playlist =>
        { playlist with
          folderName := execution.plan.newFolderName
          updatedAt := now }
    run := execution.db.run.modify execution.runId fun run =>
      { run with
        status := .succeeded
        finishedAt := some now
        statsJson := some
          (runStats execution.plan execution.movedCount none none) } }

/-- The next operation; `none` when it raises before its effect. -/
def Execution.perform (execution : Execution) (logPath : String)
    (now : Time) : Option Execution :=
  match execution.phase, execution.remaining with
  | .journal, _ =>
      some { execution with
        db := { execution.db with
          run := execution.db.run.modify execution.runId fun run =>
            { run with logPath := some logPath } }
        phase := .intent }
  | .intent, [] =>
      if playlistMatches execution.db execution.plan then
        some { execution with
          db := commitName execution now
          outcome := some .succeeded }
      else none
  | .intent, candidate :: _ =>
      if playlistMatches execution.db execution.plan &&
          candidateRowsMatch fingerprint execution.db
            candidate.toRelocation then
        some { execution with
          db := { execution.db with
            run := execution.setStats (some candidate) execution.movedCount }
          currentIntent := some candidate
          phase := .moving }
      else none
  | .moving, candidate :: _ =>
      (moveFile execution.files candidate).map fun files =>
        { execution with files, phase := .committing }
  | .committing, candidate :: rest =>
      if candidateRowsMatch fingerprint execution.db
          candidate.toRelocation &&
          !violatesKey execution.db candidate.toRelocation then
        some { execution with
          db := commitMove execution candidate now
          movedCount := execution.movedCount + 1
          currentIntent := none
          remaining := rest
          phase := .intent }
      else none
  | _, [] => none

/-- The handler of an exception: the Run fails. -/
def Execution.fail (execution : Execution) (now : Time) : Execution :=
  { execution with
    outcome := some .failed
    db := { execution.db with
      run := execution.db.run.modify execution.runId fun run =>
        { run with
          status := .failed
          finishedAt := some now
          statsJson := some (runStats execution.plan execution.movedCount
            execution.currentIntent
            (some (if execution.phase = .journal then
              "journal_initialization_failed"
            else "folder_move_failed"))) } } }

/-- What an operation has done when it raises after its effect. -/
def Execution.afterEffect (execution next : Execution) : Execution :=
  { execution with
    db := next.db
    files := next.files
    currentIntent :=
      if execution.phase = .intent then next.currentIntent
      else execution.currentIntent }

/-- What can happen to an execution. -/
inductive Event where
  | proceed (logPath : String) (now : Time)
  /-- The next operation raises, when `tookEffect` after its effect. -/
  | raise (tookEffect : Bool) (logPath : String) (now : Time)
  /-- Someone else changes the files. -/
  | outside (files : Files StoredFile)

/-- One step of `execute_folder_move` after its start. -/
def step (execution : Execution) : Event → Option Execution
  | .proceed logPath now =>
      if execution.outcome.isSome then none
      else
        match execution.perform fingerprint logPath now with
        | some next => some next
        | none => some (execution.fail now)
  | .raise tookEffect logPath now =>
      if execution.outcome.isSome then none
      else
        match execution.perform fingerprint logPath now with
        | some next =>
            some ((if tookEffect then execution.afterEffect next
              else execution).fail now)
        | none => some (execution.fail now)
  | .outside files => some { execution with files }

/-! ## What a run does to the Artifacts -/

/-- The Artifact lies where the candidate was to go. -/
def IsMoved (artifacts : Table ArtifactRow) (candidate : Relocation) : Prop :=
  ∃ row, artifacts.get candidate.artifactId = some row ∧
    row.storageId = candidate.storageId ∧
    row.relativePath = candidate.destinationPath

/-- The finished candidates are moved and every other Artifact is as before. -/
structure Relocated (before after : Table ArtifactRow)
    (done : List FolderMoveCandidate) : Prop where
  moved : ∀ candidate ∈ done, ∃ other ∈ done,
    other.artifactId = candidate.artifactId ∧
      IsMoved after other.toRelocation
  kept : ∀ key, (∀ candidate ∈ done, candidate.artifactId ≠ key) →
    after.get key = before.get key

theorem Relocated.initial (artifacts : Table ArtifactRow) :
    Relocated artifacts artifacts [] where
  moved := by simp
  kept := fun _ _ => rfl

theorem storageId_of_candidateRowsMatch
    {db : Database} {candidate : Relocation}
    (matched : candidateRowsMatch fingerprint db candidate = true) :
    ∃ row, db.artifact.get candidate.artifactId = some row ∧
      row.storageId = candidate.storageId := by
  rw [candidateRowsMatch] at matched
  split at matched
  · next artifact _ _ _ _ found _ _ _ _ =>
      simp only [Bool.and_eq_true, beq_iff_eq] at matched
      exact ⟨artifact, found, by tauto⟩
  · cases matched

/-- One more candidate is moved. -/
theorem Relocated.commit
    {before after : Table ArtifactRow} {done : List FolderMoveCandidate}
    (relocated : Relocated before after done)
    {candidate : FolderMoveCandidate} {row : ArtifactRow}
    (found : after.get candidate.artifactId = some row)
    (sameStorage : row.storageId = candidate.storageId) (now : Time) :
    Relocated before
      (after.modify candidate.artifactId
        (touchArtifact now (movedArtifact candidate.toRelocation)))
      (done ++ [candidate]) := by
  have isMoved : IsMoved
      (after.modify candidate.artifactId
        (touchArtifact now (movedArtifact candidate.toRelocation)))
      candidate.toRelocation := by
    refine ⟨_, by rw [Table.get_modify_self, found, Option.map_some], ?_, ?_⟩
    · rw [column_touchArtifact ArtifactRow.storageId fun _ _ => rfl]
      exact sameStorage
    · rw [column_touchArtifact ArtifactRow.relativePath fun _ _ => rfl]
      rfl
  constructor
  · intro earlier member
    by_cases same : earlier.artifactId = candidate.artifactId
    · exact ⟨candidate, by simp, same.symm, isMoved⟩
    · rcases List.mem_append.mp member with inDone | isLast
      · rcases relocated.moved earlier inDone with
          ⟨other, otherDone, sameId, otherRow, foundOther, lies⟩
        refine ⟨other, List.mem_append_left _ otherDone, sameId, otherRow,
          ?_, lies⟩
        rw [Table.get_modify_of_ne _ _ (sameId.trans_ne same), foundOther]
      · rw [List.mem_singleton.mp isLast] at same
        exact absurd rfl same
  · intro key outside
    rw [Table.get_modify_of_ne]
    · apply relocated.kept
      exact fun other inDone =>
        outside other (List.mem_append_left _ inDone)
    · exact (outside candidate (by simp)).symm

/-- Unless it failed, an execution has moved the candidates it is past. -/
def Progressed (before : Table ArtifactRow) (plan : FolderMovePlan)
    (execution : Execution) : Prop :=
  execution.plan = plan ∧ (execution.outcome ≠ some .failed →
    ∃ done, plan.candidates = done ++ execution.remaining ∧
      Relocated before execution.db.artifact done) ∧
  (execution.outcome = some .succeeded → execution.remaining = [])

theorem progressed_start
    {db : Database} {files : Files StoredFile} {plan : FolderMovePlan}
    {now : Time} {execution : Execution}
    (started : start fingerprint db files plan now = .ok execution) :
    Progressed db.artifact plan execution := by
  rw [start] at started
  split at started
  · cases started
  · split at started
    · cases started
    · split at started
      · cases started
      · dsimp only at started
        split at started
        · cases started
        · split at started
          · cases started
          · rw [Except.ok.injEq] at started
            subst started
            exact ⟨rfl, fun _ => ⟨[], rfl, Relocated.initial _⟩,
              fun ended => by cases ended⟩

/-- One operation keeps the account of the finished candidates. -/
theorem Progressed.perform
    {before : Table ArtifactRow} {plan : FolderMovePlan}
    {execution next : Execution} {logPath : String} {now : Time}
    (progressed : Progressed before plan execution)
    (running : execution.outcome.isSome = false)
    (performed : execution.perform fingerprint logPath now = some next) :
    Progressed before plan next := by
  rcases progressed with ⟨samePlan, account, -⟩
  rw [Bool.eq_false_iff, ne_eq, Option.isSome_iff_ne_none, not_not] at running
  rcases account (by simp [running]) with ⟨done, split, relocated⟩
  rw [Execution.perform.eq_def] at performed
  split at performed
  · rw [Option.some.injEq] at performed
    subst performed
    exact ⟨samePlan, fun _ => ⟨done, split, relocated⟩,
      by simp [running]⟩
  · next noneLeft =>
      split at performed
      · rw [Option.some.injEq] at performed
        subst performed
        exact ⟨samePlan, fun _ => ⟨done, split, relocated⟩,
          fun _ => noneLeft⟩
      · cases performed
  · split at performed
    · rw [Option.some.injEq] at performed
      subst performed
      exact ⟨samePlan, fun _ => ⟨done, split, relocated⟩,
        by simp [running]⟩
    · cases performed
  · rcases Option.map_eq_some_iff.mp performed with ⟨files, -, rfl⟩
    exact ⟨samePlan, fun _ => ⟨done, split, relocated⟩,
      by simp [running]⟩
  · next candidate rest _ isRest =>
      split at performed
      · next accepted =>
          rw [Option.some.injEq] at performed
          subst performed
          rw [Bool.and_eq_true] at accepted
          rcases storageId_of_candidateRowsMatch fingerprint accepted.1 with
            ⟨row, found, sameStorage⟩
          refine ⟨samePlan, fun _ => ⟨done ++ [candidate], ?_, ?_⟩,
            by simp [running]⟩
          · rw [split, isRest, List.append_assoc, List.singleton_append]
          · exact relocated.commit found sameStorage now
      · cases performed
  · cases performed

/-- One step keeps it, too. -/
theorem Progressed.step
    {before : Table ArtifactRow} {plan : FolderMovePlan}
    {execution next : Execution} {event : Event}
    (progressed : Progressed before plan execution)
    (taken : FolderMove.step fingerprint execution event = some next) :
    Progressed before plan next := by
  have afterFailure : ∀ (failing : Execution) (now : Time),
      failing.plan = plan → Progressed before plan (failing.fail now) :=
    fun failing now samePlan => ⟨samePlan, fun notFailed => absurd rfl notFailed,
      fun ended => by cases ended⟩
  cases event with
  | proceed logPath now =>
      rw [FolderMove.step] at taken
      split at taken
      · cases taken
      · next running =>
          split at taken
          · next performed =>
              rw [Option.some.injEq] at taken
              subst taken
              exact progressed.perform fingerprint (by simpa using running)
                performed
          · rw [Option.some.injEq] at taken
            subst taken
            exact afterFailure _ _ progressed.1
  | raise tookEffect logPath now =>
      rw [FolderMove.step] at taken
      split at taken
      · cases taken
      · split at taken
        · rw [Option.some.injEq] at taken
          subst taken
          apply afterFailure
          split
          · exact progressed.1
          · exact progressed.1
        · rw [Option.some.injEq] at taken
          subst taken
          exact afterFailure _ _ progressed.1
  | outside files =>
      rw [FolderMove.step, Option.some.injEq] at taken
      subst taken
      exact progressed

/-- A completed execution has moved every candidate and nothing else. -/
theorem relocated_of_completed
    {db : Database} {files : Files StoredFile} {plan : FolderMovePlan}
    {now : Time} {execution finish : Execution}
    (started : start fingerprint db files plan now = .ok execution)
    (steps : Steps (FolderMove.step fingerprint) (fun _ _ => True) execution
      finish)
    (completed : finish.outcome = some .succeeded) :
    Relocated db.artifact finish.db.artifact plan.candidates := by
  rcases steps.invariant (Progressed db.artifact plan)
    (progressed_start fingerprint started)
    (fun _ _ _ progressed _ taken => progressed.step fingerprint taken)
    with ⟨-, account, ended⟩
  rcases account (by simp [completed]) with ⟨done, split, relocated⟩
  rw [ended completed, List.append_nil] at split
  rw [split]
  exact relocated

end Execution

end Sluicery.Core.FolderMove
