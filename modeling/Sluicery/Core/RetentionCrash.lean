import Sluicery.Core.RetentionExecution

/-!
# Stopping a retention at any point

A process which stops between two operations of `execute_retention`, or an
operation which raises, leaves each candidate untouched or fully deleted, or
leaves an intent which stops the next dry-run, except between the `deleted`
record of a candidate and its commit, and except for an Artifact which shares
its path with a deleted one.
-/

namespace Sluicery.Core.Retention

open Sluicery.Library Sluicery.Library.Transition
open Sluicery.Db Sluicery.Storage

/-! ## Safety of a stopping point -/

/-- The next dry-run is refused. -/
def Refused (execution : Execution) : Prop :=
  ∃ message, assertNoUnfinishedRetentionIntents
    (execution.logs ++ [execution.audit]) = .error message

/-- The file and the Artifact are what they were at the start. -/
def Untouched (first execution : Execution)
    (candidate : RetentionCandidate) : Prop :=
  execution.files candidate.place = first.files candidate.place ∧
    execution.db.artifact.get candidate.artifactId =
      first.db.artifact.get candidate.artifactId

/-- The file and the Artifact are gone, and the Target is ignored. -/
def FullyDeleted (execution : Execution)
    (candidate : RetentionCandidate) : Prop :=
  execution.files candidate.place = none ∧
    execution.db.artifact.get candidate.artifactId = none ∧
    ∃ target, execution.db.target.get candidate.targetId = some target ∧
      target.status = .ignored

/-- What an execution may leave when it stops. -/
def CrashSafe (plan : RetentionPlan) (first execution : Execution) : Prop :=
  Refused execution ∨
    ∀ candidate ∈ plan.candidates,
      Untouched first execution candidate ∨ FullyDeleted execution candidate

/--
An intent is open; or the deletion of the current candidate is not recorded
before its commit, and no deleted file was that of a remaining candidate.
-/
def StopsSafely (execution : Execution) : Prop :=
  execution.logs.any hasUnfinishedIntent = true ∨
    execution.phase = .deleting ∨ execution.phase = .recording ∨
    (execution.phase ≠ .committing ∧
      ∀ deleted ∈ execution.finished, ∀ candidate ∈ execution.remaining,
        deleted.place ≠ candidate.place)

/-! ## Open intents -/

theorem hasUnfinishedIntent_iff (log : List AuditRecord) :
    hasUnfinishedIntent log = true ↔
      ∃ key ∈ log.filterMap intentKey, key ∉ log.filterMap deletedKey := by
  simp only [hasUnfinishedIntent, List.any_eq_true, Option.any_eq_true,
    Bool.not_eq_true', List.contains_eq_mem, decide_eq_false_iff_not,
    List.mem_filterMap]
  constructor
  · rintro ⟨record, member, key, isIntent, unfinished⟩
    exact ⟨key, ⟨record, member, isIntent⟩, unfinished⟩
  · rintro ⟨key, ⟨record, member, isIntent⟩, unfinished⟩
    exact ⟨record, member, key, isIntent, unfinished⟩

theorem refused_iff (execution : Execution) :
    Refused execution ↔
      execution.logs.any hasUnfinishedIntent = true ∨
        hasUnfinishedIntent execution.audit = true := by
  rw [Refused, assertNoUnfinishedRetentionIntents]
  simp only [List.any_append, List.any_cons, List.any_nil, Bool.or_false,
    Bool.or_eq_true]
  split
  · next unfinished => exact iff_of_true ⟨_, rfl⟩ unfinished
  · next finished =>
      refine iff_of_false ?_ finished
      rintro ⟨message, impossible⟩
      cases impossible

variable {fingerprint : StorageKind → Option Json.Fields → String}

/-- The candidates of an execution name different Artifacts. -/
theorem Started.distinct
    {plan : RetentionPlan} {first execution : Execution}
    (started : Started fingerprint plan first)
    (progressed : Progressed first execution) :
    ((execution.finished ++ execution.remaining).map
      RetentionCandidate.artifactId).Nodup := by
  rw [progressed.candidates, started.remaining]
  exact plan.distinct

/-- A remaining candidate is not among the finished ones. -/
theorem Started.not_finished
    {plan : RetentionPlan} {first execution : Execution}
    {candidate : RetentionCandidate}
    (started : Started fingerprint plan first)
    (progressed : Progressed first execution)
    (member : candidate ∈ execution.remaining) :
    candidate.artifactId ∉
      execution.finished.map RetentionCandidate.artifactId := by
  have distinct := started.distinct progressed
  rw [List.map_append, List.nodup_append] at distinct
  intro isFinished
  exact distinct.2.2 _ isFinished _ (List.mem_map_of_mem member) rfl

/-- A remaining candidate has its Artifact. -/
theorem Started.artifact_eq
    {plan : RetentionPlan} {first execution : Execution}
    {candidate : RetentionCandidate}
    (started : Started fingerprint plan first)
    (progressed : Progressed first execution)
    (member : candidate ∈ execution.remaining) :
    execution.db.artifact.get candidate.artifactId =
        first.db.artifact.get candidate.artifactId ∧
      first.db.artifact.get candidate.artifactId ≠ none := by
  constructor
  · rw [progressed.artifacts,
      if_neg (started.not_finished progressed member)]
  · have isCandidate : candidate ∈ plan.candidates := by
      rw [← started.remaining, ← progressed.candidates]
      exact List.mem_append_right _ member
    rcases (rowsMatch_iff _ _ _).mp
      (started.matching candidate isCandidate) with ⟨artifact, _, _, found, -⟩
    rw [found]
    exact Option.some_ne_none artifact

/-- The audit log of the execution has an open intent while it deletes. -/
theorem Started.unfinished_iff
    {plan : RetentionPlan} {first execution : Execution}
    (started : Started fingerprint plan first)
    (progressed : Progressed first execution) :
    hasUnfinishedIntent execution.audit = true ↔
      execution.phase = .deleting ∨ execution.phase = .recording := by
  rw [hasUnfinishedIntent_iff, progressed.intents, progressed.deletions]
  have none : ∀ keys : List AuditKey, ¬ ∃ key ∈ keys, key ∉ keys := by
    rintro keys ⟨key, member, notMember⟩
    exact notMember member
  cases current : execution.remaining with
  | nil =>
      have matching : execution.phase = .matching := by
        by_contra other
        exact progressed.current other current
      simp only [Execution.upTo, matching, Phase.hasIntent,
        Phase.isRecorded]
      exact iff_of_false (none _) (by simp)
  | cons candidate rest =>
      have notFinished := started.not_finished progressed
        (current ▸ List.mem_cons_self)
      have newKey : candidate.auditKey ∉
          execution.finished.map RetentionCandidate.auditKey := by
        intro member
        rcases List.mem_map.mp member with ⟨finished, isFinished, same⟩
        have sameArtifact : finished.artifactId = candidate.artifactId :=
          congrArg Prod.fst same
        apply notFinished
        rw [← sameArtifact]
        exact List.mem_map_of_mem isFinished
      rw [Execution.upTo_of_current current,
        Execution.upTo_of_current current]
      cases phase : execution.phase with
      | matching | intent | committing =>
          exact iff_of_false (none _) (by simp)
      | deleting | recording =>
          refine iff_of_true ⟨candidate.auditKey, ?_, ?_⟩ (by simp)
          · exact List.mem_map_of_mem
              (List.mem_append_right _ (List.mem_singleton.mpr rfl))
          · show candidate.auditKey ∉
              (execution.finished ++ []).map RetentionCandidate.auditKey
            rw [List.append_nil]
            exact newKey

/-! ## The main result -/

/-- What an execution leaves at a point without an open intent. -/
theorem Started.left_iff
    {plan : RetentionPlan} {first execution : Execution}
    (started : Started fingerprint plan first)
    (progressed : Progressed first execution)
    (notDeleting : execution.phase ≠ .deleting)
    (notRecording : execution.phase ≠ .recording) :
    (∀ candidate ∈ plan.candidates,
      Untouched first execution candidate ∨
        FullyDeleted execution candidate) ↔
      execution.phase ≠ .committing ∧
        ∀ deleted ∈ execution.finished, ∀ candidate ∈ execution.remaining,
          deleted.place ≠ candidate.place := by
  have isCandidate : ∀ candidate, candidate ∈ plan.candidates ↔
      candidate ∈ execution.finished ∨ candidate ∈ execution.remaining := by
    intro candidate
    rw [← started.remaining, ← progressed.candidates, List.mem_append]
  -- A remaining candidate whose file is gone is not left safely.
  have exposed : ∀ candidate ∈ execution.remaining,
      (∃ deleted ∈ execution.upTo Phase.isDeleted,
        deleted.place = candidate.place) →
      ¬ (Untouched first execution candidate ∨
        FullyDeleted execution candidate) := by
    rintro candidate member ⟨deleted, isDeleted, same⟩ safe
    have artifact := started.artifact_eq progressed member
    rcases safe with ⟨sameFile, -⟩ | ⟨-, noArtifact, -⟩
    · rw [progressed.files, if_pos] at sameFile
      · apply progressed.deletedFiles deleted isDeleted
        rw [same, ← sameFile]
      · rw [← same]
        exact List.mem_map_of_mem isDeleted
    · apply artifact.2
      rw [← artifact.1, noArtifact]
  constructor
  · intro safe
    constructor
    · intro committing
      cases current : execution.remaining with
      | nil =>
          have impossible := progressed.current (by rw [committing]; decide)
          exact impossible current
      | cons candidate rest =>
          have member : candidate ∈ execution.remaining :=
            current ▸ List.mem_cons_self
          refine exposed candidate member ⟨candidate, ?_, rfl⟩
            (safe candidate ((isCandidate _).mpr (Or.inr member)))
          rw [Execution.upTo_of_current current, committing]
          exact List.mem_append_right _ (List.mem_singleton.mpr rfl)
    · intro deleted isFinished candidate member same
      exact exposed candidate member
        ⟨deleted, List.mem_append_left _ isFinished, same⟩
        (safe candidate ((isCandidate _).mpr (Or.inr member)))
  · rintro ⟨notCommitting, separate⟩ candidate member
    have notDeleted : Phase.isDeleted execution.phase = false := by
      cases phase : execution.phase <;> simp_all [Phase.isDeleted]
    have files : ∀ place, execution.files place =
        if place ∈ execution.finished.map RetentionCandidate.place
        then none else first.files place := by
      intro place
      rw [progressed.files, Execution.upTo, notDeleted]
      simp
    rcases (isCandidate candidate).mp member with isFinished | isRemaining
    · refine Or.inr ⟨?_, ?_, progressed.ignored candidate isFinished⟩
      · rw [files, if_pos (List.mem_map_of_mem isFinished)]
      · rw [progressed.artifacts, if_pos (List.mem_map_of_mem isFinished)]
    · refine Or.inl ⟨?_, (started.artifact_eq progressed isRemaining).1⟩
      rw [files, if_neg]
      intro isDeleted
      rcases List.mem_map.mp isDeleted with ⟨deleted, isFinished, same⟩
      exact separate deleted isFinished candidate isRemaining same

/--
In every state which an execution of a plan can be stopped in, each candidate
is untouched or fully deleted, or the next dry-run is refused, if and only if
the execution is not between the `deleted` record of a candidate and its
commit, and no deleted file was that of a remaining candidate, or an intent
is open.
-/
theorem crash_safe_iff
    {db : Database} {files : Files StoredFile}
    {logs : List (List AuditRecord)} {plan : RetentionPlan}
    {logPath : String} {now : Time} {first execution : Execution}
    (isStart : start fingerprint db files logs plan logPath now =
      .ok first)
    (steps : Steps (step fingerprint) (fun _ _ => True) first execution) :
    CrashSafe plan first execution ↔ StopsSafely execution := by
  have started := started_of_start isStart
  have progressed : Progressed first execution :=
    steps.invariant _ started.progressed
      fun _ _ _ progressed _ taken => progressed.step taken
  rw [CrashSafe, StopsSafely, refused_iff,
    started.unfinished_iff progressed]
  by_cases deleting : execution.phase = .deleting
  · simp [deleting]
  · by_cases recording : execution.phase = .recording
    · simp [recording]
    · rw [started.left_iff progressed deleting recording]
      simp [deleting, recording]

/-- A playlist with an old and a new file. -/
def twoFiles : Database where
  storage := Table.empty.insert { name := "media", kind := .local }
  playlist := Table.empty.insert { name := "list", folderName := "list" }
  item :=
    (Table.empty.insert
      { playlistId := 1, sourceId := "old",
        uploadDate := some "20240101" }).insert
      { playlistId := 1, sourceId := "new" }
  target :=
    (Table.empty.insert
      { itemId := 1, playlistProfileId := 1, status := .downloaded }).insert
      { itemId := 2, playlistProfileId := 1, status := .downloaded }
  artifact :=
    (Table.empty.insert
      { targetId := 1, storageId := 1, relativePath := "old.mp4" }).insert
      { targetId := 2, storageId := 1, relativePath := "new.mp4" }

/-- Storages in which every path has a file of its own. -/
def everyFile : Files StoredFile := fun place =>
  some { size := some 10, hashes := [("sha256", place.2)] }

/-- The Artifact of the old file is the candidate of this plan. -/
def planOld : Except String RetentionPlan :=
  buildRetentionPlan (fun _ _ => "config")
    (fun date => if date = "20240101" then some 0 else none) twoFiles 1
    { enabled := true, maxAgeDays := some 30 } 20 100
    (some fun place => .ok
      { size := some 10, hashes := [("sha256", place.2)],
        relativePath := place.2 })

/-- The execution of this plan. -/
def startOld (plan : RetentionPlan) : Except String Execution :=
  start (fun _ _ => "config") twoFiles everyFile [] plan "retention.log" 0

/-- The process stops after the `deleted` record. -/
def untilDeletedRecord : List Event :=
  List.replicate 4 (.proceed "quarantine" 1)

theorem crash_safe_iff_untilDeletedRecord :
    ∃ plan first execution, planOld = .ok plan ∧ startOld plan = .ok first ∧
      run (step fun _ _ => "config") first untilDeletedRecord =
        some execution ∧
      (CrashSafe plan first execution ↔ StopsSafely execution) := by
  refine ⟨_, _, _, rfl, rfl, rfl, ?_⟩
  exact @crash_safe_iff (fun _ _ => "config") twoFiles everyFile [] _
    "retention.log" 0 _ _ rfl (Steps.of_run untilDeletedRecord rfl)

/-- The file is gone, its Artifact is not, and nothing stops a dry-run. -/
theorem not_crash_safe_untilDeletedRecord :
    ∃ plan first execution, planOld = .ok plan ∧ startOld plan = .ok first ∧
      run (step fun _ _ => "config") first untilDeletedRecord =
        some execution ∧
      ¬ CrashSafe plan first execution := by
  refine ⟨_, _, _, rfl, rfl, rfl, ?_⟩
  rintro (⟨message, refused⟩ | safe)
  · cases refused
  · rcases safe _ List.mem_cons_self with ⟨sameFile, -⟩ | ⟨-, noArtifact, -⟩
    · cases sameFile
    · cases noArtifact

end Sluicery.Core.Retention
