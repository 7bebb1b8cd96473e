import Sluicery.Core.Retention
import Sluicery.Library.Transition

/-!
# Executing a retention plan

`execute_retention` as a state machine: every audit record, file deletion and
commit is one step, which may also raise, before or after it took effect.  A
process which stops leaves the state as it is between two steps.

`Progressed` says what an execution has done to the files, the rows and the
audit log, by the candidates it has finished and the phase of the current
one.
-/

namespace Sluicery.Core.Retention

open Sluicery.Library Sluicery.Library.Transition
open Sluicery.Db Sluicery.Storage

/-! ## State -/

/-- The next operation for the current candidate. -/
inductive Phase where
  | matching
  | intent
  | deleting
  | recording
  | committing
deriving DecidableEq, Repr

/-- Why the loop of `execute_retention` ended early. -/
inductive Failure where
  | changedBeforeDeletion
  | adapter
  | changedAfterDeletion
  | raised
deriving DecidableEq, Repr

/-- How an execution ended. -/
inductive Outcome where
  | succeeded
  | failed (failure : Failure)
deriving DecidableEq, Repr

/-- A running or ended execution. -/
structure Execution where
  db : Database
  files : Files StoredFile
  /-- The audit logs of other executions. -/
  logs : List (List AuditRecord)
  audit : List AuditRecord := []
  runId : Nat
  finished : List RetentionCandidate := []
  remaining : List RetentionCandidate
  phase : Phase := .matching
  deletedCount : Nat := 0
  deletedBytes : Int := 0
  outcome : Option Outcome := none

section Execution

variable (fingerprint : StorageKind → Option Json.Fields → String)

/-- The checks of `execute_retention`, and its Run. -/
def start (db : Database) (files : Files StoredFile)
    (logs : List (List AuditRecord)) (plan : RetentionPlan)
    (logPath : String) (now : Time) : Except String Execution :=
  if ¬ plan.deletable then
    .error (if plan.blockedReasons.isEmpty then "retentionが無効です"
      else String.intercalate " / " plan.blockedReasons)
  else if plan.candidates.isEmpty then .error "削除候補がありません"
  else if plan.candidates.any fun candidate =>
      candidate.fileIdentity.isNone then
    .error "削除対象の実ファイル識別情報がありません。execute用dry-runを再実行してください"
  else if playlistSyncIsActive db plan.playlistId then
    .error "Playlistの同期が実行中のためretentionを開始できません"
  else if plan.candidates.all (rowsMatch fingerprint db) then
    .ok
      { db := { db with
          run := db.run.insert
            { trigger := .manual, kind := "retention",
              playlistId := some plan.playlistId, startedAt := now,
              logPath := some logPath } }
        files
        logs
        runId := db.run.nextKey
        remaining := plan.candidates }
  else .error "dry-run後に削除対象が変化しました。再確認してください"

/-! ## Steps -/

/-- The Run with its final status and its counts. -/
def concludedRun (deletedCount : Nat) (deletedBytes : Int) (now : Time)
    (run : RunRow) : Outcome → RunRow
  | .succeeded =>
      { run with
        status := .succeeded
        finishedAt := some now
        statsJson := some
          [("deleted_count", .int deletedCount),
            ("deleted_bytes", .int deletedBytes)] }
  | .failed _ =>
      { run with
        status := .failed
        finishedAt := some now
        statsJson := some
          [("deleted_count", .int deletedCount),
            ("deleted_bytes", .int deletedBytes),
            ("reason_code", .str "retention_failed")] }

/-- The Run is ended. -/
def Execution.conclude (execution : Execution) (outcome : Outcome)
    (now : Time) : Execution :=
  { execution with
    outcome := some outcome
    db := { execution.db with
      run := execution.db.run.modify execution.runId fun run =>
        concludedRun execution.deletedCount execution.deletedBytes now run
          outcome } }

/-- The Target is ignored and the Artifact is deleted, in one commit. -/
def commitDeletion (db : Database) (candidate : RetentionCandidate)
    (now : Time) : Database :=
  { db with
    target := db.target.modify candidate.targetId (touchTarget now
      fun target => { target with status := .ignored, lastError := none })
    artifact := db.artifact.erase candidate.artifactId }

/-- The `delete_intent` record of a candidate with its file identity. -/
def intentRecord (candidate : RetentionCandidate) (identity : RemoteFile)
    (name : String) (now : Time) : AuditRecord :=
  .deleteIntent candidate.artifactId candidate.storageId
    candidate.relativePath (quarantinePath candidate.relativePath name)
    candidate.filesize identity candidate.storageConfigFingerprint now

/-- The `deleted` record of a candidate. -/
def deletedRecord (candidate : RetentionCandidate) (now : Time) :
    AuditRecord :=
  .deleted candidate.artifactId candidate.storageId candidate.relativePath
    candidate.filesize now

/-- The next operation for the current candidate, or why it raises. -/
def Execution.perform (execution : Execution)
    (candidate : RetentionCandidate) (rest : List RetentionCandidate)
    (name : String) (now : Time) : Except Failure Execution :=
  match execution.phase, candidate.fileIdentity with
  | _, none => .error .raised
  | .matching, some _ =>
      if rowsMatch fingerprint execution.db candidate then
        .ok { execution with phase := .intent }
      else .error .changedBeforeDeletion
  | .intent, some identity =>
      .ok { execution with
        audit := execution.audit ++
          [intentRecord candidate identity name now]
        phase := .deleting }
  | .deleting, some identity =>
      match deleteFile execution.files candidate.place identity with
      | none => .error .adapter
      | some files => .ok { execution with files, phase := .recording }
  | .recording, some _ =>
      .ok { execution with
        audit := execution.audit ++ [deletedRecord candidate now]
        phase := .committing }
  | .committing, some _ =>
      if rowsMatch fingerprint execution.db candidate then
        .ok { execution with
          db := commitDeletion execution.db candidate now
          finished := execution.finished ++ [candidate]
          remaining := rest
          phase := .matching
          deletedCount := execution.deletedCount + 1
          deletedBytes :=
            execution.deletedBytes + candidate.filesize.getD 0 }
      else .error .changedAfterDeletion

/-- An operation which raises may have written its record or file change. -/
def mayTakeEffect : Phase → Bool
  | .intent | .deleting | .recording => true
  | .matching | .committing => false

/-- What can happen to an execution. -/
inductive Event where
  | proceed (name : String) (now : Time)
  /-- The next operation raises, when `tookEffect` after its effect. -/
  | raise (tookEffect : Bool) (name : String) (now : Time)

/-- One step of `execute_retention` after its start. -/
def step (execution : Execution) : Event → Option Execution
  | .proceed name now =>
      if execution.outcome.isSome then none
      else
        match execution.remaining with
        | [] => some (execution.conclude .succeeded now)
        | candidate :: rest =>
            match execution.perform fingerprint candidate rest name now with
            | .ok next => some next
            | .error failure => some (execution.conclude (.failed failure) now)
  | .raise tookEffect name now =>
      if execution.outcome.isSome then none
      else
        match execution.remaining with
        -- The last commit is not guarded: the Run stays as it is.
        | [] => some { execution with outcome := some (.failed .raised) }
        | candidate :: rest =>
            match execution.perform fingerprint candidate rest name now with
            | .ok next =>
                if tookEffect && mayTakeEffect execution.phase then
                  some (next.conclude (.failed .raised) now)
                else some (execution.conclude (.failed .raised) now)
            | .error failure => some (execution.conclude (.failed failure) now)

/-! ## What an execution has done -/

/-- The key of the audit records of a candidate. -/
def RetentionCandidate.auditKey (candidate : RetentionCandidate) : AuditKey :=
  (candidate.artifactId, candidate.storageId, candidate.relativePath)

namespace Phase

/-- The intent of the current candidate is written. -/
def hasIntent : Phase → Bool
  | .matching | .intent => false
  | .deleting | .recording | .committing => true

/-- The file of the current candidate is deleted. -/
def isDeleted : Phase → Bool
  | .matching | .intent | .deleting => false
  | .recording | .committing => true

/-- The deletion of the current candidate is written. -/
def isRecorded : Phase → Bool
  | .committing => true
  | _ => false

end Phase

/-- The finished candidates, and the current one if it got this far. -/
def Execution.upTo (execution : Execution) (reached : Phase → Bool) :
    List RetentionCandidate :=
  execution.finished ++
    if reached execution.phase then execution.remaining.take 1 else []

/-- What an execution has done since its start. -/
structure Progressed (first execution : Execution) : Prop where
  logs : execution.logs = first.logs
  runId : execution.runId = first.runId
  candidates :
    execution.finished ++ execution.remaining = first.remaining
  current : execution.phase ≠ .matching → execution.remaining ≠ []
  intents : execution.audit.filterMap intentKey =
    (execution.upTo Phase.hasIntent).map RetentionCandidate.auditKey
  deletions : execution.audit.filterMap deletedKey =
    (execution.upTo Phase.isRecorded).map RetentionCandidate.auditKey
  files (place : Place) : execution.files place =
    if place ∈ (execution.upTo Phase.isDeleted).map RetentionCandidate.place
    then none else first.files place
  deletedFiles : ∀ candidate ∈ execution.upTo Phase.isDeleted,
    first.files candidate.place ≠ none
  artifacts (key : Nat) : execution.db.artifact.get key =
    if key ∈ execution.finished.map RetentionCandidate.artifactId
    then none else first.db.artifact.get key
  ignored : ∀ candidate ∈ execution.finished, ∃ target,
    execution.db.target.get candidate.targetId = some target ∧
      target.status = .ignored
  otherTargets : ∀ key,
    key ∉ execution.finished.map RetentionCandidate.targetId →
    execution.db.target.get key = first.db.target.get key
  storages : execution.db.storage = first.db.storage
  targets : (execution.finished.map RetentionCandidate.targetId).Nodup
  run : ∃ run, execution.db.run.get execution.runId = some run ∧
    (execution.outcome = some .succeeded →
      run.status = .succeeded ∧ execution.remaining = [])

theorem rowsMatch_iff
    (db : Database) (candidate : RetentionCandidate) :
    rowsMatch fingerprint db candidate = true ↔
      ∃ artifact target storage,
        db.artifact.get candidate.artifactId = some artifact ∧
        db.target.get candidate.targetId = some target ∧
        db.storage.get candidate.storageId = some storage ∧
        candidateMatches artifact candidate = true ∧
        target.status = .downloaded ∧
        relatedRowsMatch fingerprint (some target) (some storage)
          candidate = true := by
  simp only [rowsMatch, relatedRowsMatch, Bool.and_eq_true,
    Option.any_eq_true, Option.any_some, beq_iff_eq]
  constructor
  · rintro ⟨⟨artifact, foundArtifact, same⟩,
      ⟨target, foundTarget, downloaded, sameTarget⟩,
      storage, foundStorage, sameStorage⟩
    exact ⟨artifact, target, storage, foundArtifact, foundTarget,
      foundStorage, same, downloaded, ⟨downloaded, sameTarget⟩, sameStorage⟩
  · rintro ⟨artifact, target, storage, foundArtifact, foundTarget,
      foundStorage, same, -, sameTarget, sameStorage⟩
    exact ⟨⟨artifact, foundArtifact, same⟩,
      ⟨target, foundTarget, sameTarget⟩, storage, foundStorage, sameStorage⟩

variable {fingerprint}

theorem ignored_status (now : Time) (target : TargetRow) :
    (touchTarget now (fun row =>
      { row with status := .ignored, lastError := none }) target).status =
        .ignored := by
  rw [touchTarget]
  split
  · next unchanged => rw [← unchanged]
  · rfl

/-- The end of an execution changes its Run and nothing else. -/
theorem Progressed.conclude
    {first execution : Execution} {outcome : Outcome} {now : Time}
    (progressed : Progressed first execution)
    (completes : outcome = .succeeded → execution.remaining = []) :
    Progressed first (execution.conclude outcome now) where
  logs := progressed.logs
  runId := progressed.runId
  candidates := progressed.candidates
  current := progressed.current
  intents := progressed.intents
  deletions := progressed.deletions
  files := progressed.files
  deletedFiles := progressed.deletedFiles
  artifacts := progressed.artifacts
  ignored := progressed.ignored
  otherTargets := progressed.otherTargets
  storages := progressed.storages
  targets := progressed.targets
  run := by
    rcases progressed.run with ⟨run, found, -⟩
    refine ⟨concludedRun execution.deletedCount execution.deletedBytes now
      run outcome, ?_, ?_⟩
    · show (execution.db.run.modify execution.runId _).get
        execution.runId = _
      rw [Table.get_modify_self, found]
      rfl
    · intro isSucceeded
      cases Option.some.inj isSucceeded
      exact ⟨rfl, completes rfl⟩

theorem Execution.upTo_of_current
    {execution : Execution} {candidate : RetentionCandidate}
    {rest : List RetentionCandidate}
    (current : execution.remaining = candidate :: rest)
    (reached : Phase → Bool) :
    execution.upTo reached =
      execution.finished ++
        if reached execution.phase then [candidate] else [] := by
  rw [Execution.upTo, current]
  rfl

/-- An operation before the commit of the current candidate. -/
theorem Progressed.before_commit
    {first execution : Execution} {candidate : RetentionCandidate}
    {rest : List RetentionCandidate}
    (progressed : Progressed first execution)
    (current : execution.remaining = candidate :: rest)
    (audit : List AuditRecord) (files : Files StoredFile) (phase : Phase)
    (intents : audit.filterMap intentKey =
      (execution.finished ++
        if phase.hasIntent then [candidate] else []).map
          RetentionCandidate.auditKey)
    (deletions : audit.filterMap deletedKey =
      (execution.finished ++
        if phase.isRecorded then [candidate] else []).map
          RetentionCandidate.auditKey)
    (filesAre : ∀ place, files place =
      if place ∈ (execution.finished ++
        if phase.isDeleted then [candidate] else []).map
          RetentionCandidate.place then none else first.files place)
    (deletedFiles : ∀ deleted ∈ execution.finished ++
      (if phase.isDeleted then [candidate] else []),
        first.files deleted.place ≠ none) :
    Progressed first { execution with audit, files, phase } := by
  have upTo : ∀ reached,
      Execution.upTo { execution with audit, files, phase } reached =
        execution.finished ++ if reached phase then [candidate] else [] :=
    @Execution.upTo_of_current
      { execution with audit, files, phase } candidate rest current
  exact
    { logs := progressed.logs
      runId := progressed.runId
      candidates := progressed.candidates
      current := fun _ none => nomatch current.symm.trans none
      intents := (upTo _).symm ▸ intents
      deletions := (upTo _).symm ▸ deletions
      files := (upTo _).symm ▸ filesAre
      deletedFiles := (upTo _).symm ▸ deletedFiles
      artifacts := progressed.artifacts
      ignored := progressed.ignored
      otherTargets := progressed.otherTargets
      storages := progressed.storages
      targets := progressed.targets
      run := progressed.run }

/-- The commit of the current candidate. -/
theorem Progressed.commit
    {first execution : Execution} {candidate : RetentionCandidate}
    {rest : List RetentionCandidate}
    (progressed : Progressed first execution)
    (running : execution.outcome = none)
    (current : execution.remaining = candidate :: rest)
    (committing : execution.phase = .committing)
    (matching : rowsMatch fingerprint execution.db candidate = true)
    (deletedCount : Nat) (deletedBytes : Int) (now : Time) :
    Progressed first { execution with
      db := commitDeletion execution.db candidate now
      finished := execution.finished ++ [candidate]
      remaining := rest
      phase := .matching
      deletedCount
      deletedBytes } := by
  rcases (rowsMatch_iff _ _ _).mp matching with
    ⟨artifact, target, storage, -, foundTarget, -, -, downloaded, -⟩
  have upTo : ∀ reached : Phase → Bool, reached .committing = true →
      reached .matching = false →
      Execution.upTo { execution with
        db := commitDeletion execution.db candidate now
        finished := execution.finished ++ [candidate]
        remaining := rest
        phase := .matching
        deletedCount
        deletedBytes } reached = execution.upTo reached := by
    intro reached before after
    rw [Execution.upTo_of_current current, committing, before,
      Execution.upTo, after]
    exact List.append_nil _
  have newTarget : candidate.targetId ∉
      execution.finished.map RetentionCandidate.targetId := by
    intro member
    rcases List.mem_map.mp member with ⟨finished, isFinished, same⟩
    rcases progressed.ignored finished isFinished with
      ⟨other, foundOther, isIgnored⟩
    rw [same, foundTarget, Option.some.injEq] at foundOther
    rw [foundOther, isIgnored] at downloaded
    cases downloaded
  constructor
  · exact progressed.logs
  · exact progressed.runId
  · rw [← progressed.candidates, current]
    exact List.append_assoc _ _ _
  · intro notMatching
    exact absurd rfl notMatching
  · rw [upTo _ rfl rfl]
    exact progressed.intents
  · rw [upTo _ rfl rfl]
    exact progressed.deletions
  · rw [upTo _ rfl rfl]
    exact progressed.files
  · rw [upTo _ rfl rfl]
    exact progressed.deletedFiles
  · intro key
    show (execution.db.artifact.erase candidate.artifactId).get key = _
    rw [Table.get_erase, progressed.artifacts]
    simp only [List.map_append, List.map_cons, List.map_nil,
      List.mem_append, List.mem_singleton]
    by_cases same : key = candidate.artifactId
    · rw [if_pos same, if_pos (Or.inr same)]
    · rw [if_neg same]
      simp only [same, or_false]
  · intro deleted member
    show ∃ after, (execution.db.target.modify candidate.targetId _).get
      deleted.targetId = some after ∧ _
    rw [Table.get_modify]
    by_cases same : deleted.targetId = candidate.targetId
    · rw [if_pos same, same, foundTarget]
      exact ⟨_, rfl, ignored_status now target⟩
    · rw [if_neg same]
      rcases List.mem_append.mp member with isFinished | isCurrent
      · exact progressed.ignored deleted isFinished
      · rw [List.mem_singleton.mp isCurrent] at same
        exact absurd rfl same
  · intro key notFinished
    rw [List.map_append, List.mem_append, not_or] at notFinished
    show (execution.db.target.modify candidate.targetId _).get key = _
    rw [Table.get_modify_of_ne _ _ (by simpa using notFinished.2)]
    exact progressed.otherTargets key notFinished.1
  · exact progressed.storages
  · rw [List.map_append, List.nodup_append]
    refine ⟨progressed.targets, by simp, ?_⟩
    rintro key member other isCurrent rfl
    rw [List.map_cons, List.map_nil, List.mem_singleton] at isCurrent
    exact newTarget (isCurrent ▸ member)
  · rcases progressed.run with ⟨run, found, -⟩
    refine ⟨run, found, ?_⟩
    intro isSucceeded
    rw [running] at isSucceeded
    cases isSucceeded

/-- The next operation for the current candidate. -/
theorem Progressed.perform
    {first execution next : Execution} {candidate : RetentionCandidate}
    {rest : List RetentionCandidate} {name : String} {now : Time}
    (progressed : Progressed first execution)
    (running : execution.outcome = none)
    (current : execution.remaining = candidate :: rest)
    (performed : execution.perform fingerprint candidate rest name now =
      .ok next) :
    Progressed first next ∧ next.outcome = none := by
  have upTo := Execution.upTo_of_current current
  have intents := progressed.intents
  have deletions := progressed.deletions
  have files := progressed.files
  have deletedFiles := progressed.deletedFiles
  rw [upTo] at intents deletions deletedFiles
  simp only [upTo] at files
  rw [Execution.perform] at performed
  cases identity : candidate.fileIdentity with
  | none =>
      rw [identity] at performed
      cases performed
  | some expected =>
      cases phase : execution.phase with
      | matching =>
          rw [phase] at intents deletions deletedFiles
          simp only [phase, identity] at performed files
          split at performed
          · cases performed
            exact ⟨progressed.before_commit current execution.audit
              execution.files .intent intents deletions files deletedFiles,
              running⟩
          · cases performed
      | intent =>
          rw [phase] at intents deletions deletedFiles
          simp only [phase, identity] at performed files
          cases performed
          refine ⟨progressed.before_commit current _ execution.files
            .deleting ?_ ?_ files deletedFiles, running⟩
          · rw [List.filterMap_append, intents]
            simp [intentRecord, intentKey, Phase.hasIntent,
              RetentionCandidate.auditKey]
          · rw [List.filterMap_append, deletions]
            simp [intentRecord, deletedKey, Phase.isRecorded]
      | deleting =>
          rw [phase] at intents deletions deletedFiles
          simp only [phase, identity] at performed files
          split at performed
          · cases performed
          · next after deleted =>
              cases performed
              rcases (deleteFile_eq_some_iff _ _ _ _).mp deleted with
                ⟨inspected, rfl⟩
              have present : execution.files candidate.place ≠ none := by
                intro missing
                rw [inspectFile, missing] at inspected
                cases inspected
              have unchanged : ∀ place,
                  execution.files place ≠ none →
                  first.files place ≠ none := by
                intro place isPresent absent
                apply isPresent
                rw [files place, absent, ite_self]
              refine ⟨progressed.before_commit current execution.audit _
                .recording intents deletions ?_ ?_, running⟩
              · intro place
                by_cases same : place = candidate.place
                · subst same
                  rw [Function.update_self, if_pos (by simp [Phase.isDeleted])]
                · rw [Function.update_of_ne same, files place]
                  simp [Phase.isDeleted, same]
              · intro other member
                rcases List.mem_append.mp member with isFinished | isCurrent
                · exact progressed.deletedFiles other
                    (List.mem_append_left _ isFinished)
                · rw [List.mem_singleton.mp isCurrent]
                  exact unchanged _ present
      | recording =>
          rw [phase] at intents deletions deletedFiles
          simp only [phase, identity] at performed files
          cases performed
          refine ⟨progressed.before_commit current _ execution.files
            .committing ?_ ?_ files deletedFiles, running⟩
          · rw [List.filterMap_append, intents]
            simp [deletedRecord, intentKey, Phase.hasIntent]
          · rw [List.filterMap_append, deletions]
            simp [deletedRecord, deletedKey, Phase.isRecorded,
              RetentionCandidate.auditKey]
      | committing =>
          simp only [phase, identity] at performed
          split at performed
          · next matching =>
              cases performed
              exact ⟨progressed.commit running current phase matching _ _ now,
                running⟩
          · cases performed

/-! ## Runs -/

variable (fingerprint) in
/-- What an accepted start fixes. -/
structure Started (plan : RetentionPlan) (first : Execution) : Prop where
  remaining : first.remaining = plan.candidates
  nonempty : plan.candidates ≠ []
  identified : ∀ candidate ∈ plan.candidates,
    candidate.fileIdentity.isSome = true
  matching : ∀ candidate ∈ plan.candidates,
    rowsMatch fingerprint first.db candidate = true
  running : first.outcome = none
  progressed : Progressed first first

theorem started_of_start
    {db : Database} {files : Files StoredFile}
    {logs : List (List AuditRecord)} {plan : RetentionPlan}
    {logPath : String} {now : Time} {first : Execution}
    (isStart : start fingerprint db files logs plan logPath now =
      .ok first) :
    Started fingerprint plan first := by
  rw [start] at isStart
  split at isStart
  · cases isStart
  · split at isStart
    · cases isStart
    · next nonempty =>
        split at isStart
        · cases isStart
        · next identified =>
            split at isStart
            · cases isStart
            · split at isStart
              · next matching =>
                  cases isStart
                  constructor
                  · rfl
                  · simpa using nonempty
                  · simpa [Option.isSome_iff_ne_none] using identified
                  · exact List.all_eq_true.mp matching
                  · rfl
                  · constructor
                    · rfl
                    · rfl
                    · rfl
                    · intro notMatching
                      exact absurd rfl notMatching
                    · rfl
                    · rfl
                    · intro place
                      rfl
                    · intro candidate impossible
                      cases impossible
                    · intro key
                      rfl
                    · intro candidate impossible
                      cases impossible
                    · intro key _
                      rfl
                    · rfl
                    · exact List.nodup_nil
                    · exact ⟨_, Table.get_insert_nextKey _ _,
                        fun impossible => nomatch impossible⟩
              · cases isStart

theorem Progressed.step
    {first execution next : Execution} {event : Event}
    (progressed : Progressed first execution)
    (taken : step fingerprint execution event = some next) :
    Progressed first next := by
  cases event with
  | proceed name now =>
      simp only [Retention.step] at taken
      split at taken
      · cases taken
      · next running =>
          rw [Option.isSome_iff_ne_none, not_not] at running
          split at taken
          · next current =>
              cases taken
              exact progressed.conclude fun _ => current
          · next candidate rest current =>
              split at taken
              · next performed =>
                  cases taken
                  exact (progressed.perform running current performed).1
              · cases taken
                exact progressed.conclude fun impossible =>
                  nomatch impossible
  | raise tookEffect name now =>
      simp only [Retention.step] at taken
      split at taken
      · cases taken
      · next running =>
          rw [Option.isSome_iff_ne_none, not_not] at running
          split at taken
          · cases taken
            rcases progressed.run with ⟨run, found, -⟩
            exact { progressed with
              run := ⟨run, found, fun impossible => nomatch impossible⟩ }
          · next candidate rest current =>
              split at taken
              · next performed =>
                  split at taken
                  · cases taken
                    exact (progressed.perform running current
                      performed).1.conclude fun impossible =>
                        nomatch impossible
                  · cases taken
                    exact progressed.conclude fun impossible =>
                      nomatch impossible
              · cases taken
                exact progressed.conclude fun impossible =>
                  nomatch impossible

end Execution

end Sluicery.Core.Retention
