import Sluicery.Core.RetentionCrash

/-!
# Running a retention plan to its end

When nothing else changes and nothing raises, an execution is driven by its
operations alone.  Every commit ignores the Target of its candidate, and the
checks of a later candidate ask for a downloaded Target.  So a plan runs to
completion exactly when its candidates belong to different Targets.
-/

namespace Sluicery.Core.Retention

open Sluicery.Library Sluicery.Library.Transition
open Sluicery.Db Sluicery.Storage

section

variable (fingerprint : StorageKind → Option Json.Fields → String)

/-! ## The whole execution -/

/-- The operations one after the other, with the names and times they use. -/
def drive (tick : Nat → String × Time) : Nat → Execution → Execution
  | 0, execution => execution
  | fuel + 1, execution =>
      match step fingerprint execution
          (.proceed (tick fuel).1 (tick fuel).2) with
      | none => execution
      | some next => drive tick fuel next

/-- `execute_retention` after its start: five operations for a candidate. -/
def executeRetention (tick : Nat → String × Time) (first : Execution) :
    Execution :=
  drive fingerprint tick (5 * first.remaining.length + 1) first

end

/-- Every candidate is deleted, and the Run has succeeded. -/
def Completed (plan : RetentionPlan) (execution : Execution) : Prop :=
  (∃ run, execution.db.run.get execution.runId = some run ∧
    run.status = .succeeded) ∧
    ∀ candidate ∈ plan.candidates, FullyDeleted execution candidate

variable {fingerprint : StorageKind → Option Json.Fields → String}

/-! ## The execution ends -/

/-- How many operations of the current candidate are behind. -/
def Phase.behind : Phase → Nat
  | .matching => 0
  | .intent => 1
  | .deleting => 2
  | .recording => 3
  | .committing => 4

theorem perform_measure
    {execution next : Execution} {candidate : RetentionCandidate}
    {rest : List RetentionCandidate} {name : String} {now : Time}
    (current : execution.remaining = candidate :: rest)
    (performed : execution.perform fingerprint candidate rest name now =
      .ok next) :
    5 * next.remaining.length + execution.phase.behind + 1 =
      5 * execution.remaining.length + next.phase.behind := by
  rw [Execution.perform] at performed
  cases identity : candidate.fileIdentity with
  | none =>
      rw [identity] at performed
      cases performed
  | some expected =>
      cases phase : execution.phase with
      | matching =>
          simp only [phase, identity] at performed
          split at performed
          · cases performed
            simp [Phase.behind]
          · cases performed
      | committing =>
          simp only [phase, identity] at performed
          split at performed
          · cases performed
            simp only [current, Phase.behind, List.length_cons]
            omega
          · cases performed
      | intent | recording =>
          simp only [phase, identity] at performed
          cases performed
          simp [Phase.behind]
      | deleting =>
          simp only [phase, identity] at performed
          split at performed
          · cases performed
          · cases performed
            simp [Phase.behind]

/-- The operations an execution has still to do. -/
def Execution.ahead (execution : Execution) : Nat :=
  5 * execution.remaining.length + 1 - execution.phase.behind

theorem drive_of_ended
    (tick : Nat → String × Time) (fuel : Nat) {execution : Execution}
    (ended : execution.outcome ≠ none) :
    drive fingerprint tick fuel execution = execution := by
  cases fuel with
  | zero => rfl
  | succ fuel =>
      rw [drive, step, if_pos (Option.isSome_iff_ne_none.mpr ended)]

theorem drive_ends
    (tick : Nat → String × Time) {first : Execution} :
    ∀ (fuel : Nat) {execution : Execution},
      Progressed first execution → execution.ahead ≤ fuel →
      (drive fingerprint tick fuel execution).outcome ≠ none := by
  intro fuel
  induction fuel with
  | zero =>
      intro execution progressed enough
      have behind : execution.phase.behind < 5 := by
        cases execution.phase <;> decide
      cases current : execution.remaining with
      | nil =>
          have matching : execution.phase = .matching := by
            by_contra other
            exact progressed.current other current
          rw [Execution.ahead, current, matching] at enough
          exact absurd enough (by decide)
      | cons candidate rest =>
          rw [Execution.ahead, current, List.length_cons] at enough
          omega
  | succ fuel induction =>
      intro execution progressed enough
      cases running : execution.outcome with
      | some outcome =>
          have ended : execution.outcome ≠ none := by
            rw [running]
            exact Option.some_ne_none outcome
          rw [drive_of_ended tick _ ended]
          exact ended
      | none =>
          have notEnded : ¬ execution.outcome.isSome = true := by
            rw [running]
            exact Bool.false_ne_true
          rw [drive, step, if_neg notEnded]
          cases current : execution.remaining with
          | nil =>
              show (drive fingerprint tick fuel
                (execution.conclude .succeeded _)).outcome ≠ none
              rw [drive_of_ended tick _ (Option.some_ne_none _)]
              exact Option.some_ne_none _
          | cons candidate rest =>
              dsimp only
              cases performed : execution.perform fingerprint candidate rest
                  (tick fuel).1 (tick fuel).2 with
              | error failure =>
                  show (drive fingerprint tick fuel
                    (execution.conclude (.failed failure) _)).outcome ≠ none
                  rw [drive_of_ended tick _ (Option.some_ne_none _)]
                  exact Option.some_ne_none _
              | ok next =>
                  apply induction
                    (progressed.perform running current performed).1
                  have shorter := perform_measure current performed
                  rw [Execution.ahead] at enough ⊢
                  omega

/-- A driven execution is a run of operations which succeed or end it. -/
theorem steps_drive
    (tick : Nat → String × Time) (fuel : Nat) (execution : Execution) :
    Steps (step fingerprint)
      (fun _ event => ∃ name now, event = .proceed name now)
      execution (drive fingerprint tick fuel execution) := by
  induction fuel generalizing execution with
  | zero => exact .refl
  | succ fuel induction =>
      rw [drive]
      split
      · exact .refl
      · next taken =>
          exact (Steps.single ⟨_, _, rfl⟩ taken).trans (induction _)

/-! ## The checks of a remaining candidate -/

/-- The rows of a remaining candidate are those of the start. -/
theorem rowsMatch_remaining
    {plan : RetentionPlan} {first execution : Execution}
    {candidate : RetentionCandidate}
    (started : Started fingerprint plan first)
    (progressed : Progressed first execution)
    (targets : (plan.candidates.map RetentionCandidate.targetId).Nodup)
    (member : candidate ∈ execution.remaining) :
    rowsMatch fingerprint execution.db candidate = true := by
  have isCandidate : candidate ∈ plan.candidates := by
    rw [← started.remaining, ← progressed.candidates]
    exact List.mem_append_right _ member
  have otherTarget : candidate.targetId ∉
      execution.finished.map RetentionCandidate.targetId := by
    rw [← started.remaining, ← progressed.candidates, List.map_append,
      List.nodup_append] at targets
    intro isFinished
    exact targets.2.2 _ isFinished _ (List.mem_map_of_mem member) rfl
  rw [← started.matching candidate isCandidate, rowsMatch, rowsMatch,
    (started.artifact_eq progressed member).1,
    progressed.otherTargets _ otherTarget, progressed.storages]

/-- Only the adapter can end an execution of different Targets early. -/
def OnlyAdapterFails (execution : Execution) : Prop :=
  ∀ failure, execution.outcome = some (.failed failure) →
    failure = .adapter

theorem onlyAdapterFails_step
    {plan : RetentionPlan} {first execution next : Execution}
    {name : String} {now : Time}
    (started : Started fingerprint plan first)
    (progressed : Progressed first execution)
    (targets : (plan.candidates.map RetentionCandidate.targetId).Nodup)
    (taken : step fingerprint execution (.proceed name now) = some next) :
    OnlyAdapterFails next := by
  rw [step] at taken
  split at taken
  · cases taken
  · next running =>
      rw [Option.isSome_iff_ne_none, not_not] at running
      split at taken
      · cases taken
        intro failure impossible
        cases impossible
      · next candidate rest current =>
          have member : candidate ∈ execution.remaining :=
            current ▸ List.mem_cons_self
          have matching :=
            rowsMatch_remaining started progressed targets member
          have identified : candidate.fileIdentity.isSome = true := by
            apply started.identified
            rw [← started.remaining, ← progressed.candidates]
            exact List.mem_append_right _ member
          cases performed : execution.perform fingerprint candidate rest
              name now with
          | ok next' =>
              rw [performed] at taken
              cases taken
              intro failure impossible
              rw [(progressed.perform running current performed).2]
                at impossible
              cases impossible
          | error failure =>
              rw [performed] at taken
              cases taken
              intro other same
              cases same
              rcases Option.isSome_iff_exists.mp identified with
                ⟨identity, isIdentity⟩
              rw [Execution.perform] at performed
              cases phase : execution.phase with
              | matching | committing =>
                  simp only [phase, isIdentity, matching, if_true] at performed
                  cases performed
              | intent | recording =>
                  simp only [phase, isIdentity] at performed
                  cases performed
              | deleting =>
                  simp only [phase, isIdentity] at performed
                  split at performed
                  · cases performed
                    rfl
                  · cases performed

theorem progressed_drive
    (tick : Nat → String × Time) (fuel : Nat) {first execution : Execution}
    (progressed : Progressed first execution) :
    Progressed first (drive fingerprint tick fuel execution) :=
  (steps_drive tick fuel execution).invariant _ progressed
    fun _ _ _ progressed _ taken => progressed.step taken

theorem onlyAdapterFails_drive
    {plan : RetentionPlan} (tick : Nat → String × Time) (fuel : Nat)
    {first : Execution}
    (started : Started fingerprint plan first)
    (targets : (plan.candidates.map RetentionCandidate.targetId).Nodup) :
    OnlyAdapterFails (drive fingerprint tick fuel first) := by
  have both : Progressed first (drive fingerprint tick fuel first) ∧
      OnlyAdapterFails (drive fingerprint tick fuel first) := by
    apply (steps_drive tick fuel first).invariant fun execution =>
      Progressed first execution ∧ OnlyAdapterFails execution
    · refine ⟨started.progressed, ?_⟩
      intro failure impossible
      rw [started.running] at impossible
      cases impossible
    · rintro execution event next ⟨progressed, -⟩ ⟨name, now, rfl⟩ taken
      exact ⟨progressed.step taken,
        onlyAdapterFails_step started progressed targets taken⟩
  exact both.2

/-- A successful end of an execution is a completion. -/
theorem completed_of_succeeded
    {plan : RetentionPlan} {first execution : Execution}
    (started : Started fingerprint plan first)
    (progressed : Progressed first execution)
    (succeeded : execution.outcome = some .succeeded) :
    execution.finished = plan.candidates ∧ Completed plan execution := by
  rcases progressed.run with ⟨run, foundRun, ending⟩
  rcases ending succeeded with ⟨status, noneRemains⟩
  have all : execution.finished = plan.candidates := by
    have candidates := progressed.candidates
    rw [noneRemains, List.append_nil, started.remaining] at candidates
    exact candidates
  have inDeleted : ∀ candidate ∈ execution.finished,
      candidate ∈ execution.upTo Phase.isDeleted :=
    fun _ member => List.mem_append_left _ member
  refine ⟨all, ⟨run, foundRun, status⟩, ?_⟩
  rw [← all]
  intro candidate member
  refine ⟨?_, ?_, progressed.ignored candidate member⟩
  · rw [progressed.files,
      if_pos (List.mem_map_of_mem (inDeleted candidate member))]
  · rw [progressed.artifacts, if_pos (List.mem_map_of_mem member)]

/-! ## Plans of the same database -/

/-- `inspect_file` of adapters which can see every stored file. -/
def inspectStored (files : Files StoredFile) (place : Place) :
    Except String RemoteFile :=
  match inspectFile files place with
  | none => .error "ファイルが存在しません"
  | some file => .ok file

section Planned

variable {parseUploadDate : String → Option Int} {db : Database}
  {files : Files StoredFile} {playlistId : Nat} {policy : RetentionPolicy}
  {maxDeletePerRun today : Int} {plan : RetentionPlan}

/-- The candidates of a deletable plan match their rows and have identities. -/
theorem planned_candidates
    (planned : buildRetentionPlan fingerprint parseUploadDate db playlistId
      policy maxDeletePerRun today (some (inspectStored files)) = .ok plan)
    (deletable : plan.deletable = true) :
    plan.playlistId = playlistId ∧
      ∀ candidate ∈ plan.candidates,
        rowsMatch fingerprint db candidate = true ∧
          candidate.fileIdentity.isSome = true := by
  rw [buildRetentionPlan] at planned
  split at planned
  · cases planned
  · split at planned
    · cases planned
    · dsimp only at planned
      split at planned
      · cases planned
        refine ⟨rfl, ?_⟩
        intro candidate impossible
        cases impossible
      · cases planned
        refine ⟨rfl, ?_⟩
        intro candidate member
        rw [RetentionPlan.deletable, Bool.and_eq_true,
          List.isEmpty_iff, List.append_eq_nil_iff,
          List.append_eq_nil_iff] at deletable
        rcases List.mem_filterMap.mp member with ⟨row, isSelected, isCandidate⟩
        have noReason : blockedReason db (some (inspectStored files)) row =
            none := by
          have reasons := deletable.2.1.1
          rw [List.filterMap_eq_nil_iff] at reasons
          exact reasons row isSelected
        rcases List.mem_filter.mp isSelected with ⟨isRow, selected⟩
        rw [Bool.and_eq_true, beq_iff_eq] at selected
        rcases List.mem_filterMap.mp isRow with ⟨entry, isEntry, joined⟩
        rcases Option.map_eq_some_iff.mp isCandidate with
          ⟨storage, foundStorage, rfl⟩
        rcases planRow_columns joined with ⟨sameId, sameRow, foundTarget⟩
        rw [← Table.get_eq_some_iff, ← sameId, ← sameRow] at isEntry
        rw [← sameRow] at foundTarget
        constructor
        · refine (rowsMatch_iff _ _ _).mpr
            ⟨row.artifact, row.target, storage, isEntry, foundTarget,
              foundStorage, ?_, selected.2, ?_⟩
          · simp [candidateMatches]
          · simp [relatedRowsMatch, selected.2]
        · rw [blockedReason, foundStorage] at noReason
          dsimp only at noReason
          split at noReason
          · next identity examined =>
              rw [examineFile] at examined
              split at examined
              · cases examined
              · next inspected =>
                  simp [fileIdentity, inspected, Except.toOption]
          · cases noReason

theorem start_planned
    (planned : buildRetentionPlan fingerprint parseUploadDate db playlistId
      policy maxDeletePerRun today (some (inspectStored files)) = .ok plan)
    (deletable : plan.deletable = true)
    (nonempty : plan.candidates ≠ [])
    (idle : playlistSyncIsActive db playlistId = false)
    (logs : List (List AuditRecord)) (logPath : String) (now : Time) :
    ∃ first,
      start fingerprint db files logs plan logPath now = .ok first := by
  rcases planned_candidates planned deletable with ⟨samePlaylist, candidates⟩
  rw [start, if_neg (not_not_intro deletable), if_neg (by simpa using nonempty),
    if_neg, if_neg (by rw [samePlaylist, idle]; exact Bool.false_ne_true),
    if_pos]
  · exact ⟨_, rfl⟩
  · rw [List.all_eq_true]
    exact fun candidate member => (candidates candidate member).1
  · rw [List.any_eq_true]
    rintro ⟨candidate, member, unidentified⟩
    have identified := (candidates candidate member).2
    rw [Option.isNone_iff_eq_none] at unidentified
    rw [unidentified] at identified
    cases identified

/-! ## The main result -/

/--
A deletable plan of the current database, executed without anything else
changing and without a failing adapter operation, runs to completion if and
only if it has candidates and no two of them belong to one Target.
-/
theorem execute_completes_iff
    (planned : buildRetentionPlan fingerprint parseUploadDate db playlistId
      policy maxDeletePerRun today (some (inspectStored files)) = .ok plan)
    (deletable : plan.deletable = true)
    (idle : playlistSyncIsActive db playlistId = false)
    (logs : List (List AuditRecord)) (logPath : String) (now : Time)
    (tick : Nat → String × Time)
    (adapterSucceeds : ∀ first,
      start fingerprint db files logs plan logPath now = .ok first →
      (executeRetention fingerprint tick first).outcome ≠
        some (.failed .adapter)) :
    (∃ first,
      start fingerprint db files logs plan logPath now = .ok first ∧
      Completed plan (executeRetention fingerprint tick first)) ↔
    plan.candidates ≠ [] ∧
      (plan.candidates.map RetentionCandidate.targetId).Nodup := by
  constructor
  · rintro ⟨first, isStart, -, deleted⟩
    have started := started_of_start isStart
    refine ⟨started.nonempty, ?_⟩
    have progressed : Progressed first
        (executeRetention fingerprint tick first) :=
      progressed_drive tick _ started.progressed
    have noneRemains : ∀ candidate,
        candidate ∉ (executeRetention fingerprint tick first).remaining := by
      intro candidate member
      have artifact := started.artifact_eq progressed member
      have isCandidate : candidate ∈ plan.candidates := by
        rw [← started.remaining, ← progressed.candidates]
        exact List.mem_append_right _ member
      apply artifact.2
      rw [← artifact.1]
      exact (deleted candidate isCandidate).2.1
    rw [← started.remaining, ← progressed.candidates, List.eq_nil_iff_forall_not_mem.mpr noneRemains,
      List.append_nil]
    exact progressed.targets
  · rintro ⟨nonempty, targets⟩
    rcases start_planned planned deletable nonempty idle logs logPath now with
      ⟨first, isStart⟩
    have started := started_of_start isStart
    have progressed : Progressed first
        (executeRetention fingerprint tick first) :=
      progressed_drive tick _ started.progressed
    have onlyAdapter := onlyAdapterFails_drive tick
      (5 * first.remaining.length + 1) started targets
    refine ⟨first, isStart, ?_⟩
    cases outcome : (executeRetention fingerprint tick first).outcome with
    | none =>
        exact absurd outcome (drive_ends tick _ started.progressed
          (Nat.sub_le _ _))
    | some ending =>
        cases ending with
        | succeeded => exact (completed_of_succeeded started progressed outcome).2
        | failed failure =>
            have isAdapter := onlyAdapter failure outcome
            rw [isAdapter] at outcome
            exact absurd outcome (adapterSucceeds first isStart)

end Planned

/-- The plan for Artifacts of items from before 2024, all files being there. -/
def planBefore (db : Database) : Except String RetentionPlan :=
  buildRetentionPlan (fun _ _ => "config")
    (fun date => if date = "20240101" then some 0 else none) db 1
    { enabled := true, maxAgeDays := some 30 } 20 100
    (some (inspectStored everyFile))

/-- Every operation takes place at this time. -/
def steadyTick (_ : Nat) : String × Time := ("quarantine", 1)

theorem execute_completes_iff_twoFiles :
    ∃ plan, planBefore twoFiles = .ok plan ∧ plan.deletable = true ∧
      ((∃ first, start (fun _ _ => "config") twoFiles everyFile [] plan
          "retention.log" 0 = .ok first ∧
        Completed plan
          (executeRetention (fun _ _ => "config") steadyTick first)) ↔
        plan.candidates ≠ [] ∧
          (plan.candidates.map RetentionCandidate.targetId).Nodup) := by
  refine ⟨_, rfl, rfl, ?_⟩
  refine @execute_completes_iff (fun _ _ => "config")
    (fun date => if date = "20240101" then some 0 else none) twoFiles
    everyFile 1 { enabled := true, maxAgeDays := some 30 } 20 100 _ rfl rfl
    rfl [] "retention.log" 0 steadyTick ?_
  intro first isStart
  cases isStart
  intro impossible
  cases impossible

/-- The old file's Target has a second Artifact. -/
def sharedTarget : Database :=
  { twoFiles with
    artifact :=
      ((twoFiles.artifact.insert
        { targetId := 1, storageId := 1, relativePath := "old.mkv" }).insert
        { targetId := 2, storageId := 1, relativePath := "new.mkv" }) }

/-- The second candidate of the Target is refused, and the Run fails. -/
theorem execute_fails_sharedTarget :
    ∃ plan first, planBefore sharedTarget = .ok plan ∧
      plan.deletable = true ∧
      plan.candidates.map RetentionCandidate.artifactId = [1, 3] ∧
      start (fun _ _ => "config") sharedTarget everyFile [] plan
        "retention.log" 0 = .ok first ∧
      (executeRetention (fun _ _ => "config") steadyTick first).outcome =
        some (.failed .changedBeforeDeletion) ∧
      ¬ Completed plan
        (executeRetention (fun _ _ => "config") steadyTick first) := by
  refine ⟨_, _, rfl, rfl, rfl, rfl, rfl, ?_⟩
  rintro ⟨⟨run, foundRun, succeeded⟩, -⟩
  cases foundRun
  cases succeeded

end Sluicery.Core.Retention
