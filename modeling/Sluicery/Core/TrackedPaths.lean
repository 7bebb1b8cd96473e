import Sluicery.Core.FolderMoveExecution
import Sluicery.Core.IntegrityScan
import Sluicery.Library.Returning
import Sluicery.Library.UniqueColumn

/-!
# The paths the Artifacts claim

Integrity checks, manual links, their undoing and folder moves rewrite the
path of an Artifact, each from other information.  A check and a link ask
whether another Artifact tracks the new path; an undo does not, and a folder
move only looks at the files.  So the paths stay distinct in every run whose
undos and folder moves meet no path of another Artifact.
-/

namespace Sluicery.Core.TrackedPaths

open Sluicery.Library Sluicery.Library.Transition
open Sluicery.Db Sluicery.Storage

/-- The path an Artifact claims. -/
def location (row : ArtifactRow) : Place :=
  (row.storageId, row.relativePath)

/-- No two Artifacts claim one path. -/
def Distinct (db : Database) : Prop :=
  db.artifact.UniqueBy location

/-- A path is free when no other Artifact tracks it. -/
theorem isTracked_eq_false_iff
    (db : Database) (storageId artifactId : Nat) (relativePath : String) :
    Integrity.isTracked db storageId artifactId relativePath = false ↔
      db.artifact.FreeFor location artifactId (storageId, relativePath) := by
  rw [Integrity.isTracked, Bool.eq_false_iff, ne_eq, Table.any_eq_true_iff]
  constructor
  · intro untracked other row found same
    by_contra notKey
    apply untracked
    simp only [location, Prod.mk.injEq] at same
    exact ⟨other, row, found, by simp [same.1, same.2, notKey]⟩
  · rintro free ⟨other, row, found, tracks⟩
    simp only [Bool.and_eq_true, beq_iff_eq, bne_iff_ne, ne_eq] at tracks
    exact tracks.2 (free other row found (by simp [location, tracks.1]))

theorem location_touchArtifact
    (now : Time) (change : ArtifactRow → ArtifactRow) (row : ArtifactRow) :
    location (touchArtifact now change row) = location (change row) :=
  column_touchArtifact location (fun _ _ => rfl) now change row

/-! ## Integrity checks -/

/-- While decisions are applied the Artifacts keep their storages. -/
structure Kept (before : Database) (progress : Integrity.Progress) :
    Prop where
  distinct : Distinct progress.db
  storages : ∀ key row, progress.db.artifact.get key = some row →
    ∃ old, before.artifact.get key = some old ∧
      row.storageId = old.storageId

theorem storageId_decided
    (checkedAt : Time) (row : ArtifactRow) (decision : Integrity.Decision) :
    (Integrity.decided checkedAt row decision).storageId = row.storageId := by
  cases decision with
  | present => rfl
  | relink relativePath => rfl
  | missing kind candidates => rfl

/-- A round changes nothing, or the row of the snapshot as decided. -/
theorem artifact_applyDecision
    (checkedAt now : Time) (progress : Integrity.Progress)
    (row : Integrity.ArtifactSnapshot) (decision : Integrity.Decision) :
    Integrity.applyDecision checkedAt now progress (row, decision) =
        progress ∨
      (Integrity.applyDecision checkedAt now progress
          (row, decision)).db.artifact =
        progress.db.artifact.modify row.artifactId
          (touchArtifact now fun current =>
            Integrity.decided checkedAt current decision) ∧
      ∀ relativePath, decision = .relink relativePath →
        Integrity.isTracked progress.db row.storageId row.artifactId
          relativePath = false := by
  cases decision with
  | present =>
      simp only [Integrity.applyDecision]
      split
      · exact Or.inr ⟨rfl, by simp⟩
      · exact Or.inl rfl
  | missing kind candidates =>
      simp only [Integrity.applyDecision]
      split
      · exact Or.inr ⟨rfl, by simp⟩
      · exact Or.inl rfl
  | relink relativePath =>
      simp only [Integrity.applyDecision]
      split
      · next accepted =>
          right
          constructor
          · rfl
          · rintro _ ⟨⟩
            simp only [Bool.and_eq_true, Bool.not_eq_true'] at accepted
            exact accepted.2
      · exact Or.inl rfl

/-- A decision changes a path only to one which nothing tracks. -/
theorem Kept.applyDecision
    {before : Database} {progress : Integrity.Progress}
    {checkedAt now : Time}
    {entry : Integrity.ArtifactSnapshot × Integrity.Decision}
    (kept : Kept before progress)
    (snapshot : Integrity.IsSnapshotOf before entry.1) :
    Kept before (Integrity.applyDecision checkedAt now progress entry) := by
  rcases entry with ⟨row, decision⟩
  rcases artifact_applyDecision checkedAt now progress row decision with
    unchanged | ⟨changed, untracked⟩
  · rw [unchanged]
    exact kept
  · constructor
    · rw [Distinct, changed]
      apply Table.UniqueBy.modify kept.distinct
      intro current found
      have own := kept.distinct.freeFor found
      rw [location_touchArtifact]
      cases decision with
      | present => exact own
      | missing kind candidates => exact own
      | relink relativePath =>
          rcases kept.storages _ _ found with ⟨old, foundOld, sameStorage⟩
          rcases snapshot with ⟨artifact, foundFirst, storage, -, -⟩
          rw [foundOld, Option.some.injEq] at foundFirst
          subst foundFirst
          have free := untracked relativePath rfl
          rw [isTracked_eq_false_iff, storage, ← sameStorage] at free
          exact free
    · intro key altered found
      rw [changed, Table.get_modify] at found
      split at found
      · rcases Option.map_eq_some_iff.mp found with ⟨current, foundHere, rfl⟩
        rcases kept.storages _ _ foundHere with ⟨old, foundOld, sameStorage⟩
        refine ⟨old, foundOld, ?_⟩
        rw [column_touchArtifact ArtifactRow.storageId fun _ _ => rfl,
          storageId_decided, sameStorage]
      · exact kept.storages key altered found

theorem Kept.applyAll
    {before : Database} {checkedAt now : Time}
    {entries : List (Integrity.ArtifactSnapshot × Integrity.Decision)}
    (snapshots : ∀ entry ∈ entries, Integrity.IsSnapshotOf before entry.1)
    {progress : Integrity.Progress} (kept : Kept before progress) :
    Kept before
      (entries.foldl (Integrity.applyDecision checkedAt now) progress) := by
  induction entries generalizing progress with
  | nil => exact kept
  | cons entry rest induction =>
      apply induction
      · exact fun later member =>
          snapshots later (List.mem_cons_of_mem _ member)
      · exact kept.applyDecision (snapshots entry List.mem_cons_self)

/-- The Targets are settled without a change to the Artifacts. -/
theorem artifact_settleTarget
    (now : Time) (progress : Integrity.Progress) (targetId : Nat) :
    (Integrity.settleTarget now progress targetId).db.artifact =
      progress.db.artifact := by
  rw [Integrity.settleTarget]
  split
  · rfl
  · split
    · split
      · rfl
      · rfl
    · split
      · rfl
      · rfl

theorem artifact_settleTargets
    (now : Time) (targetIds : List Nat) (progress : Integrity.Progress) :
    (targetIds.foldl (Integrity.settleTarget now) progress).db.artifact =
      progress.db.artifact := by
  induction targetIds generalizing progress with
  | nil => rfl
  | cons targetId rest induction =>
      rw [List.foldl_cons, induction, artifact_settleTarget]

/-- A check keeps the paths distinct, whatever the adapters answer. -/
theorem distinct_checkIntegrity
    {db : Database} (distinct : Distinct db) {answers : Integrity.Answers}
    {storageId playlistId : Option Nat}
    {rescanTimeoutSec maxCandidates : Int} {checkedAt now : Time}
    {progress : Integrity.Progress}
    (checked : Integrity.checkIntegrity db answers storageId playlistId
      rescanTimeoutSec maxCandidates checkedAt now = .ok progress) :
    Distinct progress.db := by
  rw [Integrity.checkIntegrity] at checked
  split at checked
  · cases checked
  · split at checked
    · cases checked
    · rw [Except.ok.injEq] at checked
      subst checked
      rw [Distinct, Integrity.applyDecisions, artifact_settleTargets]
      have kept : Kept db
          { db
            report := (Integrity.scan db answers storageId playlistId
              maxCandidates.toNat).1 } :=
        ⟨distinct, fun key row found => ⟨row, found, rfl⟩⟩
      exact (kept.applyAll fun entry member =>
        Integrity.isSnapshotOf_of_mem_scan member).distinct

/-! ## Explicit links -/

theorem artifact_setStatus
    (db : Database) (targetId : Nat) (status : TargetStatus) (now : Time) :
    (Integrity.setStatus db targetId status now).artifact = db.artifact :=
  rfl

/-- A link is refused when the path is tracked. -/
theorem distinct_manualLink
    {db next : Database} (distinct : Distinct db) {artifactId : Nat}
    {normalized : String} {existsInStorage : Bool} {now : Time}
    (linked : Integrity.manualLink db artifactId normalized existsInStorage
      now = .ok next) :
    Distinct next := by
  rw [Integrity.manualLink] at linked
  split at linked
  · cases linked
  · next artifact found =>
      split at linked
      · cases linked
      · split at linked
        · cases linked
        · next untracked =>
            split at linked
            · cases linked
            · have moved : Distinct { db with
                  artifact := db.artifact.modify artifactId
                    (touchArtifact now fun row =>
                      { row with
                        manualLinkPreviousPath := some row.relativePath
                        manualLinkedAt := some now
                        relativePath := normalized
                        absolutePathCache := none
                        missingSince := none }) } := by
                apply Table.UniqueBy.modify distinct
                intro row foundRow
                rw [found, Option.some.injEq] at foundRow
                subst foundRow
                rw [location_touchArtifact]
                rw [Bool.not_eq_true, isTracked_eq_false_iff] at untracked
                exact untracked
              rw [Except.ok.injEq] at linked
              subst linked
              split
              · exact moved
              · exact moved

/-- The path an undo returns the Artifact to is free. -/
def UndoIsFree (db : Database) (artifactId : Nat) : Prop :=
  ∀ artifact previous, db.artifact.get artifactId = some artifact →
    artifact.manualLinkPreviousPath = some previous →
      Integrity.isTracked db artifact.storageId artifactId previous = false

/-- An undo keeps the paths distinct exactly when the old path is free. -/
theorem distinct_undoManualLink_iff
    {db next : Database} (distinct : Distinct db) {artifactId : Nat}
    {now : Time}
    (undone : Integrity.undoManualLink db artifactId now = .ok next) :
    Distinct next ↔ UndoIsFree db artifactId := by
  rw [Integrity.undoManualLink] at undone
  split at undone
  · cases undone
  · next artifact found =>
      split at undone
      · cases undone
      · next previous isPrevious =>
          dsimp only at undone
          split at undone
          · cases undone
          · rw [Except.ok.injEq] at undone
            subst undone
            rw [Distinct, artifact_setStatus]
            constructor
            · intro after other earlier foundOther isEarlier
              rw [found, Option.some.injEq] at foundOther
              subst foundOther
              rw [isPrevious, Option.some.injEq] at isEarlier
              subst isEarlier
              rw [isTracked_eq_false_iff]
              by_contra taken
              refine Table.not_uniqueBy_modify found ?_ after
              rw [location_touchArtifact]
              exact taken
            · intro free
              apply Table.UniqueBy.modify distinct
              intro row foundRow
              rw [location_touchArtifact]
              have untracked := free artifact previous found isPrevious
              rw [isTracked_eq_false_iff] at untracked
              exact untracked

/-! ## Folder moves -/

section System

-- `sanitize_component`, `resolve_subpath` and `_storage_fingerprint`.
variable (sanitizeComponent : String → Except String String)
  (resolveSubpath : (subpath playlistName folderName profileName : String) →
    ProfileKind → Except String String)
  (fingerprint : StorageKind → Option Json.Fields → String)

/-- No Artifact outside the plan tracks a destination. -/
def DestinationsFree (db : Database) (plan : FolderMove.FolderMovePlan) :
    Prop :=
  ∀ candidate ∈ plan.candidates, ∀ other row,
    db.artifact.get other = some row →
      location row = candidate.destination →
        ∃ candidate ∈ plan.candidates, candidate.artifactId = other

/-- The destinations of a plan are distinct, and so are its Artifacts. -/
structure WellPlanned (plan : FolderMove.FolderMovePlan) : Prop where
  destinations :
    (plan.candidates.map fun candidate => candidate.destination).Nodup
  artifactIds :
    (plan.candidates.map fun candidate => candidate.artifactId).Nodup

/-- Each candidate's Artifact is at its destination. -/
theorem location_of_relocated
    {before after : Database} {plan : FolderMove.FolderMovePlan}
    (wellPlanned : WellPlanned plan)
    (relocated : FolderMove.Relocated before.artifact after.artifact
      plan.candidates)
    {candidate : FolderMove.FolderMoveCandidate}
    (member : candidate ∈ plan.candidates) :
    ∃ row, after.artifact.get candidate.artifactId = some row ∧
      location row = candidate.destination := by
  rcases relocated.moved candidate member with
    ⟨other, otherMember, sameId, row, found, storage, path⟩
  have isCandidate : other = candidate :=
    List.inj_on_of_nodup_map wellPlanned.artifactIds otherMember member
      sameId
  subst isCandidate
  exact ⟨row, found, Prod.ext storage path⟩

/-- A completed move keeps the paths distinct if the destinations are free. -/
theorem distinct_relocated
    {before after : Database} (distinct : Distinct before)
    {plan : FolderMove.FolderMovePlan} (wellPlanned : WellPlanned plan)
    (relocated : FolderMove.Relocated before.artifact after.artifact
      plan.candidates)
    (free : DestinationsFree before plan) :
    Distinct after := by
  -- Where the Artifact of a candidate is, the candidate has sent it.
  have sent : ∀ key row, after.artifact.get key = some row →
      (∃ candidate ∈ plan.candidates, candidate.artifactId = key) →
        ∃ candidate ∈ plan.candidates, candidate.artifactId = key ∧
          location row = candidate.destination := by
    rintro key row found ⟨candidate, member, rfl⟩
    rcases location_of_relocated wellPlanned relocated member with
      ⟨sentRow, foundSent, place⟩
    rw [found, Option.some.injEq] at foundSent
    subst foundSent
    exact ⟨candidate, member, rfl, place⟩
  apply Table.UniqueBy.relocate distinct
    fun key => ∃ candidate ∈ plan.candidates, candidate.artifactId = key
  · intro key row found outside
    rw [relocated.kept key fun candidate member same =>
      outside ⟨candidate, member, same⟩] at found
    exact ⟨row, found, rfl⟩
  · intro left right leftRow rightRow leftMoved rightMoved foundLeft
      foundRight same
    rcases sent left leftRow foundLeft leftMoved with
      ⟨first, firstMember, rfl, firstPlace⟩
    rcases sent right rightRow foundRight rightMoved with
      ⟨second, secondMember, rfl, secondPlace⟩
    have sameCandidate : first = second :=
      List.inj_on_of_nodup_map wellPlanned.destinations firstMember
        secondMember
        (firstPlace.symm.trans (same.trans secondPlace))
    rw [sameCandidate]
  · intro key row other old moved found foundOld same
    rcases sent key row found moved with
      ⟨candidate, member, -, place⟩
    exact free candidate member other old foundOld (same.trans place)

/-- A move to a path which another Artifact keeps makes two claim it. -/
theorem destinationsFree_of_distinct
    {before after : Database} {plan : FolderMove.FolderMovePlan}
    (wellPlanned : WellPlanned plan)
    (relocated : FolderMove.Relocated before.artifact after.artifact
      plan.candidates)
    (distinct : Distinct after) :
    DestinationsFree before plan := by
  intro candidate member other row found atDestination
  by_contra outside
  have untouched : after.artifact.get other = some row := by
    rw [relocated.kept other fun candidate member same =>
      outside ⟨candidate, member, same⟩]
    exact found
  rcases location_of_relocated wellPlanned relocated member with
    ⟨sentRow, foundSent, place⟩
  have sameArtifact : candidate.artifactId = other :=
    distinct _ _ sentRow row foundSent untouched
      (place.trans atDestination.symm)
  exact outside ⟨candidate, member, sameArtifact⟩

/-! ## Runs -/

/-- The operations which rewrite paths. -/
inductive Event where
  | checkIntegrity (answers : Integrity.Answers)
      (storageId playlistId : Option Nat)
      (rescanTimeoutSec maxCandidates : Int) (checkedAt now : Time)
  | manualLink (artifactId : Nat) (normalized : String)
      (existsInStorage : Bool) (now : Time)
  | undoManualLink (artifactId : Nat) (now : Time)
  /-- A plan made on an earlier database is executed to its end. -/
  | folderMove (planned : Database) (seen : Files StoredFile)
      (playlistId : Nat) (newFolderName : String)
      (files : Files StoredFile) (now : Time)
      (events : List FolderMove.Event)

/-- The plan of a folder move. -/
def planOf (planned : Database) (seen : Files StoredFile) (playlistId : Nat)
    (newFolderName : String) : Option FolderMove.FolderMovePlan :=
  (FolderMove.buildFolderMovePlan sanitizeComponent resolveSubpath
    fingerprint planned playlistId newFolderName (some seen)).toOption

/-- The database after a completed folder move. -/
def completeFolderMove (db : Database) (plan : FolderMove.FolderMovePlan)
    (files : Files StoredFile) (now : Time)
    (events : List FolderMove.Event) : Option Database :=
  (FolderMove.start fingerprint db files plan now).toOption.bind
    fun execution =>
      (Transition.run (FolderMove.step fingerprint) execution events).bind
        fun finish =>
          if finish.outcome = some .succeeded then some finish.db else none

/-- An operation which is not refused. -/
def step (db : Database) : Event → Option Database
  | .checkIntegrity answers storageId playlistId rescanTimeoutSec
      maxCandidates checkedAt now =>
      (Integrity.checkIntegrity db answers storageId playlistId
        rescanTimeoutSec maxCandidates checkedAt now).toOption.map
          fun progress => progress.db
  | .manualLink artifactId normalized existsInStorage now =>
      (Integrity.manualLink db artifactId normalized existsInStorage
        now).toOption
  | .undoManualLink artifactId now =>
      (Integrity.undoManualLink db artifactId now).toOption
  | .folderMove planned seen playlistId newFolderName files now events =>
      (planOf sanitizeComponent resolveSubpath fingerprint planned seen
        playlistId newFolderName).bind fun plan =>
          completeFolderMove fingerprint db plan files now events

/-- No undo and no folder move meets a path which another Artifact tracks. -/
def KeepsApart (db : Database) : Event → Prop
  | .undoManualLink artifactId _ => UndoIsFree db artifactId
  | .folderMove planned seen playlistId newFolderName _ _ _ =>
      ∀ plan, planOf sanitizeComponent resolveSubpath fingerprint planned
        seen playlistId newFolderName = some plan → DestinationsFree db plan
  | _ => True

theorem wellPlanned_planOf
    {planned : Database} {seen : Files StoredFile} {playlistId : Nat}
    {newFolderName : String} {plan : FolderMove.FolderMovePlan}
    (isPlan : planOf sanitizeComponent resolveSubpath fingerprint planned
      seen playlistId newFolderName = some plan) :
    WellPlanned plan where
  destinations :=
    FolderMove.destinations_distinct sanitizeComponent resolveSubpath
      fingerprint (ok_of_toOption isPlan)
  artifactIds :=
    FolderMove.artifactIds_distinct sanitizeComponent resolveSubpath
      fingerprint (ok_of_toOption isPlan)

/-- A completed folder move has moved the candidates and nothing else. -/
theorem relocated_completeFolderMove
    {db next : Database} {plan : FolderMove.FolderMovePlan}
    {files : Files StoredFile} {now : Time}
    {events : List FolderMove.Event}
    (completed :
      completeFolderMove fingerprint db plan files now events = some next) :
    FolderMove.Relocated db.artifact next.artifact plan.candidates := by
  rcases Option.bind_eq_some_iff.mp completed with
    ⟨execution, started, afterStart⟩
  rcases Option.bind_eq_some_iff.mp afterStart with
    ⟨finish, executed, ended⟩
  split at ended
  · next succeeded =>
      rw [Option.some.injEq] at ended
      subst ended
      exact FolderMove.relocated_of_completed fingerprint
        (ok_of_toOption started) (Steps.of_run events executed) succeeded
  · cases ended

/-- An operation keeps the paths distinct exactly under the condition. -/
theorem distinct_step_iff
    {db next : Database} {event : Event} (distinct : Distinct db)
    (taken : step sanitizeComponent resolveSubpath fingerprint db event =
      some next) :
    Distinct next ↔
      KeepsApart sanitizeComponent resolveSubpath fingerprint db event := by
  cases event with
  | checkIntegrity answers storageId playlistId rescanTimeoutSec
      maxCandidates checkedAt now =>
      rcases Option.map_eq_some_iff.mp taken with ⟨progress, checked, rfl⟩
      exact iff_of_true
        (distinct_checkIntegrity distinct (ok_of_toOption checked))
        trivial
  | manualLink artifactId normalized existsInStorage now =>
      exact iff_of_true
        (distinct_manualLink distinct (ok_of_toOption taken)) trivial
  | undoManualLink artifactId now =>
      exact distinct_undoManualLink_iff distinct (ok_of_toOption taken)
  | folderMove planned seen playlistId newFolderName files now events =>
      rcases Option.bind_eq_some_iff.mp taken with ⟨plan, isPlan, completed⟩
      have relocated := relocated_completeFolderMove fingerprint completed
      have wellPlanned :=
        wellPlanned_planOf sanitizeComponent resolveSubpath fingerprint
          isPlan
      constructor
      · intro after other isOther
        rw [isPlan, Option.some.injEq] at isOther
        subst isOther
        exact destinationsFree_of_distinct wellPlanned relocated after
      · intro apart
        exact distinct_relocated distinct wellPlanned relocated
          (apart plan isPlan)

/-- Tracked paths stay distinct in every run which meets the condition. -/
theorem tracked_paths_distinct
    {db next : Database} (distinct : Distinct db)
    (steps : Steps (step sanitizeComponent resolveSubpath fingerprint)
      (KeepsApart sanitizeComponent resolveSubpath fingerprint) db next) :
    Distinct next :=
  steps.invariant Distinct distinct
    fun _ _ _ before apart taken =>
      (distinct_step_iff sanitizeComponent resolveSubpath fingerprint before
        taken).mpr apart

end System

/-- Two missing files of one storage, and their Targets. -/
def twoMissing : Database where
  target := (Table.empty.insert
    { itemId := 1, playlistProfileId := 1, status := .missing }).insert
    { itemId := 2, playlistProfileId := 1, status := .missing }
  artifact := (Table.empty.insert
    { targetId := 1, storageId := 1, relativePath := "first.mp4",
      missingSince := some 1 }).insert
    { targetId := 2, storageId := 1, relativePath := "second.mp4",
      missingSince := some 1 }

theorem distinct_twoMissing : Distinct twoMissing :=
  Table.uniqueBy_of_nodup (by decide)

/-- A link which is undone before anything else happens. -/
def undoneLink : List Event :=
  [.manualLink 1 "renamed.mp4" true 2, .undoManualLink 1 3]

theorem tracked_paths_distinct_undoneLink :
    ∃ next, run (step .ok (fun _ _ _ _ _ => .ok "") fun _ _ => "")
        twoMissing undoneLink = some next ∧ Distinct next := by
  refine ⟨_, rfl, ?_⟩
  apply tracked_paths_distinct .ok (fun _ _ _ _ _ => .ok "")
    (fun _ _ => "") distinct_twoMissing
  apply Steps.of_checked_run
    (fun db event => match event with
      | .undoManualLink artifactId _ =>
          (db.artifact.get artifactId).all fun artifact =>
            artifact.manualLinkPreviousPath.all fun previous =>
              !Integrity.isTracked db artifact.storageId artifactId previous
      | .manualLink .. => true
      | _ => false) _ undoneLink rfl
  intro db event passed
  cases event with
  | checkIntegrity => trivial
  | manualLink => trivial
  | undoManualLink artifactId now =>
      intro artifact previous found isPrevious
      simpa [found, isPrevious] using passed
  | folderMove => cases passed

/-- The second Artifact takes the path the first was linked away from. -/
def undoneAfterOtherLink : List Event :=
  [.manualLink 1 "renamed.mp4" true 2, .manualLink 2 "first.mp4" true 3,
    .undoManualLink 1 4]

/-- After the undo both Artifacts claim one path. -/
theorem not_distinct_undoneAfterOtherLink :
    Distinct twoMissing ∧
      ∃ next, run (step .ok (fun _ _ _ _ _ => .ok "") fun _ _ => "")
          twoMissing undoneAfterOtherLink = some next ∧ ¬ Distinct next := by
  refine ⟨distinct_twoMissing, _, rfl, ?_⟩
  intro distinct
  have sameKey := distinct 1 2 _ _ rfl rfl rfl
  cases sameKey

end Sluicery.Core.TrackedPaths
