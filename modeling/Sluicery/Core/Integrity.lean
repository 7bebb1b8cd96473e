import Sluicery.Db.Models

/-!
# Integrity checks

The part of `check_integrity` after the storages were looked at: the decision
for each Artifact is applied when neither its row nor its Target has changed,
and every affected Target takes the status its Artifacts call for.  Then the
three explicit actions on missing files.  No function here touches a file.
-/

namespace Sluicery.Core.Integrity

open Sluicery.Library Sluicery.Db

/-! ## Decisions -/

/-- `_ArtifactSnapshot`. -/
structure ArtifactSnapshot where
  artifactId : Nat
  targetId : Nat
  storageId : Nat
  relativePath : String
  sourceId : String
  artifactUpdatedAt : Time
  targetStatus : TargetStatus
  targetUpdatedAt : Time

/-- `_Decision`. -/
inductive Decision where
  | present
  | relink (relativePath : String)
  | missing (issueKind : String) (candidates : List String)

/-- `IntegrityIssue`. -/
structure IntegrityIssue where
  artifactId : Nat
  targetId : Nat
  storageId : Nat
  kind : String
  candidates : List String := []

/-- `IntegrityReport`. -/
structure IntegrityReport where
  checked : Nat := 0
  present : Nat := 0
  relinked : Nat := 0
  missing : Nat := 0
  restored : Nat := 0
  rescannedStorages : Nat := 0
  issues : List IntegrityIssue := []

/-! ## Applying them -/

/-- The database, the report and `affected_target_ids`. -/
structure Progress where
  db : Database
  report : IntegrityReport := {}
  affectedTargetIds : List Nat := []

/-- The Artifact and its Target are as in the snapshot. -/
def isCurrent (db : Database) (snapshot : ArtifactSnapshot) : Bool :=
  match db.artifact.get snapshot.artifactId,
      db.target.get snapshot.targetId with
  | some artifact, some target =>
      artifact.relativePath == snapshot.relativePath &&
        artifact.updatedAt == snapshot.artifactUpdatedAt &&
        target.status == snapshot.targetStatus &&
        target.updatedAt == snapshot.targetUpdatedAt
  | _, _ => false

/-- Another Artifact of the storage has the path. -/
def isTracked (db : Database) (storageId artifactId : Nat)
    (relativePath : String) : Bool :=
  db.artifact.any fun key row =>
    row.storageId == storageId && row.relativePath == relativePath &&
      key != artifactId

/-- What a decision makes of the row. -/
def decided (checkedAt : Time) (row : ArtifactRow) : Decision → ArtifactRow
  | .relink relativePath =>
      { row with relativePath, absolutePathCache := none,
                 missingSince := none }
  | .missing .. =>
      { row with missingSince := some (row.missingSince.getD checkedAt) }
  | .present => { row with missingSince := none }

/-- What a decision adds to the report. -/
def reported (report : IntegrityReport) (snapshot : ArtifactSnapshot) :
    Decision → IntegrityReport
  | .relink _ => { report with relinked := report.relinked + 1 }
  | .missing kind candidates =>
      { report with
        missing := report.missing + 1
        issues := report.issues ++
          [{ artifactId := snapshot.artifactId
             targetId := snapshot.targetId
             storageId := snapshot.storageId
             kind
             candidates }] }
  | .present => { report with present := report.present + 1 }

/-- One round of the loop over `revalidated_decisions`. -/
def applyDecision (checkedAt now : Time) (progress : Progress)
    (entry : ArtifactSnapshot × Decision) : Progress :=
  let snapshot := entry.1
  let accepted : Bool :=
    match entry.2 with
    | .relink relativePath =>
        !isTracked progress.db snapshot.storageId snapshot.artifactId
          relativePath
    | _ => true
  if isCurrent progress.db snapshot && accepted then
    { db := { progress.db with
        artifact := progress.db.artifact.modify snapshot.artifactId
          (touchArtifact now fun row => decided checkedAt row entry.2) }
      report := reported progress.report snapshot entry.2
      affectedTargetIds := snapshot.targetId :: progress.affectedTargetIds }
  else progress

/-- The status of a Target without its file, by the policy of the Playlist. -/
def missingStatus : MissingPolicy → TargetStatus
  | .redownload => .pending
  | .ignore => .ignored
  | .leave => .missing

/-- An Artifact of the Target is marked missing. -/
def hasMissing (db : Database) (targetId : Nat) : Bool :=
  db.artifact.any fun _ row =>
    row.targetId == targetId && row.missingSince.isSome

/-- `loaded_target.status = status`. -/
def setStatus (db : Database) (targetId : Nat) (status : TargetStatus)
    (now : Time) : Database :=
  { db with
    target := db.target.modify targetId
      (touchTarget now fun row => { row with status }) }

/-- One round of the loop over `affected_target_ids`. -/
def settleTarget (now : Time) (progress : Progress) (targetId : Nat) :
    Progress :=
  match progress.db.target.get targetId with
  | none => progress
  | some target =>
      if hasMissing progress.db targetId ∧ target.status = .downloaded then
        match (progress.db.item.get target.itemId).bind
            fun item => progress.db.playlist.get item.playlistId with
        | none => progress
        | some playlist =>
            { progress with
              db := setStatus progress.db targetId
                (missingStatus playlist.missingPolicy) now }
      else if ¬ hasMissing progress.db targetId ∧
          target.status = .missing then
        { progress with
          db := setStatus progress.db targetId .downloaded now
          report := { progress.report with
            restored := progress.report.restored + 1 } }
      else progress

/-- The transaction of `check_integrity` which applies the decisions. -/
def applyDecisions (db : Database) (report : IntegrityReport)
    (decisions : List (ArtifactSnapshot × Decision))
    (checkedAt now : Time) : Progress :=
  let applied := decisions.foldl (applyDecision checkedAt now) { db, report }
  applied.affectedTargetIds.dedup.foldl (settleTarget now) applied

/-! ## Explicit actions -/

/-- `set_missing_action`. -/
def setMissingAction (db : Database) (targetId : Nat)
    (action : MissingPolicy) (now : Time) :
    Except String (TargetStatus × Database) :=
  match db.target.get targetId with
  | none =>
      .error ("Target " ++ toString targetId ++ " が見つかりません")
  | some _ =>
      if hasMissing db targetId then
        let status := missingStatus action
        .ok (status, { db with
          target := db.target.modify targetId (touchTarget now fun row =>
            { row with status, lastError := none, blockedReason := none }) })
      else .error "実体不在のArtifactがありません"

/-- The unique key of another Artifact. -/
def violatesUnique (db : Database) (artifactId : Nat)
    (changed : ArtifactRow) : Bool :=
  db.artifact.any fun key row =>
    key != artifactId && row.targetId == changed.targetId &&
      row.role == changed.role && row.storageId == changed.storageId &&
      row.relativePath == changed.relativePath

/-- `manual_link`, for a normalised candidate path. -/
def manualLink (db : Database) (artifactId : Nat) (normalized : String)
    (existsInStorage : Bool) (now : Time) : Except String Database :=
  match db.artifact.get artifactId with
  | none =>
      .error ("Artifact " ++ toString artifactId ++ " が見つかりません")
  | some artifact =>
      if artifact.missingSince.isNone then
        .error "missingではないArtifactは手動リンクできません"
      else if isTracked db artifact.storageId artifactId normalized then
        .error "選択したファイルは別のArtifactが追跡中です"
      else if ¬ existsInStorage then
        .error "選択したファイルがStorageに存在しません"
      else
        let linked := { db with
          artifact := db.artifact.modify artifactId (touchArtifact now
            fun row =>
              { row with
                manualLinkPreviousPath := some row.relativePath
                manualLinkedAt := some now
                relativePath := normalized
                absolutePathCache := none
                missingSince := none }) }
        .ok (if hasMissing linked artifact.targetId then linked
          else setStatus linked artifact.targetId .downloaded now)

/-- `undo_manual_link`; the unique key is checked at its flush. -/
def undoManualLink (db : Database) (artifactId : Nat) (now : Time) :
    Except String Database :=
  match db.artifact.get artifactId with
  | none =>
      .error ("Artifact " ++ toString artifactId ++ " が見つかりません")
  | some artifact =>
      match artifact.manualLinkPreviousPath with
      | none => .error "取り消せる手動リンクがありません"
      | some previous =>
          let undone := { artifact with
            relativePath := previous
            absolutePathCache := none
            manualLinkPreviousPath := none
            manualLinkedAt := none
            missingSince := some now }
          if violatesUnique db artifactId undone then
            .error "UNIQUE constraint failed"
          else
            .ok (setStatus { db with
              artifact := db.artifact.modify artifactId
                (touchArtifact now fun _ => undone) }
              artifact.targetId .missing now)

end Sluicery.Core.Integrity
