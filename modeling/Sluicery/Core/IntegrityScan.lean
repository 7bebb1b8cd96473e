import Sluicery.Core.Integrity
import Sluicery.Library.PosixPath
import Mathlib.Data.List.Dedup

/-!
# Looking at the storages

The part of `check_integrity` before its last transaction.  What the adapters
answer is a parameter: the existence of each Artifact's file, the listing of
each storage, and the existence when the decisions are checked again.  A
failed call is an answer of its own and never counts as a missing file.
-/

namespace Sluicery.Core.Integrity

open Sluicery.Library Sluicery.Db

/-! ## Answers -/

/-- What the adapters answer; `none` is an exception. -/
structure Answers where
  /-- `adapter_factory(storage)` returned an adapter. -/
  adapter : Nat → Bool
  /-- `exists` of the Artifact's path. -/
  «exists» : Nat → Option Bool
  /-- The listed paths of a storage, or the reason code of the failure. -/
  listing : Nat → Except String (List String)
  /-- `exists` of the Artifact's path, the second time. -/
  existsAgain : Nat → Option Bool
  /-- `exists` of the path an Artifact would be linked to. -/
  candidateExists : Nat → Option Bool

/-! ## Snapshots -/

/-- The joined row of an Artifact. -/
def snapshotOf (db : Database) (artifactId : Nat) (artifact : ArtifactRow) :
    Option (ArtifactSnapshot × Nat) := do
  let target ← db.target.get artifact.targetId
  let item ← db.item.get target.itemId
  let _ ← db.playlist.get item.playlistId
  let _ ← db.storage.get artifact.storageId
  some
    ({ artifactId
       targetId := artifact.targetId
       storageId := artifact.storageId
       relativePath := artifact.relativePath
       sourceId := item.sourceId
       artifactUpdatedAt := artifact.updatedAt
       targetStatus := target.status
       targetUpdatedAt := target.updatedAt }, item.playlistId)

/-- The selected Artifacts, by key. -/
def snapshots (db : Database) (storageId playlistId : Option Nat) :
    List ArtifactSnapshot :=
  db.artifact.rows.filterMap fun entry =>
    (snapshotOf db entry.1 entry.2).bind fun joined =>
      if storageId.all (· == joined.1.storageId) &&
          playlistId.all (· == joined.2) then some joined.1
      else none

/-- `grouped`: the storages by key, each with its Artifacts. -/
def grouped (db : Database) (rows : List ArtifactSnapshot) :
    List (Nat × List ArtifactSnapshot) :=
  (db.storage.rows.map fun storage =>
    (storage.1, rows.filter fun row => row.storageId == storage.1)).filter
      fun group => !group.2.isEmpty

/-- `tracked_by_storage`. -/
def trackedPaths (db : Database) (storageId : Nat) : List String :=
  (db.artifact.select fun _ row => row.storageId == storageId).map
    fun entry => entry.2.relativePath

/-! ## Candidates -/

/-- One or more extensions, none of them empty. -/
def isExtensions (tail : List Char) : Bool :=
  match (String.ofList tail).splitOn "." with
  | first :: rest =>
      first == "" && !rest.isEmpty &&
        rest.all fun part => part != "" && !part.toList.contains '/'
  | [] => false

/-- `_matches_source_id`: the name ends with the id in brackets and extensions. -/
def matchesSourceId (relativePath sourceId : String) : Bool :=
  let name := (PurePosixPath.ofString relativePath).name.toList
  let marker := "[".toList ++ sourceId.toList ++ "]".toList
  name.tails.any fun suffix =>
    marker.isPrefixOf suffix && isExtensions (suffix.drop marker.length)

/-- The untracked files which carry the source id of a row. -/
def candidatesOf (tracked listed : List String) (row : ArtifactSnapshot) :
    List String :=
  listed.filter fun path =>
    !tracked.contains path && matchesSourceId path row.sourceId

/-- The decision for a row whose file is absent from a listed storage. -/
def decideAbsent (maxCandidates : Nat) (tracked listed : List String)
    (absent : List ArtifactSnapshot) (row : ArtifactSnapshot) : Decision :=
  let claimants := fun candidate =>
    (absent.filter fun other =>
      (candidatesOf tracked listed other).contains candidate).length
  match candidatesOf tracked listed row with
  | [] => .missing "missing" []
  | [candidate] =>
      if claimants candidate = 1 then .relink candidate
      else .missing "shared_candidate" ([candidate].take maxCandidates)
  | candidates =>
      .missing "multiple_candidates" (candidates.take maxCandidates)

/-! ## One storage -/

/-- An issue of a row. -/
def issueOf (row : ArtifactSnapshot) (kind : String) : IntegrityIssue where
  artifactId := row.artifactId
  targetId := row.targetId
  storageId := row.storageId
  kind

/-- The report with an issue for each row. -/
def IntegrityReport.withIssues (report : IntegrityReport)
    (rows : List ArtifactSnapshot) (kind : String) : IntegrityReport :=
  { report with
    issues := report.issues ++ rows.map fun row => issueOf row kind }

/-- The rows asked for up to the first exception, which is asked for, too. -/
def asked (answers : Answers) : List ArtifactSnapshot → Nat
  | [] => 0
  | row :: rest =>
      match answers.exists row.artifactId with
      | none => 1
      | some _ => asked answers rest + 1

/-- The decisions about one storage. -/
def scanStorage (db : Database) (answers : Answers) (maxCandidates : Nat)
    (report : IntegrityReport) (storageId : Nat)
    (rows : List ArtifactSnapshot) :
    IntegrityReport × List (ArtifactSnapshot × Decision) :=
  if !answers.adapter storageId then
    (report.withIssues rows "storage_error", [])
  else
    let counted :=
      { report with checked := report.checked + asked answers rows }
    if rows.any fun row => (answers.exists row.artifactId).isNone then
      (counted.withIssues rows "storage_error", [])
    else
      let absent := rows.filter fun row =>
        answers.exists row.artifactId == some false
      let present := (rows.filter fun row =>
        answers.exists row.artifactId == some true).map
          fun row => (row, Decision.present)
      if absent.isEmpty then (counted, present)
      else
        let rescanned :=
          { counted with
            rescannedStorages := counted.rescannedStorages + 1 }
        match answers.listing storageId with
        | .error reason => (rescanned.withIssues absent reason, [])
        | .ok listed =>
            (rescanned,
              (absent.map fun row =>
                (row, decideAbsent maxCandidates (trackedPaths db storageId)
                  listed absent row)) ++ present)

/-- The loop over `grouped`. -/
def scanStorages (db : Database) (answers : Answers) (maxCandidates : Nat) :
    List (Nat × List ArtifactSnapshot) → IntegrityReport →
      IntegrityReport × List (ArtifactSnapshot × Decision)
  | [], report => (report, [])
  | group :: rest, report =>
      let scanned :=
        scanStorage db answers maxCandidates report group.1 group.2
      let later := scanStorages db answers maxCandidates rest scanned.1
      (later.1, scanned.2 ++ later.2)

/-! ## Checking the decisions again -/

/-- The decision after the second look, or the kind of the issue. -/
def revalidate (answers : Answers) (row : ArtifactSnapshot)
    (decision : Decision) : Except String Decision :=
  match answers.existsAgain row.artifactId with
  | none => .error "storage_error"
  | some true => .ok .present
  | some false =>
      match decision with
      | .missing kind candidates => .ok (.missing kind candidates)
      | .relink relativePath =>
          match answers.candidateExists row.artifactId with
          | none => .error "storage_error"
          | some true => .ok (.relink relativePath)
          | some false => .error "storage_changed"
      | .present => .error "storage_changed"

/-- The loop over the decisions: `revalidated_decisions`. -/
def revalidateAll (answers : Answers) :
    List (ArtifactSnapshot × Decision) → IntegrityReport →
      IntegrityReport × List (ArtifactSnapshot × Decision)
  | [], report => (report, [])
  | entry :: rest, report =>
      match revalidate answers entry.1 entry.2 with
      | .error kind =>
          revalidateAll answers rest (report.withIssues [entry.1] kind)
      | .ok decision =>
          let later := revalidateAll answers rest report
          (later.1, (entry.1, decision) :: later.2)

/-- The decisions which reach the last transaction, with the report so far. -/
def scan (db : Database) (answers : Answers)
    (storageId playlistId : Option Nat) (maxCandidates : Nat) :
    IntegrityReport × List (ArtifactSnapshot × Decision) :=
  let scanned := scanStorages db answers maxCandidates
    (grouped db (snapshots db storageId playlistId)) {}
  revalidateAll answers scanned.2 scanned.1

/-- `check_integrity`, when nothing changes the database meanwhile. -/
def checkIntegrity (db : Database) (answers : Answers)
    (storageId playlistId : Option Nat)
    (rescanTimeoutSec maxCandidates : Int) (checkedAt now : Time) :
    Except String Progress :=
  if rescanTimeoutSec ≤ 0 then
    .error "rescan_timeout_secは1以上にしてください"
  else if maxCandidates ≤ 0 then
    .error "max_candidates_per_source_idは1以上にしてください"
  else
    let scanned := scan db answers storageId playlistId maxCandidates.toNat
    .ok (applyDecisions db scanned.1 scanned.2 checkedAt now)

/-! ## What the decisions are about -/

/-- The snapshot was taken of this database. -/
def IsSnapshotOf (db : Database) (snapshot : ArtifactSnapshot) : Prop :=
  ∃ artifact, db.artifact.get snapshot.artifactId = some artifact ∧
    snapshot.storageId = artifact.storageId ∧
    snapshot.targetId = artifact.targetId ∧
    snapshot.relativePath = artifact.relativePath

theorem isSnapshotOf_of_mem_snapshots
    {db : Database} {storageId playlistId : Option Nat}
    {row : ArtifactSnapshot}
    (member : row ∈ snapshots db storageId playlistId) :
    IsSnapshotOf db row := by
  rw [snapshots, List.mem_filterMap] at member
  rcases member with ⟨⟨artifactId, artifact⟩, inTable, selected⟩
  rcases Option.bind_eq_some_iff.mp selected with ⟨joined, isJoined, kept⟩
  split at kept
  case isFalse => cases kept
  rw [Option.some.injEq] at kept
  subst kept
  simp only [snapshotOf, Option.bind_eq_bind, Option.bind_eq_some_iff,
    Option.some.injEq] at isJoined
  rcases isJoined with ⟨target, -, item, -, -, -, -, -, rfl⟩
  exact ⟨artifact, (db.artifact.get_eq_some_iff _ _).mpr inTable, rfl, rfl,
    rfl⟩

theorem mem_of_mem_scanStorage
    {db : Database} {answers : Answers} {maxCandidates storageId : Nat}
    {report : IntegrityReport} {rows : List ArtifactSnapshot}
    {entry : ArtifactSnapshot × Decision}
    (member : entry ∈
      (scanStorage db answers maxCandidates report storageId rows).2) :
    entry.1 ∈ rows := by
  have ofFilter : ∀ (keep : ArtifactSnapshot → Bool)
      (decide : ArtifactSnapshot → Decision),
      entry ∈ (rows.filter keep).map (fun row => (row, decide row)) →
        entry.1 ∈ rows := by
    rintro keep decide inMap
    rcases List.mem_map.mp inMap with ⟨row, kept, rfl⟩
    exact List.mem_of_mem_filter kept
  simp only [scanStorage] at member
  split at member
  · cases member
  · split at member
    · cases member
    · split at member
      · exact ofFilter _ _ member
      · split at member
        · cases member
        · rcases List.mem_append.mp member with inAbsent | inPresent
          · exact ofFilter _ _ inAbsent
          · exact ofFilter _ _ inPresent

theorem mem_of_mem_scanStorages
    {db : Database} {answers : Answers} {maxCandidates : Nat}
    {groups : List (Nat × List ArtifactSnapshot)} {report : IntegrityReport}
    {entry : ArtifactSnapshot × Decision}
    (member : entry ∈
      (scanStorages db answers maxCandidates groups report).2) :
    ∃ group ∈ groups, entry.1 ∈ group.2 := by
  induction groups generalizing report with
  | nil => cases member
  | cons group rest induction =>
      rcases List.mem_append.mp member with here | later
      · exact ⟨group, List.mem_cons_self, mem_of_mem_scanStorage here⟩
      · rcases induction later with ⟨other, inRest, inGroup⟩
        exact ⟨other, List.mem_cons_of_mem _ inRest, inGroup⟩

theorem mem_of_mem_revalidateAll
    {answers : Answers} {entries : List (ArtifactSnapshot × Decision)}
    {report : IntegrityReport} {entry : ArtifactSnapshot × Decision}
    (member : entry ∈ (revalidateAll answers entries report).2) :
    ∃ before ∈ entries, entry.1 = before.1 := by
  induction entries generalizing report with
  | nil => cases member
  | cons first rest induction =>
      have later : ∀ {report : IntegrityReport},
          entry ∈ (revalidateAll answers rest report).2 →
            ∃ before ∈ first :: rest, entry.1 = before.1 := by
        intro report inRest
        rcases induction inRest with ⟨before, inList, same⟩
        exact ⟨before, List.mem_cons_of_mem _ inList, same⟩
      rw [revalidateAll] at member
      split at member
      · exact later member
      · rcases List.mem_cons.mp member with rfl | inRest
        · exact ⟨first, List.mem_cons_self, rfl⟩
        · exact later inRest

/-- Every decision is about an Artifact as it is in the database. -/
theorem isSnapshotOf_of_mem_scan
    {db : Database} {answers : Answers} {storageId playlistId : Option Nat}
    {maxCandidates : Nat} {entry : ArtifactSnapshot × Decision}
    (member : entry ∈
      (scan db answers storageId playlistId maxCandidates).2) :
    IsSnapshotOf db entry.1 := by
  rcases mem_of_mem_revalidateAll member with ⟨before, inScan, same⟩
  rcases mem_of_mem_scanStorages inScan with ⟨group, inGroups, inGroup⟩
  rw [same]
  apply isSnapshotOf_of_mem_snapshots
  rw [grouped, List.mem_filter, List.mem_map] at inGroups
  rcases inGroups with ⟨⟨storage, -, rfl⟩, -⟩
  exact List.mem_of_mem_filter inGroup

end Sluicery.Core.Integrity
