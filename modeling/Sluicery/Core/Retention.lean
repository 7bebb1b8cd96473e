import Mathlib.Data.List.Sort
import Sluicery.Core.Sync
import Sluicery.Storage.Adapter

/-!
# Retention plans and their audit log

`build_retention_plan` selects the Artifacts to delete and takes a snapshot of
each with its Target, its Storage and its file; `_candidate_matches` and
`_related_rows_match` compare such a snapshot with the rows again.  A plan
names no Artifact twice, which is a field of the plan.  The audit log records
an intent before and a deletion after each `delete_file`.
-/

namespace Sluicery.Core.Retention

open Sluicery.Library Sluicery.Db Sluicery.Storage

/-! ## Policies and plans -/

/-- `RetentionPolicy`. -/
structure RetentionPolicy where
  enabled : Bool := false
  keepLatest : Option Nat := none
  maxAgeDays : Option Nat := none
deriving DecidableEq, Repr

/-- `RetentionCandidate`. -/
structure RetentionCandidate where
  artifactId : Nat
  targetId : Nat
  storageId : Nat
  relativePath : String
  filesize : Option Int
  itemDate : Option String
  artifactUpdatedAt : Time
  targetUpdatedAt : Time
  storageUpdatedAt : Time
  storageConfigFingerprint : String
  fileIdentity : Option RemoteFile := none
deriving DecidableEq, Repr

/-- Where the file of a candidate is. -/
def RetentionCandidate.place (candidate : RetentionCandidate) : Place :=
  (candidate.storageId, candidate.relativePath)

/-- `RetentionPlan`. -/
structure RetentionPlan where
  playlistId : Nat
  policy : RetentionPolicy
  candidates : List RetentionCandidate
  totalArtifacts : Nat
  blockedReasons : List String
  distinct : (candidates.map RetentionCandidate.artifactId).Nodup

namespace RetentionPlan

/-- `plan.deletable`. -/
def deletable (plan : RetentionPlan) : Bool :=
  plan.policy.enabled && plan.blockedReasons.isEmpty

end RetentionPlan

/-! ## `build_retention_plan` -/

/-- A row of the query over Artifact, Target and Item. -/
structure PlanRow where
  artifactId : Nat
  artifact : ArtifactRow
  target : TargetRow
  item : ItemRow

/-- The joined row of an Artifact in a playlist. -/
def planRow (db : Database) (playlistId : Nat)
    (entry : Nat × ArtifactRow) : Option PlanRow := do
  let target ← db.target.get entry.2.targetId
  let item ← db.item.get target.itemId
  if item.playlistId = playlistId then
    return { artifactId := entry.1, artifact := entry.2, target, item }
  else none

/-- The rows of the query, by Artifact. -/
def planRows (db : Database) (playlistId : Nat) : List PlanRow :=
  db.artifact.rows.filterMap (planRow db playlistId)

/-- `item.upload_date or "99999999"`. -/
def sortDate (item : ItemRow) : String :=
  match item.uploadDate with
  | none | some "" => "99999999"
  | some date => date

/-- The order of the sort keys, newest first. -/
def newerOrSame (left right : Nat × ItemRow) : Bool :=
  let leftIndex := -(left.2.playlistIndex.getD 0)
  let rightIndex := -(right.2.playlistIndex.getD 0)
  sortDate right.2 < sortDate left.2 ||
    (sortDate left.2 == sortDate right.2 &&
      (rightIndex < leftIndex ||
        (leftIndex == rightIndex && right.1 ≤ left.1)))

/-- The items with Artifacts, each once. -/
def planItems (rows : List PlanRow) : List (Nat × ItemRow) :=
  (rows.map fun row => (row.target.itemId, row.item)).dedup

/-- `selected_item_ids`; dates are day numbers. -/
def selectedItemIds (parseUploadDate : String → Option Int)
    (policy : RetentionPolicy) (today : Int) (rows : List PlanRow) :
    List Nat :=
  let items := planItems rows
  let beyondLatest :=
    match policy.keepLatest with
    | none => []
    | some keepLatest =>
        ((items.mergeSort newerOrSame).drop keepLatest).map Prod.fst
  let tooOld :=
    match policy.maxAgeDays with
    | none => []
    | some maxAgeDays =>
        (items.filter fun item =>
          (item.2.uploadDate.bind parseUploadDate).any
            fun uploaded => decide (uploaded < today - maxAgeDays)).map
          Prod.fst
  beyondLatest ++ tooOld

section Plan

-- `_storage_config_fingerprint`, of the kind and the configuration.
variable (fingerprint : StorageKind → Option Json.Fields → String)

/-- What the examination of a candidate's file came to. -/
def examineFile (inspect : Place → Except String RemoteFile)
    (row : PlanRow) : Except String RemoteFile :=
  match inspect (row.artifact.storageId, row.artifact.relativePath) with
  | .error message => .error message
  | .ok identity =>
      if identity.isWeak then .error "削除対象の強い識別情報を取得できません"
      else if row.artifact.filesize.any fun filesize =>
          identity.size ≠ some filesize then
        .error "DB記録と実ファイルのsizeが一致しません"
      else .ok identity

/-- The reason a candidate adds to `blocked`. -/
def blockedReason (db : Database)
    (inspect : Option (Place → Except String RemoteFile)) (row : PlanRow) :
    Option String :=
  match db.storage.get row.artifact.storageId with
  | none =>
      some ("Artifact " ++ toString row.artifactId ++
        " のStorageが見つかりません")
  | some _ =>
      match inspect with
      | none => none
      | some inspect =>
          match examineFile inspect row with
          | .ok _ => none
          | .error message =>
              some ("Artifact " ++ toString row.artifactId ++
                " の実体を安全に確認できません: " ++ message)

/-- The identity a candidate keeps, also when its examination fails later. -/
def fileIdentity (inspect : Option (Place → Except String RemoteFile))
    (row : PlanRow) : Option RemoteFile :=
  inspect.bind fun inspect =>
    (inspect (row.artifact.storageId,
      row.artifact.relativePath)).toOption

/-- The candidate of a selected row. -/
def candidateOf (db : Database)
    (inspect : Option (Place → Except String RemoteFile)) (row : PlanRow) :
    Option RetentionCandidate :=
  (db.storage.get row.artifact.storageId).map fun storage =>
    { artifactId := row.artifactId
      targetId := row.artifact.targetId
      storageId := row.artifact.storageId
      relativePath := row.artifact.relativePath
      filesize := row.artifact.filesize
      itemDate := row.item.uploadDate
      artifactUpdatedAt := row.artifact.updatedAt
      targetUpdatedAt := row.target.updatedAt
      storageUpdatedAt := storage.updatedAt
      storageConfigFingerprint := fingerprint storage.kind storage.configJson
      fileIdentity := fileIdentity inspect row }

theorem planRow_columns
    {db : Database} {playlistId : Nat} {entry : Nat × ArtifactRow}
    {row : PlanRow} (joined : planRow db playlistId entry = some row) :
    row.artifactId = entry.1 ∧ row.artifact = entry.2 ∧
      db.target.get entry.2.targetId = some row.target := by
  simp only [planRow, Option.bind_eq_bind, Option.bind_eq_some_iff] at joined
  rcases joined with ⟨target, foundTarget, item, -, rest⟩
  split at rest
  · cases rest
    exact ⟨rfl, rfl, foundTarget⟩
  · cases rest

theorem candidateOf_artifactId
    {db : Database} {inspect : Option (Place → Except String RemoteFile)}
    {row : PlanRow} {candidate : RetentionCandidate}
    (isCandidate : candidateOf fingerprint db inspect row = some candidate) :
    candidate.artifactId = row.artifactId := by
  rcases Option.map_eq_some_iff.mp isCandidate with ⟨storage, -, rfl⟩
  rfl

/-- The rows of the query have different Artifacts, in ascending order. -/
theorem planRows_ascend (db : Database) (playlistId : Nat) :
    ((planRows db playlistId).map PlanRow.artifactId).Pairwise (· < ·) := by
  rw [planRows, List.pairwise_map]
  refine List.Pairwise.filterMap _ ?_
    (List.pairwise_map.mp db.artifact.ascending)
  intro left right before leftRow isLeft rightRow isRight
  rw [(planRow_columns isLeft).1, (planRow_columns isRight).1]
  exact before

/-- Selected rows are candidates for different Artifacts. -/
theorem distinct_candidates
    (db : Database) (playlistId : Nat) (selected : PlanRow → Bool)
    (inspect : Option (Place → Except String RemoteFile)) :
    ((((planRows db playlistId).filter selected).filterMap
      (candidateOf fingerprint db inspect)).map
        RetentionCandidate.artifactId).Nodup := by
  rw [List.nodup_iff_pairwise_ne, List.pairwise_map]
  refine List.Pairwise.filterMap _ ?_
    ((List.pairwise_map.mp (planRows_ascend db playlistId)).filter selected)
  intro left right before leftCandidate isLeft rightCandidate isRight
  rw [candidateOf_artifactId _ isLeft, candidateOf_artifactId _ isRight]
  exact Nat.ne_of_lt before

/-- `build_retention_plan`. -/
def buildRetentionPlan (parseUploadDate : String → Option Int)
    (db : Database) (playlistId : Nat) (policy : RetentionPolicy)
    (maxDeletePerRun : Int) (today : Int)
    (inspect : Option (Place → Except String RemoteFile)) :
    Except String RetentionPlan :=
  if (db.playlist.get playlistId).isNone then
    .error "Playlistが見つかりません"
  else if maxDeletePerRun ≤ 0 then
    .error "max_delete_per_runは1以上にしてください"
  else
    let rows := planRows db playlistId
    if ¬ policy.enabled then
      .ok { playlistId, policy, candidates := [],
            totalArtifacts := rows.length, blockedReasons := [],
            distinct := List.nodup_nil }
    else
      let selected := fun row : PlanRow =>
        (selectedItemIds parseUploadDate policy today rows).contains
          row.target.itemId && row.target.status == .downloaded
      let candidates :=
        (rows.filter selected).filterMap (candidateOf fingerprint db inspect)
      let unsafeFiles :=
        (rows.filter selected).filterMap (blockedReason db inspect)
      let tooMany :=
        if (candidates.length : Int) > maxDeletePerRun then
          ["削除候補" ++ toString candidates.length ++ "件が1回の上限" ++
            toString maxDeletePerRun ++ "件を超えています"]
        else []
      let majority :=
        if 0 < rows.length ∧ candidates.length * 2 > rows.length then
          ["PlaylistのArtifactの過半数が削除候補になるため拒否しました"]
        else []
      .ok { playlistId, policy, candidates
            totalArtifacts := rows.length
            blockedReasons := unsafeFiles ++ tooMany ++ majority
            distinct := distinct_candidates fingerprint db playlistId
              selected inspect }

/-! ## Comparing a candidate with its rows -/

/-- `_candidate_matches`. -/
def candidateMatches (artifact : ArtifactRow)
    (candidate : RetentionCandidate) : Bool :=
  artifact.targetId == candidate.targetId &&
    artifact.storageId == candidate.storageId &&
    artifact.relativePath == candidate.relativePath &&
    artifact.filesize == candidate.filesize &&
    artifact.updatedAt == candidate.artifactUpdatedAt

/-- `_related_rows_match`. -/
def relatedRowsMatch (target : Option TargetRow)
    (storage : Option StorageRow) (candidate : RetentionCandidate) : Bool :=
  (target.any fun target =>
    target.status == .downloaded &&
      target.updatedAt == candidate.targetUpdatedAt) &&
  storage.any fun storage =>
    storage.updatedAt == candidate.storageUpdatedAt &&
      fingerprint storage.kind storage.configJson ==
        candidate.storageConfigFingerprint

/-- The three rows of a candidate are as in its snapshot. -/
def rowsMatch (db : Database) (candidate : RetentionCandidate) : Bool :=
  (db.artifact.get candidate.artifactId).any
    (candidateMatches · candidate) &&
  relatedRowsMatch fingerprint (db.target.get candidate.targetId)
    (db.storage.get candidate.storageId) candidate

end Plan

/-! ## The audit log -/

/-- A record of `_write_audit`. -/
inductive AuditRecord where
  | deleteIntent (artifactId storageId : Nat) (path quarantinePath : String)
      (size : Option Int) (fileIdentity : RemoteFile)
      (storageConfigFingerprint : String) (recordedAt : Time)
  | deleted (artifactId storageId : Nat) (path : String)
      (size : Option Int) (deletedAt : Time)

/-- `artifact_id`, `storage_id` and `path` of a record. -/
abbrev AuditKey := Nat × Nat × String

/-- The key of a `deleted` record. -/
def deletedKey : AuditRecord → Option AuditKey
  | .deleted artifactId storageId path .. => some (artifactId, storageId, path)
  | .deleteIntent .. => none

/-- The key of a `delete_intent` record. -/
def intentKey : AuditRecord → Option AuditKey
  | .deleteIntent artifactId storageId path .. =>
      some (artifactId, storageId, path)
  | .deleted .. => none

/-- The log has an intent without a deletion. -/
def hasUnfinishedIntent (log : List AuditRecord) : Bool :=
  log.any fun record =>
    (intentKey record).any fun key => !(log.filterMap deletedKey).contains key

/-- `assert_no_unfinished_retention_intents`, over the logs in the folder. -/
def assertNoUnfinishedRetentionIntents (logs : List (List AuditRecord)) :
    Except String Unit :=
  if logs.any hasUnfinishedIntent then
    .error "未完了のretention削除意図があります。"
  else .ok ()

/-- `Path(relative_path).parent`, as a POSIX prefix. -/
def parentPrefix (relativePath : String) : String :=
  match (relativePath.splitOn "/").dropLast with
  | [] => ""
  | parents => String.intercalate "/" parents ++ "/"

/-- `_quarantine_path`, for the given random name. -/
def quarantinePath (relativePath name : String) : String :=
  parentPrefix relativePath ++ ".sluicery-retention-" ++ name

end Sluicery.Core.Retention
