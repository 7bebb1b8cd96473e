import Mathlib
import Sluicery.Core.Sync
import Sluicery.Library.PosixPath
import Sluicery.Storage.Adapter

/-!
# Folder move plans

`build_folder_move_plan` finds the Artifacts of a playlist which lie below the
prefix of their assignment, and examines their files: at the source, or at
the destination when a persistent intent of an earlier execution explains why
they are there.  The intents are read from the statistics of `folder_move`
Runs, which hold the candidate an execution was about.
-/

namespace Sluicery.Core.FolderMove

open Sluicery.Library Sluicery.Db Sluicery.Storage

/-! ## Candidates and plans -/

/-- A candidate without what was seen of its file. -/
structure Relocation where
  artifactId : Nat
  targetId : Nat
  assignmentId : Nat
  profileId : Nat
  storageId : Nat
  sourcePath : String
  destinationPath : String
  artifactUpdatedAt : Time
  targetUpdatedAt : Time
  assignmentUpdatedAt : Time
  profileUpdatedAt : Time
  storageUpdatedAt : Time
  storageConfigFingerprint : String
deriving DecidableEq, Repr

namespace Relocation

/-- Where the file is before its move. -/
def source (relocation : Relocation) : Place :=
  (relocation.storageId, relocation.sourcePath)

/-- Where the file is after its move. -/
def destination (relocation : Relocation) : Place :=
  (relocation.storageId, relocation.destinationPath)

end Relocation

/-- `FolderMoveCandidate`. -/
structure FolderMoveCandidate extends Relocation where
  fileIdentity : Option RemoteFile
  remoteOrMount : Bool
  alreadyMoved : Bool := false
deriving DecidableEq, Repr

/-- `FolderMovePlan`. -/
structure FolderMovePlan where
  playlistId : Nat
  oldFolderName : String
  newFolderName : String
  playlistUpdatedAt : Time
  candidates : List FolderMoveCandidate
  unaffectedCount : Nat
  blockedReasons : List String
  recoveryRunIds : List Nat := []

/-- `plan.movable`. -/
def FolderMovePlan.movable (plan : FolderMovePlan) : Bool :=
  plan.oldFolderName != plan.newFolderName && plan.blockedReasons.isEmpty

/-! ## Paths -/

/-- `_replace_prefix`. -/
def replacePrefix (path oldPrefix newPrefix : String) : Option String :=
  ((PurePosixPath.ofString path).relativeTo
      (PurePosixPath.ofString oldPrefix)).map fun suffix =>
    let new := PurePosixPath.ofString newPrefix
    { new with parts := new.parts ++ suffix }.asPosix

/-! ## Values in the statistics of a Run -/

/-- `asdict(file_identity)`. -/
def remoteFileJson (file : RemoteFile) : Json :=
  .obj
    [("relative_path", .str file.relativePath),
      ("size", file.size.elim .null .int),
      ("modified_at", file.modifiedAt.elim .null .str),
      ("hashes", .obj (file.hashes.map fun hash => (hash.1, .str hash.2))),
      ("file_id", file.fileId.elim .null .str)]

/-- `asdict(candidate)`. -/
def candidateJson (candidate : FolderMoveCandidate) : Json.Fields :=
  [("artifact_id", .int candidate.artifactId),
    ("target_id", .int candidate.targetId),
    ("assignment_id", .int candidate.assignmentId),
    ("profile_id", .int candidate.profileId),
    ("storage_id", .int candidate.storageId),
    ("source_path", .str candidate.sourcePath),
    ("destination_path", .str candidate.destinationPath),
    ("artifact_updated_at", .int candidate.artifactUpdatedAt),
    ("target_updated_at", .int candidate.targetUpdatedAt),
    ("assignment_updated_at", .int candidate.assignmentUpdatedAt),
    ("profile_updated_at", .int candidate.profileUpdatedAt),
    ("storage_updated_at", .int candidate.storageUpdatedAt),
    ("storage_config_fingerprint",
      .str candidate.storageConfigFingerprint),
    ("file_identity", candidate.fileIdentity.elim .null remoteFileJson),
    ("remote_or_mount", .bool candidate.remoteOrMount),
    ("already_moved", .bool candidate.alreadyMoved)]

/-- A value which may be `null`, read by the given reader. -/
def nullable {Value : Type} (read : Json → Option Value) :
    Option Json → Option (Option Value)
  | none | some .null => some none
  | some value => (read value).map some

/-- An integer which is no `bool`. -/
def readInt : Json → Option Int
  | .int value => some value
  | _ => none

/-- A string. -/
def readStr : Json → Option String
  | .str value => some value
  | _ => none

/-- A `dict[str, str]`. -/
def readHashes (fields : Json.Fields) : Option (List (String × String)) :=
  fields.mapM fun field => (readStr field.2).map (Prod.mk field.1)

/-- `_remote_file_from_json`. -/
def remoteFileFromJson (value : Json) : Option RemoteFile :=
  match value with
  | .obj fields =>
      match (Json.lookup fields "relative_path").bind readStr,
          nullable readInt (Json.lookup fields "size"),
          nullable readStr (Json.lookup fields "modified_at"),
          Json.lookup fields "hashes",
          nullable readStr (Json.lookup fields "file_id") with
      | some relativePath, some size, some modifiedAt, some (.obj hashes),
          some fileId =>
          (readHashes hashes).map fun hashes =>
            { relativePath, size, modifiedAt, hashes, fileId }
      | _, _, _, _, _ => none
  | _ => none

/-- `_identity_matches`. -/
def identityMatches (current expected : RemoteFile) : Bool :=
  current.toStoredFile == expected.toStoredFile

/-! ## Rows and intents -/

/-- `_PlanRowSnapshot`; the keys of the other rows are their columns. -/
structure PlanRowSnapshot where
  artifactId : Nat
  artifact : ArtifactRow
  target : TargetRow
  assignment : PlaylistProfileRow
  profile : ProfileRow
  storage : StorageRow

/-- The joined rows of an Artifact in a playlist. -/
def snapshotOf (db : Database) (playlistId artifactId : Nat)
    (artifact : ArtifactRow) : Option PlanRowSnapshot := do
  let target ← db.target.get artifact.targetId
  let item ← db.item.get target.itemId
  let assignment ← db.playlistProfile.get target.playlistProfileId
  let profile ← db.profile.get assignment.profileId
  let storage ← db.storage.get artifact.storageId
  if item.playlistId = playlistId then
    return { artifactId, artifact, target, assignment, profile, storage }
  else none

/-- The rows of the query, by Artifact. -/
def snapshots (db : Database) (playlistId : Nat) : List PlanRowSnapshot :=
  db.artifact.rows.filterMap fun entry =>
    snapshotOf db playlistId entry.1 entry.2

/-- The statistics are about this change of the folder name. -/
def namesMatch (oldName newName : String) (run : RunRow) : Bool :=
  let stats := run.statsJson.getD []
  Json.lookup stats "old_folder_name" == some (.str oldName) &&
    Json.lookup stats "new_folder_name" == some (.str newName)

/-- The condition for `pending_runs`, with the names. -/
def isPending (playlistId : Nat) (oldName newName : String)
    (run : RunRow) : Bool :=
  run.playlistId == some playlistId && run.kind == "folder_move" &&
    (run.status == .running || run.status == .failed) &&
    namesMatch oldName newName run

/-- The intent in the statistics of a Run, with its Artifact. -/
def intentOf (run : RunRow) : Option (Int × Json.Fields) :=
  match Json.lookup (run.statsJson.getD []) "current_intent" with
  | some (.obj intent) =>
      ((Json.lookup intent "artifact_id").bind readInt).map
        fun artifactId => (artifactId, intent)
  | _ => none

/-- `pending_intents.get(artifact_id)`: later Runs replace earlier ones. -/
def pendingIntent (db : Database) (playlistId : Nat)
    (oldName newName : String) (artifactId : Nat) :
    Option (Nat × Json.Fields) :=
  (db.run.rows.filterMap fun entry =>
    if isPending playlistId oldName newName entry.2 then
      (intentOf entry.2).bind fun intent =>
        if intent.1 = artifactId then some (entry.1, intent.2) else none
    else none).getLast?

/-- `recovery_run_ids`. -/
def recoveryRunIds (db : Database) (playlistId : Nat)
    (oldName newName : String) : List Nat :=
  (db.run.select fun _ run =>
    isPending playlistId oldName newName run && run.status == .running).map
      Prod.fst

section Plan

-- `sanitize_component`, `resolve_subpath` and `_storage_fingerprint`.
variable (sanitizeComponent : String → Except String String)
  (resolveSubpath : (subpath playlistName folderName profileName : String) →
    ProfileKind → Except String String)
  (fingerprint : StorageKind → Option Json.Fields → String)

/-- The fields which `_pending_intent_for_row` compares. -/
def intentMatches (intent : Json.Fields) (row : PlanRowSnapshot)
    (destination : String) : Bool :=
  Json.lookup intent "artifact_id" == some (.int row.artifactId) &&
    Json.lookup intent "storage_id" ==
      some (.int row.artifact.storageId) &&
    Json.lookup intent "source_path" ==
      some (.str row.artifact.relativePath) &&
    Json.lookup intent "destination_path" == some (.str destination) &&
    Json.lookup intent "artifact_updated_at" ==
      some (.int row.artifact.updatedAt) &&
    Json.lookup intent "storage_updated_at" ==
      some (.int row.storage.updatedAt) &&
    Json.lookup intent "storage_config_fingerprint" ==
      some (.str (fingerprint row.storage.kind row.storage.configJson))

/-- `_pending_intent_for_row`: the identity of the intent. -/
def pendingIntentForRow (pending : Option (Nat × Json.Fields))
    (row : PlanRowSnapshot) (destination : String) : Option RemoteFile :=
  pending.bind fun pending =>
    if intentMatches fingerprint pending.2 row destination then
      (Json.lookup pending.2 "file_identity").bind remoteFileFromJson
    else none

/-! ## `build_folder_move_plan` -/

/-- Where a row belongs after the change of the folder name. -/
inductive Placement where
  | blocked (reason : String)
  | unaffected
  | relocated (destination : String)

/-- The placement of a row. -/
def placement (playlistName oldName newName : String)
    (row : PlanRowSnapshot) : Placement :=
  if row.assignment.storageId ≠ row.artifact.storageId then
    .blocked ("Artifact " ++ toString row.artifactId ++
      " は現在のProfile割当とStorageが一致しません")
  else
    let resolve := fun folderName =>
      resolveSubpath row.assignment.subpath playlistName folderName
        row.profile.name row.profile.kind
    match resolve oldName, resolve newName with
    | .ok oldPrefix, .ok newPrefix =>
        if oldPrefix = newPrefix then .unaffected
        else
          match replacePrefix row.artifact.relativePath oldPrefix newPrefix with
          | none => .unaffected
          | some destination => .relocated destination
    | .error message, _ | .ok _, .error message =>
        .blocked ("Profile割当 " ++ toString row.target.playlistProfileId ++
          " のsubpathを解決できません: " ++ message)

/-- The identity of a row's file, and whether it is moved already. -/
def examine (files : Files StoredFile) (pending : Option RemoteFile)
    (row : PlanRowSnapshot) (destination : String) :
    Except String (RemoteFile × Bool) :=
  let source : Place := (row.artifact.storageId, row.artifact.relativePath)
  let target : Place := (row.artifact.storageId, destination)
  let found : Except String (RemoteFile × Bool) :=
    match inspectFile files source, inspectFile files target, pending with
    | some _, some _, _ => .error "移動元と移動先の両方が存在します"
    | some identity, none, _ => .ok (identity, false)
    | none, some moved, some expected =>
        if identityMatches moved expected then .ok (expected, true)
        else .error "移動先の識別情報が永続intentと一致しません"
    | none, _, _ =>
        .error "移動元が存在せず、安全に回収できるintentもありません"
  match found with
  | .error message => .error message
  | .ok examined =>
      if row.artifact.filesize.any fun filesize =>
          examined.1.size ≠ some filesize then
        .error "DB記録と実ファイルのsizeが一致しません"
      else .ok examined

/-- The relocation of a row. -/
def relocationOf (row : PlanRowSnapshot) (destination : String) :
    Relocation where
  artifactId := row.artifactId
  targetId := row.artifact.targetId
  assignmentId := row.target.playlistProfileId
  profileId := row.assignment.profileId
  storageId := row.artifact.storageId
  sourcePath := row.artifact.relativePath
  destinationPath := destination
  artifactUpdatedAt := row.artifact.updatedAt
  targetUpdatedAt := row.target.updatedAt
  assignmentUpdatedAt := row.assignment.updatedAt
  profileUpdatedAt := row.profile.updatedAt
  storageUpdatedAt := row.storage.updatedAt
  storageConfigFingerprint :=
    fingerprint row.storage.kind row.storage.configJson

/-- The lists which the loop over the rows fills. -/
structure Collected where
  candidates : List FolderMoveCandidate := []
  unaffected : Nat := 0
  blocked : List String := []

/-- The loop over the rows, with the destinations taken so far. -/
def collect (place : PlanRowSnapshot → Placement)
    (examined : PlanRowSnapshot → String →
      Option (Except String (RemoteFile × Bool))) :
    List PlanRowSnapshot → List Place → Collected
  | [], _ => {}
  | row :: rest, destinations =>
      match place row with
      | .blocked reason =>
          let later := collect place examined rest destinations
          { later with blocked := reason :: later.blocked }
      | .unaffected =>
          let later := collect place examined rest destinations
          { later with unaffected := later.unaffected + 1 }
      | .relocated destination =>
          let key : Place := (row.artifact.storageId, destination)
          if key ∈ destinations then
            let later := collect place examined rest destinations
            { later with
              blocked :=
                ("移動先が重複しています: Storage " ++ toString key.1 ++ " / " ++
                  destination) :: later.blocked }
          else
            let later := collect place examined rest (key :: destinations)
            let seen := examined row destination
            { later with
              candidates :=
                { relocationOf fingerprint row destination with
                  fileIdentity :=
                    (seen.bind Except.toOption).map Prod.fst
                  remoteOrMount :=
                    row.storage.kind != .«local»
                  alreadyMoved :=
                    ((seen.bind Except.toOption).map Prod.snd).getD false } ::
                    later.candidates
              blocked :=
                match seen with
                | some (.error message) =>
                    ("Artifact " ++ toString row.artifactId ++
                      " を安全に確認できません: " ++ message) :: later.blocked
                | _ => later.blocked }

/-- What becomes of a row. -/
inductive Verdict where
  | candidate (destination : String)
  | unaffected
  | rejected (reason : String)
deriving DecidableEq, Repr

/-- The verdicts about the rows, with the destinations taken so far. -/
def verdicts (place : PlanRowSnapshot → Placement) :
    List PlanRowSnapshot → List Place → List (PlanRowSnapshot × Verdict)
  | [], _ => []
  | row :: rest, destinations =>
      match place row with
      | .blocked reason =>
          (row, .rejected reason) :: verdicts place rest destinations
      | .unaffected => (row, .unaffected) :: verdicts place rest destinations
      | .relocated destination =>
          let key : Place := (row.artifact.storageId, destination)
          if key ∈ destinations then
            (row, .rejected ("移動先が重複しています: Storage " ++
              toString key.1 ++ " / " ++ destination)) ::
                verdicts place rest destinations
          else
            (row, .candidate destination) ::
              verdicts place rest (key :: destinations)

/-- `build_folder_move_plan`; without files the identities stay open. -/
def buildFolderMovePlan (db : Database) (playlistId : Nat)
    (newFolderName : String) (files : Option (Files StoredFile)) :
    Except String FolderMovePlan :=
  match db.playlist.get playlistId with
  | none => .error "Playlistが見つかりません"
  | some playlist =>
      match sanitizeComponent newFolderName with
      | .error message => .error message
      | .ok normalized =>
          if normalized ≠ newFolderName then
            .error ("フォルダ名は安全化後の値 `" ++ normalized ++
              "` で再入力してください")
          else if normalized = playlist.folderName then
            .error "現在と異なるフォルダ名を入力してください"
          else
            let oldName := playlist.folderName
            let collected := collect fingerprint
              (placement resolveSubpath playlist.name oldName normalized)
              (fun row destination => files.map fun files =>
                examine files
                  (pendingIntentForRow fingerprint
                    (pendingIntent db playlistId oldName normalized
                      row.artifactId)
                    row destination)
                  row destination)
              (snapshots db playlistId) []
            .ok
              { playlistId
                oldFolderName := oldName
                newFolderName := normalized
                playlistUpdatedAt := playlist.updatedAt
                candidates := collected.candidates
                unaffectedCount := collected.unaffected
                blockedReasons := collected.blocked
                recoveryRunIds :=
                  recoveryRunIds db playlistId oldName normalized }

/-- `_candidate_rows_match`. -/
def candidateRowsMatch (db : Database) (relocation : Relocation) : Bool :=
  match db.artifact.get relocation.artifactId,
      db.target.get relocation.targetId,
      db.playlistProfile.get relocation.assignmentId,
      db.profile.get relocation.profileId,
      db.storage.get relocation.storageId with
  | some artifact, some target, some assignment, some profile,
      some storage =>
      artifact.targetId == relocation.targetId &&
        artifact.storageId == relocation.storageId &&
        artifact.relativePath == relocation.sourcePath &&
        artifact.updatedAt == relocation.artifactUpdatedAt &&
        target.playlistProfileId == relocation.assignmentId &&
        target.updatedAt == relocation.targetUpdatedAt &&
        assignment.profileId == relocation.profileId &&
        assignment.storageId == relocation.storageId &&
        assignment.updatedAt == relocation.assignmentUpdatedAt &&
        profile.updatedAt == relocation.profileUpdatedAt &&
        storage.updatedAt == relocation.storageUpdatedAt &&
        fingerprint storage.kind storage.configJson ==
          relocation.storageConfigFingerprint
  | _, _, _, _, _ => false

/-! ## What a plan is like -/

/-- The loop takes every destination once, and none twice. -/
theorem destinations_collect
    (place : PlanRowSnapshot → Placement)
    (examined : PlanRowSnapshot → String →
      Option (Except String (RemoteFile × Bool)))
    (rows : List PlanRowSnapshot) (taken : List Place) :
    (((collect fingerprint place examined rows taken).candidates.map
        fun candidate => candidate.destination).Nodup) ∧
      ∀ candidate ∈
        (collect fingerprint place examined rows taken).candidates,
          candidate.destination ∉ taken := by
  induction rows generalizing taken with
  | nil => simp [collect]
  | cons row rest induction =>
      rw [collect]
      split
      case h_1 => exact induction taken
      case h_2 => exact induction taken
      case h_3 destination _ =>
        dsimp only
        split
        · exact induction taken
        · next free =>
            rcases induction ((row.artifact.storageId, destination) :: taken)
              with ⟨distinct, fresh⟩
            constructor
            · rw [List.map_cons, List.nodup_cons]
              constructor
              · intro inLater
                rcases List.mem_map.mp inLater with ⟨later, member, same⟩
                exact fresh later member (same ▸ List.mem_cons_self)
              · exact distinct
            · intro candidate member
              rcases List.mem_cons.mp member with rfl | inLater
              · exact free
              · exact fun inTaken =>
                  fresh candidate inLater (List.mem_cons_of_mem _ inTaken)

/-- The candidates are about some of the rows, in their order. -/
theorem artifactIds_collect
    (place : PlanRowSnapshot → Placement)
    (examined : PlanRowSnapshot → String →
      Option (Except String (RemoteFile × Bool)))
    (rows : List PlanRowSnapshot) (taken : List Place) :
    ((collect fingerprint place examined rows taken).candidates.map
        fun candidate => candidate.artifactId).Sublist
      (rows.map fun row => row.artifactId) := by
  induction rows generalizing taken with
  | nil => exact List.Sublist.slnil
  | cons row rest induction =>
      rw [collect]
      split
      case h_1 => exact (induction taken).cons _
      case h_2 => exact (induction taken).cons _
      case h_3 destination _ =>
        dsimp only
        split
        · exact (induction taken).cons _
        · exact (induction _).cons_cons _

theorem artifactId_snapshotOf
    {db : Database} {playlistId artifactId : Nat} {artifact : ArtifactRow}
    {row : PlanRowSnapshot}
    (joined : snapshotOf db playlistId artifactId artifact = some row) :
    row.artifactId = artifactId := by
  simp only [snapshotOf, Option.bind_eq_bind, Option.bind_eq_some_iff]
    at joined
  rcases joined with ⟨target, -, item, -, assignment, -, profile, -,
    storage, -, selected⟩
  split at selected
  · cases selected
    rfl
  · cases selected

/-- Every Artifact has at most one row. -/
theorem artifactIds_snapshots (db : Database) (playlistId : Nat) :
    ((snapshots db playlistId).map fun row => row.artifactId).Nodup := by
  have distinct : (db.artifact.rows.map Prod.fst).Nodup :=
    db.artifact.ascending.imp Nat.ne_of_lt
  rw [snapshots]
  rw [List.Nodup, List.pairwise_map] at distinct
  rw [List.Nodup, List.pairwise_map, List.pairwise_filterMap]
  apply distinct.imp
  intro left right different leftRow leftJoined rightRow rightJoined
  rw [artifactId_snapshotOf leftJoined, artifactId_snapshotOf rightJoined]
  exact different

/-- The candidates of a plan are those which the loop collects. -/
theorem candidates_of_planned
    {db : Database} {playlistId : Nat} {newFolderName : String}
    {files : Option (Files StoredFile)} {plan : FolderMovePlan}
    (planned : buildFolderMovePlan sanitizeComponent resolveSubpath
      fingerprint db playlistId newFolderName files = .ok plan) :
    ∃ place examined, plan.candidates =
      (collect fingerprint place examined (snapshots db playlistId)
        []).candidates := by
  rw [buildFolderMovePlan] at planned
  split at planned
  · cases planned
  · split at planned
    · cases planned
    · split at planned
      · cases planned
      · split at planned
        · cases planned
        · rw [Except.ok.injEq] at planned
          subst planned
          exact ⟨_, _, rfl⟩

/-- No two candidates of a plan have the same destination. -/
theorem destinations_distinct
    {db : Database} {playlistId : Nat} {newFolderName : String}
    {files : Option (Files StoredFile)} {plan : FolderMovePlan}
    (planned : buildFolderMovePlan sanitizeComponent resolveSubpath
      fingerprint db playlistId newFolderName files = .ok plan) :
    (plan.candidates.map fun candidate => candidate.destination).Nodup := by
  rcases candidates_of_planned _ _ _ planned with ⟨place, examined, same⟩
  rw [same]
  exact (destinations_collect _ _ _ _ _).1

/-- No two candidates of a plan are about the same Artifact. -/
theorem artifactIds_distinct
    {db : Database} {playlistId : Nat} {newFolderName : String}
    {files : Option (Files StoredFile)} {plan : FolderMovePlan}
    (planned : buildFolderMovePlan sanitizeComponent resolveSubpath
      fingerprint db playlistId newFolderName files = .ok plan) :
    (plan.candidates.map fun candidate => candidate.artifactId).Nodup := by
  rcases candidates_of_planned _ _ _ planned with ⟨place, examined, same⟩
  rw [same]
  exact (artifactIds_snapshots db playlistId).sublist
    (artifactIds_collect _ _ _ _ _)

end Plan

end Sluicery.Core.FolderMove
