import Sluicery.Backup.Archive
import Sluicery.Library.Raising

/-!
# Restoring a backup

`restore_backup` reads the whole archive into a staging directory before it
looks at what there is, and then brings the config tree, the log tree and the
database over, one after the other.
-/

namespace Sluicery.Backup

open Sluicery.Library Sluicery.Library.FileTree Sluicery.Library.Raising

variable {Content : Type}

/-! ## Reading an archive -/

def manifestName : String := "manifest.json"

/-- `_validate_member_name`. -/
def validateMemberName (name : String) : Except Failure Unit :=
  if '\\' ∈ name.toList then
    .error (.backupError "archive member pathが不正です")
  else
    let path := PurePosixPath.ofString name
    if path.root ≠ "" ∨ ".." ∈ path.parts ∨ path.asPosix ≠ name then
      .error (.backupError "archive member pathが不正です")
    else if name = manifestName ∨ name = databaseName then .ok ()
    else if 2 ≤ path.parts.length ∧
        (path.parts.head? = some "config" ∨
          path.parts.head? = some "logs") then .ok ()
    else .error
      (.backupError "archiveに許可されていないmemberがあります")

/-- The loop over the members, with `by_name` and `total_size`. -/
def checkMembers : List Member → List Member → Int →
    Except Failure (List Member)
  | [], seen, _ => .ok seen
  | member :: rest, seen, total => do
      validateMemberName member.name
      if (seen.any fun other => other.name == member.name) ∨
          member.isFile = false ∨ member.size < 0 then
        .error (.backupError "archive memberの型・重複が不正です")
      if (maxArchiveUncompressedBytes : Int) < total + member.size then
        .error (.backupError
          "archiveのuncompressed sizeが上限を超えています")
      checkMembers rest (seen ++ [member]) (total + member.size)

/-- The members by their names. -/
def byName (members : List Member) (name : String) : Option Member :=
  members.find? fun member => member.name == name

/-- A dictionary has exactly these keys. -/
def hasKeys (fields : Json.Fields) (keys : List String) : Bool :=
  fields.all (fun field => keys.contains field.1) &&
    keys.all fun key => (Json.lookup fields key).isSome

def manifestKeys : List String :=
  ["schema_version", "created_at", "secret_key_fingerprint",
    "includes_logs", "files", "manifest_hmac_sha256"]

/-- `value == 1`, which a boolean and a float can be, too. -/
def isVersion : Json → Bool
  | .int value => value == 1
  | .real value => value == 1
  | .bool value => value
  | _ => false

/-- A manifest which was accepted. -/
structure Manifest where
  fingerprint : String
  includesLogs : Bool
  files : List Json

/-- The text is 64 hexadecimal digits. -/
def digestText (value : Option Json) (message : String) :
    Except Failure String :=
  match value with
  | some (.str text) =>
      if isSha256 text then .ok text else .error (.backupError message)
  | _ => .error (.backupError message)

/-- The checks on the manifest. -/
def checkManifest (crypto : Crypto) (secretKey : String) (value : Json) :
    Except Failure Manifest := do
  let .obj fields := value
    | .error (.backupError "manifest schemaが不正です")
  if hasKeys fields manifestKeys = false then
    .error (.backupError "manifest schemaが不正です")
  if (Json.lookup fields "schema_version").any isVersion = false then
    .error (.backupError "未対応のbackup schema versionです")
  let some (.str _) := Json.lookup fields "created_at"
    | .error (.backupError "manifest created_atが不正です")
  let fingerprint ← digestText (Json.lookup fields "secret_key_fingerprint")
    "manifestのSECRET_KEY指紋が不正です"
  let some (.bool includesLogs) := Json.lookup fields "includes_logs"
    | .error (.backupError "manifest includes_logsが不正です")
  let suppliedHmac ← digestText (Json.lookup fields "manifest_hmac_sha256")
    "manifest HMACが不正です"
  if fingerprint ≠ crypto.secretKeyFingerprint secretKey then
    .error (.secretKeyMismatch
      ("backupのSECRET_KEY指紋が現在の鍵と一致しません。" ++
        "復号不能になるためrestoreを中止しました"))
  let unsigned := fields.filter fun field =>
    field.1 != "manifest_hmac_sha256"
  if suppliedHmac ≠ manifestHmac crypto unsigned secretKey then
    .error (.backupError "manifest HMACが一致しません")
  let some (.arr files) := Json.lookup fields "files"
    | .error (.backupError "manifest filesが不正です")
  return { fingerprint, includesLogs, files }

/-- An entry of `expected`. -/
structure Expected where
  path : String
  size : Int
  sha256 : String
deriving DecidableEq, Repr

/-- One entry of `files`, with those before it. -/
def checkEntry (seen : List Expected) (entry : Json) :
    Except Failure Expected := do
  let .obj fields := entry
    | .error (.backupError "manifest file entryが不正です")
  if hasKeys fields ["path", "size", "sha256"] = false then
    .error (.backupError "manifest file entryが不正です")
  let path := match Json.lookup fields "path" with
    | some (.str path) => path
    | _ => ""
  validateMemberName path
  match Json.lookup fields "size", Json.lookup fields "sha256" with
  | some (.int size), some (.str sha256) =>
      if path = manifestName ∨ (seen.any fun other => other.path == path) ∨
          size < 0 ∨ isSha256 sha256 = false then
        .error (.backupError "manifest file entryの値が不正です")
      else .ok { path, size, sha256 }
  | _, _ => .error (.backupError "manifest file entryの値が不正です")

/-- The loop over the entries. -/
def checkEntries : List Json → List Expected →
    Except Failure (List Expected)
  | [], seen => .ok seen
  | entry :: rest, seen => do
      let expected ← checkEntry seen entry
      checkEntries rest (seen ++ [expected])

/-- The names agree as sets. -/
def sameNames (left right : List String) : Bool :=
  left.all (fun name => right.contains name) &&
    right.all fun name => left.contains name

/-- `_copy_member`: a new file in the staging directory. -/
def copyMember (holds : Path → Bool) (staging : Folder ByteArray)
    (path : Path) (data : Option ByteArray) (expectedSize : Int) :
    Except Failure (Folder ByteArray × ByteArray) :=
  match staging.makeDirectories path.dropLast with
  | none => .error .osError
  | some made =>
      if (made.get path).isSome || !holds path then .error .osError
      else
        match data with
        | none => .error .tarError
        | some content =>
            if expectedSize < content.size then .error (.backupError
              "archive member sizeが宣言値を超えました")
            else if (content.size : Int) ≠ expectedSize then
              .error (.backupError
                "archive member sizeが宣言値と一致しません")
            else
              match made.writeFile path content with
              | none => .error .osError
              | some written => .ok (written, content)

/-- One round of the loop over `expected`. -/
def stageMember (crypto : Crypto) (holds : Path → Bool)
    (members : List Member) (staging : Folder ByteArray)
    (expected : Expected) : Except Failure (Folder ByteArray) :=
  match byName members expected.path with
  | none => .error (.backupError "archive memberを読み取れません")
  | some member =>
      if member.size ≠ expected.size then .error (.backupError
        "manifestとarchive member sizeが一致しません")
      else do
        let (staged, content) ← copyMember holds staging
          (PurePosixPath.ofString expected.path).parts member.data
          expected.size
        if (crypto.sha256 content).text ≠ expected.sha256 then
          .error (.backupError "archive memberのSHA-256が一致しません")
        return staged

/-- What is found at the path of an archive. -/
inductive ArchiveSource where
  /-- Nothing, a link, or no file. -/
  | unsafeFile
  /-- `tarfile.open` fails. -/
  | unreadable
  /-- `getmembers` fails. -/
  | broken
  | archive (members : List Member)

/-- The manifest of the archive. -/
def loadManifest (members : List Member) : Except Failure Json := do
  let some member := byName members manifestName
    | .error (.backupError "manifestが存在しないか上限を超えています")
  if (maxManifestBytes : Int) < member.size then
    .error (.backupError "manifestが存在しないか上限を超えています")
  let some data := member.data | .error .tarError
  let some text := String.fromUTF8? data
    | .error (.backupError "manifest JSONが不正です")
  let some value := JsonText.loads text.toList
    | .error (.backupError "manifest JSONが不正です")
  return value

/-- The part of `_read_archive` after the manifest. -/
def stageMembers (environment : Environment Content) (members : List Member)
    (manifest : Manifest) : Except Failure (Folder ByteArray) := do
  let expected ← checkEntries manifest.files []
  if (expected.any fun entry => entry.path == databaseName) = false then
    .error (.backupError "archiveにSQLite DBがありません")
  let names := (members.map Member.name).filter (· != manifestName)
  if sameNames names (expected.map Expected.path) = false then
    .error (.backupError "manifestとarchive memberが一致しません")
  if manifest.includesLogs = false ∧
      (expected.any fun entry => "logs/".toList.isPrefixOf
        entry.path.toList) then
    .error (.backupError "manifestのlogs指定がmemberと一致しません")
  let staging ← expected.foldlM
    (stageMember environment.crypto (environment.disk .staging).holds members)
    .empty
  match staging.get ["database", "sluicery.db"] with
  | some (.file database) =>
      validateDatabase environment.sqlite database
      return staging
  | _ => .error (.backupError "SQLite DBの整合性検査に失敗しました")

/-- `_read_archive`: the manifest and what is staged. -/
def readArchive (environment : Environment Content) (secretKey : String)
    (source : ArchiveSource) :
    Except Failure (Manifest × Folder ByteArray) :=
  match source with
  | .unsafeFile => .error
      (.backupError "backup archiveが存在しないか安全ではありません")
  | .unreadable => .error (.backupError "backup archiveを開けません")
  | .broken => .error .tarError
  | .archive members => do
      if members = [] ∨ maxArchiveMembers < members.length then
        .error (.backupError "archive member数が不正です")
      let checked ← checkMembers members [] 0
      let value ← loadManifest checked
      let manifest ← checkManifest environment.crypto secretKey value
      let staging ← stageMembers environment checked manifest
      return (manifest, staging)

/-! ## Trees -/

/-- `_validate_target_tree`: the directory is made where there is none. -/
def validateTargetTree : EStateM Failure Location Unit := do
  match ← get with
  | .absent => set (Location.directory .empty)
  | .directory tree =>
      if tree.entries.entries.any fun entry =>
          !(entry.2.isFile || entry.2.isDirectory) then
        throw (.backupError
          "restore先directory内にsymlinkまたは特殊fileがあります")
  | .link => throw (.backupError "restore先directoryが安全ではありません")
  | .dangling | .other => throw .osError

/-- A file to restore, by its path below the root. -/
abbrev StagedFile := Path × ByteArray

/-- `staged_files`: the files of one staged tree. -/
def stagedFiles (staging : Folder ByteArray) (kind : String) :
    List StagedFile :=
  staging.entries.entries.filterMap fun entry =>
    match entry.1, entry.2 with
    | first :: name :: rest, .file content =>
        if first = kind then some (name :: rest, content) else none
    | _, _ => none

/-- A directory lies at the path of the file, or a file above it. -/
def conflicts (tree : Folder ByteArray) (path : Path) : Bool :=
  (tree.get path).any Entry.isDirectory ||
    path.inits.any fun parent => parent != path &&
      (tree.get parent).any fun entry => !entry.isDirectory

/-- `_atomic_copy`; a failed one can leave the directories it has made, and
the file when the directory could not be synchronized. -/
def atomicCopy (disk : Disk) (file : StagedFile) :
    EStateM Failure (Folder ByteArray) Unit := do
  match (← get).makeDirectories file.1.dropLast with
  | none => throw .osError
  | some made =>
      set made
      if disk.holds file.1 then
        match made.writeFile file.1 file.2 with
        | none => throw .osError
        | some written =>
            set written
            raiseIf (!disk.syncs file.1) .osError
      else throw .osError

/-- The loop over the staged files. -/
def copyFiles (disk : Disk) :
    List StagedFile → EStateM Failure (Folder ByteArray) Unit
  | [] => pure ()
  | file :: rest => do
      atomicCopy disk file
      copyFiles disk rest

/-- `current.unlink`. -/
def unlinkEntry (disk : Disk) (path : Path) :
    EStateM Failure (Folder ByteArray) Unit := do
  match (← get).unlink path with
  | none => throw .osError
  | some removed =>
      if disk.removes path then set removed else throw .osError

/-- One round of the loop which removes what is not staged.  That a directory
cannot be removed is ignored. -/
def removeUnstaged (disk : Disk) (staged : List StagedFile) (path : Path) :
    EStateM Failure (Folder ByteArray) Unit := do
  let tree ← get
  match tree.get path with
  | some (.special _) => unlinkEntry disk path
  | some (.file _) =>
      if staged.any fun file => file.1 == path then pure ()
      else unlinkEntry disk path
  | some .directory =>
      if disk.removes path then set ((tree.rmdir path).getD tree)
  | none => pure ()

/-- The loop which removes what is not staged. -/
def removeFiles (disk : Disk) (staged : List StagedFile) :
    List Path → EStateM Failure (Folder ByteArray) Unit
  | [] => pure ()
  | path :: rest => do
      removeUnstaged disk staged path
      removeFiles disk staged rest

/-- The paths with the deepest ones first. -/
def deepestFirst (tree : Folder ByteArray) : List Path :=
  tree.paths.insertionSort fun left right => right.length ≤ left.length

/-- What is not staged is removed, and the root synchronized. -/
def removeRest (disk : Disk) (staged : List StagedFile) :
    EStateM Failure (Folder ByteArray) Unit := do
  removeFiles disk staged (deepestFirst (← get))
  raiseIf (!disk.syncs []) .osError

/-- A computation on the tree of a directory. -/
def onTree {Value : Type}
    (program : EStateM Failure (Folder ByteArray) Value) :
    EStateM Failure Location Value := fun location =>
  match location with
  | .directory tree =>
      match program tree with
      | .ok value after => .ok value (.directory after)
      | .error failure after => .error failure (.directory after)
  | location => .error .osError location

/-- `_restore_tree` in a directory which was validated. -/
def restoreFiles (disk : Disk) (staged : List StagedFile)
    (exact : Bool) : EStateM Failure (Folder ByteArray) Nat := do
  let tree ← get
  if staged.any fun file => conflicts tree file.1 then
    throw (.backupError
      "restore先のfile / directory型がbackupと一致しません")
  copyFiles disk (staged.insertionSort fun left right =>
    String.intercalate "/" left.1 ≤ String.intercalate "/" right.1)
  if exact then removeRest disk staged
  return staged.length

/-- `_restore_tree`. -/
def restoreTree (disk : Disk) (staged : List StagedFile)
    (exact : Bool) : EStateM Failure Location Nat := do
  validateTargetTree
  onTree (restoreFiles disk staged exact)

/-! ## Restoring -/

/-- What lies at the paths which a restore writes. -/
structure State (Content : Type) where
  database : DatabaseEntry Content
  config : Location
  logs : Location

/-- A computation on the config tree. -/
def onConfig {Value : Type} (program : EStateM Failure Location Value) :
    EStateM Failure (State Content) Value := fun state =>
  match program state.config with
  | .ok value config => .ok value { state with config }
  | .error failure config => .error failure { state with config }

/-- A computation on the log tree. -/
def onLogs {Value : Type} (program : EStateM Failure Location Value) :
    EStateM Failure (State Content) Value := fun state =>
  match program state.logs with
  | .ok value logs => .ok value { state with logs }
  | .error failure logs => .error failure { state with logs }

/-- What the checkpoint of the existing database answers. -/
inductive Checkpoint where
  | done
  | busy
  | error
deriving DecidableEq, Repr

/-- `_checkpoint_existing_database`, after the check in front of it. -/
def checkpointExisting (database : DatabaseEntry Content)
    (checkpoint : Checkpoint) : Except Failure Unit :=
  match database with
  | .absent => .ok ()
  | .other _ => .error
      (.backupError "既存SQLite DBが安全な通常fileではありません")
  | .file _ =>
      match checkpoint with
      | .done => .ok ()
      | .busy => .error (.backupError
          "既存SQLite DBのWALが使用中です。全serviceを停止してください")
      | .error => .error
          (.backupError "既存SQLite DBのWAL checkpointに失敗しました")

/-- `RestoreResult`. -/
structure RestoreResult where
  configFiles : Nat
  logFiles : Nat
  secretKeyMatched : Bool
deriving DecidableEq, Repr

/-- The database of the archive, and whether the keys match. -/
def stagedDatabase (environment : Environment Content) (secretKey : String)
    (manifest : Manifest) (staging : Folder ByteArray) :
    Except Failure (ByteArray × Bool) :=
  match staging.get ["database", "sluicery.db"] with
  | some (.file database) => do
      let recorded ← databaseFingerprint environment.sqlite
        (environment.sqlite.connect database)
      if recorded.any fun text => text != manifest.fingerprint then
        .error (.backupError
          "backup DBとmanifestのSECRET_KEY指紋が一致しません")
      return (database, manifest.fingerprint ==
        environment.crypto.secretKeyFingerprint secretKey)
  | _ => .error (.backupError "SQLite DBを検査できません")

/-- The computation raises what another one raises. -/
def raising {Result Value : Type} (result : Except Failure Value) :
    EStateM Failure Result Value :=
  match result with
  | .ok value => pure value
  | .error failure => throw failure

/-- The targets are looked at before anything is written. -/
def checkTargets (checkpoint : Checkpoint) (hasLogs : Bool) :
    EStateM Failure (State Content) Unit := do
  onConfig validateTargetTree
  if hasLogs then onLogs validateTargetTree
  raising (checkpointExisting (← get).database checkpoint)

/-- The database takes the place of the existing one, whose WAL is removed. -/
def writeDatabase (disk : Disk) (database : DatabaseEntry Content) :
    EStateM Failure (State Content) Unit := do
  if disk.holds [] then
    modify fun state => { state with database }
    raiseIf (!(disk.syncs [] && disk.removes [])) .osError
  else throw .osError

/-- The config tree, the log tree and the database are written. -/
def writeTargets (environment : Environment Content)
    (staging : Folder ByteArray) (database : ByteArray) (hasLogs : Bool) :
    EStateM Failure (State Content) (Nat × Nat) := do
  let configFiles ← onConfig (restoreTree (environment.disk .config)
    (stagedFiles staging "config") true)
  let logFiles ←
    if hasLogs then
      onLogs (restoreTree (environment.disk .logs)
        (stagedFiles staging "logs") false)
    else pure 0
  writeDatabase (environment.disk .database)
    (.file (environment.sqlite.connect database))
  raising (validateDatabase environment.sqlite database)
  return (configFiles, logFiles)

/-- `restore_backup`. -/
def restoreBackup (environment : Environment Content) (secretKey : String)
    (source : ArchiveSource) (checkpoint : Checkpoint) :
    EStateM Failure (State Content) RestoreResult := do
  if environment.crypto.validKey secretKey = false then throw .valueError
  let (manifest, staging) ←
    raising (readArchive environment secretKey source)
  let (database, secretKeyMatched) ←
    raising (stagedDatabase environment secretKey manifest staging)
  let hasLogs := (staging.get ["logs"]).isSome
  checkTargets checkpoint hasLogs
  let (configFiles, logFiles) ←
    writeTargets environment staging database hasLogs
  return { configFiles, logFiles, secretKeyMatched }

end Sluicery.Backup
