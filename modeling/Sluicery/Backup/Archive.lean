import Mathlib
import Sluicery.Library.FileTree
import Sluicery.Library.JsonLines
import Sluicery.Library.PosixPath
import Sluicery.Library.Returning

/-!
# Backup archives

`create_backup` writes a manifest, a snapshot of the database and the files of
the config and log trees into an archive, and `_read_archive` takes an archive
apart again, checking everything it says.  What hashing and SQLite do is a
parameter; an archive is the list of its members, as `tarfile` gives it.
-/

namespace Sluicery.Backup

open Sluicery.Library Sluicery.Library.FileTree

/-! ## Failures and parameters -/

/-- The exceptions; `SecretKeyMismatchError` is a `BackupError`. -/
inductive Failure where
  | backupError (message : String)
  | secretKeyMismatch (message : String)
  | osError
  | valueError
  | tarError
deriving DecidableEq, Repr

def Failure.isBackupError : Failure → Bool
  | .backupError _ | .secretKeyMismatch _ => true
  | .osError | .valueError | .tarError => false

/-- `_SHA256.fullmatch`. -/
def isSha256 (text : String) : Bool :=
  text.length == 64 && text.toList.all fun char =>
    ('0' ≤ char && char ≤ '9') || ('a' ≤ char && char ≤ 'f')

/-- What `hexdigest` returns for SHA-256. -/
structure Digest where
  text : String
  isHex : isSha256 text = true

structure Crypto where
  /-- `Fernet` accepts the key, which is in ASCII as `_manifest_hmac` needs it. -/
  validKey : String → Bool
  sha256 : ByteArray → Digest
  /-- The HMAC of a message under the bytes of the key. -/
  hmacSha256 : String → ByteArray → Digest

/-- `secret_key_fingerprint`. -/
def Crypto.secretKeyFingerprint (crypto : Crypto) (secretKey : String) :
    String :=
  (crypto.sha256 secretKey.toUTF8).text

/-- What SQLite makes of databases with this content; `none` is an error. -/
structure Sqlite (Content : Type) where
  /-- What a connection finds in a file. -/
  connect : ByteArray → Option Content
  /-- The file which the backup API writes. -/
  snapshot : Content → Option ByteArray
  /-- Whether `PRAGMA quick_check` answers `ok`. -/
  quickCheck : ByteArray → Option Bool
  /-- The fingerprint among the settings, if there is a text. -/
  fingerprint : Content → Option (Option String)
  connect_snapshot : ∀ content file, snapshot content = some file →
    connect file = some content

/-- Where files are made. -/
inductive Site where
  | staging
  | config
  | logs
  | database
deriving DecidableEq, Repr

/-- What the file system lets be done, by the path. -/
structure Disk where
  /-- A file can be made, under a temporary name beside it where the code uses
  one. -/
  holds : Path → Bool
  /-- The directory of a file which has been made can be synchronized; at the
  root, when the rest has been removed. -/
  syncs : Path → Bool
  /-- The entry can be removed. -/
  removes : Path → Bool

/-- Everything can be done. -/
def Disk.unlimited : Disk where
  holds := fun _ => true
  syncs := fun _ => true
  removes := fun _ => true

structure Environment (Content : Type) where
  crypto : Crypto
  sqlite : Sqlite Content
  disk : Site → Disk

/-- What lies at the path of a directory. -/
inductive Location where
  | absent
  | directory (tree : Folder ByteArray)
  /-- A link to a directory. -/
  | link
  /-- A link to nothing. -/
  | dangling
  | other

/-- `Path.exists`. -/
def Location.exists : Location → Bool
  | .absent | .dangling => false
  | .directory _ | .link | .other => true

/-- What lies at the path of the database, with what a connection finds. -/
inductive DatabaseEntry (Content : Type) where
  | absent
  | file (content : Option Content)
  /-- A link to something, or no regular file. -/
  | other (content : Option Content)

def maxArchiveMembers : Nat := 100000

def maxArchiveUncompressedBytes : Nat := 20 * 1024 ^ 3

def maxManifestBytes : Nat := 1024 * 1024

/-- A member of an archive; data which cannot be read is missing. -/
structure Member where
  name : String
  isFile : Bool := true
  size : Int
  data : Option ByteArray

/-! ## Creating -/

/-- `_ArchiveFile`, with the content of its source.  The source is not written
meanwhile: the code reads it for the size, for the digest and for the archive. -/
structure ArchiveFile where
  path : String
  content : ByteArray
  sha256 : String

def ArchiveFile.size (file : ArchiveFile) : Nat := file.content.size

/-- The file of a tree under its name in the archive. -/
def archiveFile (crypto : Crypto) (kind : String) (path : Path)
    (content : ByteArray) : ArchiveFile where
  path := kind ++ "/" ++ String.intercalate "/" path
  content
  sha256 := (crypto.sha256 content).text

/-- `_safe_tree_files`. -/
def safeTreeFiles (crypto : Crypto) (kind : String) :
    Location → Except Failure (List ArchiveFile)
  | .directory tree =>
      tree.entries.entries.foldlM (fun files entry =>
        match entry.2 with
        | .directory => .ok files
        | .file content =>
            .ok (files ++ [archiveFile crypto kind entry.1 content])
        | .special true => .error (.backupError
            (kind ++ " directory内のsymlinkは保存できません"))
        | .special false => .error (.backupError
            (kind ++ " directory内の特殊fileは保存できません"))) []
  | _ => .error (.backupError
      (kind ++ " directoryが存在しないか安全ではありません"))

/-- `_database_fingerprint`. -/
def databaseFingerprint {Content : Type} (sqlite : Sqlite Content)
    (content : Option Content) : Except Failure (Option String) :=
  match content.bind sqlite.fingerprint with
  | some fingerprint => .ok fingerprint
  | none => .error (.backupError "SQLite DBを検査できません")

/-- `_validate_database`. -/
def validateDatabase {Content : Type} (sqlite : Sqlite Content)
    (file : ByteArray) : Except Failure Unit :=
  match sqlite.quickCheck file with
  | none =>
      .error (.backupError "SQLite DBの整合性検査に失敗しました")
  | some false => .error
      (.backupError "SQLite DBのquick_checkが正常ではありません")
  | some true => .ok ()

/-- `_snapshot_database`. -/
def snapshotDatabase {Content : Type} (sqlite : Sqlite Content)
    (entry : DatabaseEntry Content) : Except Failure ByteArray :=
  match entry with
  | .file content =>
      match content.bind sqlite.snapshot with
      | none => .error (.backupError
          "SQLite backup APIによるsnapshot作成に失敗しました")
      | some file => (validateDatabase sqlite file).map fun _ => file
  | _ => .error (.backupError "SQLite DBが存在しないか安全ではありません")

/-- `_LABEL.fullmatch`. -/
def isLabel (label : String) : Bool :=
  let isAlphanumeric := fun char : Char =>
    ('0' ≤ char && char ≤ '9') || ('a' ≤ char && char ≤ 'z')
  label.length ≤ 32 && label.toList.head?.any isAlphanumeric &&
    label.toList.all fun char => isAlphanumeric char || char == '-'

/-- The arguments of `create_backup`, the time and the random part of a name. -/
structure Request where
  secretKey : String
  includeLogs : Bool := false
  label : Option String := none
  /-- The time in the manifest. -/
  createdAt : String
  /-- The time in the name of the archive. -/
  stem : String
  token : String

def entryJson (file : ArchiveFile) : Json :=
  .obj [("path", .str file.path), ("size", .int file.size),
    ("sha256", .str file.sha256)]

/-- The manifest without its signature. -/
def manifestFields (crypto : Crypto) (request : Request)
    (files : List ArchiveFile) : Json.Fields :=
  [("schema_version", .int 1), ("created_at", .str request.createdAt),
    ("secret_key_fingerprint",
      .str (crypto.secretKeyFingerprint request.secretKey)),
    ("includes_logs", .bool request.includeLogs),
    ("files", .arr (files.map entryJson))]

/-- `json.dumps` with sorted keys and no spaces. -/
def canonical (fields : Json.Fields) : String :=
  String.ofList (JsonText.write false (JsonLines.sortKeys (.obj fields)))

/-- `_manifest_hmac`. -/
def manifestHmac (crypto : Crypto) (fields : Json.Fields)
    (secretKey : String) : String :=
  (crypto.hmacSha256 secretKey
    ("sluicery-backup-manifest-v1\x00" ++ canonical fields).toUTF8).text

/-- `manifest_bytes`. -/
def manifestBytes (crypto : Crypto) (request : Request)
    (files : List ArchiveFile) : ByteArray :=
  let fields := manifestFields crypto request files
  (canonical (fields ++ [("manifest_hmac_sha256",
    .str (manifestHmac crypto fields request.secretKey))])).toUTF8

/-- The sum of the sizes. -/
def totalBytes (files : List ArchiveFile) : Nat :=
  (files.map ArchiveFile.size).sum

/-- `BackupResult`. -/
structure BackupResult where
  archiveName : String
  fileCount : Nat
  totalBytes : Nat
  includedLogs : Bool

def databaseName : String := "database/sluicery.db"

/-- The name of the archive. -/
def archiveName (request : Request) : String :=
  "sluicery-" ++ request.stem ++
    (match request.label with
      | some label => if label = "" then "" else "-" ++ label
      | none => "") ++ "-" ++ request.token ++ ".tar.gz"

/-- The members in the order in which they are added. -/
def archiveMembers (manifest : ByteArray) (files : List ArchiveFile) :
    List Member :=
  { name := "manifest.json", size := manifest.size, data := some manifest } ::
    files.map fun file =>
      { name := file.path, size := file.size, data := some file.content }

/-- What is archived, in the order of the names. -/
def archiveFiles (crypto : Crypto) (database : ByteArray)
    (config logs : List ArchiveFile) : List ArchiveFile :=
  ({ path := databaseName, content := database
     sha256 := (crypto.sha256 database).text } :: config ++
    logs).insertionSort fun left right => left.path ≤ right.path

/-- `output_dir` is made where there is none. -/
def checkOutput : Location → Except Failure Unit
  | .absent | .directory _ => .ok ()
  | .link => .error
      (.backupError "backup出力先が安全なdirectoryではありません")
  | .dangling | .other => .error .osError

/-- `create_backup`. -/
def createBackup {Content : Type} (environment : Environment Content)
    (database : DatabaseEntry Content) (config logs output : Location)
    (request : Request) : Except Failure (BackupResult × List Member) := do
  let crypto := environment.crypto
  if crypto.validKey request.secretKey = false then .error .valueError
  if request.label.any fun label => !isLabel label then
    .error (.backupError "backup labelが不正です")
  checkOutput output
  let recorded ← databaseFingerprint environment.sqlite
    (match database with
      | .absent => none
      | .file content | .other content => content)
  if recorded.any fun text =>
      text != crypto.secretKeyFingerprint request.secretKey then
    .error (.secretKeyMismatch
      "現在のSECRET_KEYがDB記録の指紋と一致しないためbackupを中止しました")
  let snapshot ← snapshotDatabase environment.sqlite database
  let configFiles ← safeTreeFiles crypto "config" config
  let logFiles ←
    if request.includeLogs && logs.exists then
      safeTreeFiles crypto "logs" logs
    else .ok []
  let files := archiveFiles crypto snapshot configFiles logFiles
  if maxArchiveUncompressedBytes < totalBytes files then
    .error (.backupError "backup対象がuncompressed size上限を超えています")
  let manifest := manifestBytes crypto request files
  if maxManifestBytes < manifest.size then
    .error (.backupError "backup manifestが上限を超えています")
  return ({ archiveName := archiveName request, fileCount := files.length
            totalBytes := totalBytes files
            includedLogs := request.includeLogs },
    archiveMembers manifest files)

end Sluicery.Backup
