import Sluicery.Library.FileSystem
import Sluicery.Storage.Adapter
import Sluicery.Storage.RelativePath

/-!
# The local storage adapter

Files below a fixed root are published, moved, linked and deleted by calls of
the operating system.  What others do between two calls, and which call fails,
is an event for each step of an operation.
-/

namespace Sluicery.Storage

open Sluicery.Library Sluicery.Library.FileSystem

/-! ## Results and exceptions -/

inductive StorageClassification where
  | ok
  | failed
  | unreachable
  | authFailed
  | noSpace
  | permissionDenied
deriving DecidableEq, Repr

/-- `StorageOperationError`. -/
structure StorageOperationError where
  message : String
  classification : StorageClassification := .failed
  reasonCode : String := "operation_failed"
deriving DecidableEq, Repr

/-- The exceptions of the adapters. -/
inductive Failure where
  /-- `OSError`. -/
  | os (errno : Errno)
  /-- `StorageOperationError`. -/
  | operation (error : StorageOperationError)
  /-- `StoragePathError`. -/
  | path (message : String)
  /-- The `ValueError` of a name or a relative path. -/
  | value
  /-- The `RuntimeError` of a loop of links. -/
  | loop
deriving DecidableEq, Repr

/-- `PublishResult`. -/
structure PublishResult where
  success : Bool
  destRel : String
  size : Option Nat
  classification : StorageClassification
  reasonCode : String
  message : String
  checksumSha256 : Option String := none
  temporaryRel : Option String := none
deriving DecidableEq, Repr

/-- `_classification_for_os_error`. -/
def classificationForOsError (errno : Errno) : StorageClassification :=
  if errno ∈ [.enospc, .edquot] then .noSpace
  else if errno ∈ [.eacces, .eperm, .erofs] then .permissionDenied
  else .failed

/-- `_HARDLINK_FALLBACK_ERRNOS`. -/
def hardlinkFallbackErrnos : List Errno :=
  [.eacces, .eperm, .exdev, .enosys, .eopnotsupp]

namespace Local

/-- What an operation does to the files. -/
abbrev Operation := EStateM Failure World

/-- `LocalStorageAdapter`, with the hash and the longest walk of a path. -/
structure LocalStorageAdapter where
  root : Path
  sha256 : List UInt8 → String
  limit : Nat

/-! ## Calls of the operating system -/

/-- The errors which `Path.exists` and `Path.is_file` take for absence. -/
def ignoredErrnos : List Errno := [.enoent, .enotdir, .ebadf, .eloop]

section Calls

variable (adapter : LocalStorageAdapter)

/-- `Path.stat`. -/
def statPath (event : Event) (path : Path) : Operation Entry :=
  query .os event fun files => stat files adapter.limit path

/-- `os.lstat`. -/
def lstatPath (event : Event) (path : Path) : Operation Entry :=
  query .os event fun files => lstat files adapter.limit path

/-- An ignored error means that there is nothing. -/
def ignoreMissing (failure : Failure) : Operation Bool :=
  match failure with
  | .os errno => if errno ∈ ignoredErrnos then pure false else throw failure
  | _ => throw failure

/-- `Path.exists`. -/
def pathExists (event : Event) (path : Path) : Operation Bool :=
  tryCatch (do let _ ← statPath adapter event path; pure true) ignoreMissing

/-- `Path.is_file`. -/
def isFile (event : Event) (path : Path) : Operation Bool :=
  tryCatch (do pure (← statPath adapter event path).isRegular) ignoreMissing

/-- `Path.is_dir`. -/
def isDir (event : Event) (path : Path) : Operation Bool :=
  tryCatch
    (do pure ((← statPath adapter event path).node == .directory))
    ignoreMissing

/-- `os.path.lexists`. -/
def lexists (event : Event) (path : Path) : Operation Bool :=
  tryCatch (do let _ ← lstatPath adapter event path; pure true) fun failure =>
    match failure with
    | .os _ => pure false
    | _ => throw failure

/-- `_sha256`. -/
def sha256Path (event : Event) (path : Path) : Operation String := do
  pure (adapter.sha256
    (← query .os event fun files => readFile files adapter.limit path))

/-- `os.mkdir`. -/
def mkdir (event : Event) (path : Path) : Operation PUnit :=
  make .os event fun files =>
    create files adapter.limit path { node := .directory, stamp := event.stamp }

/-- A directory which is there is as good as a new one. -/
def existOk (event : Event) (path : Path) (failure : Failure) :
    Operation PUnit :=
  match failure with
  | .os _ => do
      if ← isDir adapter event path then pure ⟨⟩ else throw failure
  | _ => throw failure

/--
`Path.mkdir` with `parents` and `exist_ok`; the events of its calls are given
by the length of the path and by whether its parents have been made.
-/
def mkdirParents (makes looks : Nat → Bool → Event) :
    Nat → Path → Operation PUnit
  | 0, path => tryCatch (mkdir adapter (makes 0 false) path) fun failure =>
      match failure with
      | .os .enoent => throw failure
      | _ => existOk adapter (looks 0 false) path failure
  | depth + 1, path =>
      tryCatch (mkdir adapter (makes (depth + 1) false) path) fun failure =>
        match failure with
        | .os .enoent => do
            mkdirParents makes looks depth path.dropLast
            tryCatch (mkdir adapter (makes (depth + 1) true) path)
              fun failure =>
                match failure with
                | .os .enoent => throw failure
                | _ => existOk adapter (looks (depth + 1) true) path failure
        | _ => existOk adapter (looks (depth + 1) false) path failure

/-- `_rename_noreplace`. -/
def renameNoReplacePath (event : Event) (source destination : Path) :
    Operation PUnit :=
  perform .os event fun files =>
    renameNoReplace files adapter.limit source destination

end Calls

/-! ## Paths -/

/-- `validate_relative_path`. -/
def validated (rel : String) (allowEmpty : Bool := false) :
    Operation String :=
  match validateRelativePath rel allowEmpty with
  | .error message => throw (.path message)
  | .ok normalized => pure normalized

/-- `Path.resolve` raises a `RuntimeError` for a loop. -/
def resolveFailure (errno : Errno) : Failure :=
  if errno = .eloop then .loop else .os errno

/-- `root / rel`. -/
def LocalStorageAdapter.joined (adapter : LocalStorageAdapter)
    (rel : String) : Path :=
  adapter.root ++ (PurePosixPath.ofString rel).parts

/-- `_path`. -/
def LocalStorageAdapter.path (adapter : LocalStorageAdapter) (event : Event)
    (rel : String) (allowEmpty : Bool := false) : Operation Path := do
  let normalized ← validated rel allowEmpty
  let path ← query resolveFailure event fun files =>
    walk files false adapter.limit [] (adapter.joined normalized)
  if adapter.root <+: path then pure path
  else throw (.path "local Storage root の外を参照できません")

/-- `_no_follow_path`. -/
def LocalStorageAdapter.noFollowPath (adapter : LocalStorageAdapter)
    (event : Event) (rel : String) : Operation Path := do
  let normalized ← validated rel
  let unresolved := adapter.joined normalized
  let parent ← tryCatch
    (query resolveFailure event fun files =>
      walk files true adapter.limit [] unresolved.dropLast)
    fun failure =>
      match failure with
      | .os errno =>
          throw (.operation
            { message := "削除対象の親ディレクトリを確認できません"
              classification := classificationForOsError errno
              reasonCode := "source_not_found" })
      | _ => throw failure
  if adapter.root <+: parent then
    pure (parent ++ [unresolved.getLast?.getD ""])
  else throw (.path "local Storage root 外は削除できません")

/-! ## Publishing -/

/-- The steps of `publish`. -/
inductive PublishStep where
  | resolve
  | isFile
  | existsBefore
  | statExisting
  | mkdir (depth : Nat) (again : Bool)
  | isDir (depth : Nat) (again : Bool)
  | statSource
  | hashSource
  | link
  | copy
  | statTemp
  | hashTemp
  | statUnverified
  | existsAfter
  | rename
  | existsFailed
  | statFailed
  | namesFailed
deriving DecidableEq, Repr

/-- The name under which a file is staged. -/
def temporaryName (name hex : String) : String :=
  name ++ ".sluicery-tmp-" ++ hex

/-- `final_path.with_name(f"{final_path.name}.sluicery-tmp-{uuid4().hex}")`. -/
def temporaryPath (finalPath : Path) (hex : String) : Option Path :=
  finalPath.getLast?.map fun name =>
    finalPath.dropLast ++ [temporaryName name hex]

section Publish

variable (adapter : LocalStorageAdapter) (happens : PublishStep → Event)

/-- `_stage_without_removing_source`. -/
def stageWithoutRemovingSource (src tempPath : Path) : Operation PUnit :=
  tryCatch
    (make .os (happens .link) fun files =>
      link files adapter.limit src tempPath)
    fun failure =>
      match failure with
      | .os errno =>
          if errno ∈ hardlinkFallbackErrnos then
            copyFile .os (happens .copy) adapter.limit src tempPath
          else throw failure
      | _ => throw failure

/-- The staged file has the size and the hash of the source. -/
def isVerified (tempPath : Path) (sourceSize : Nat) (sourceHash : String) :
    Operation Bool := do
  let staged ← statPath adapter (happens .statTemp) tempPath
  if staged.size = sourceSize then
    pure ((← sha256Path adapter (happens .hashTemp) tempPath) == sourceHash)
  else pure false

/-- A refused destination. -/
def destinationExists (normalized message : String) (size : Nat)
    (checksum temporary : Option String := none) : PublishResult where
  success := false
  destRel := normalized
  size := some size
  classification := .failed
  reasonCode := "destination_exists"
  message := message
  checksumSha256 := checksum
  temporaryRel := temporary

/-- The staged file takes the final name. -/
def finalize (tempPath finalPath : Path) (normalized tempRel : String)
    (sourceSize : Nat) (sourceHash : String) (overwrite : Bool) :
    Operation PublishResult :=
  tryCatch
    (do
      if overwrite then
        perform .os (happens .rename) fun files =>
          rename files adapter.limit tempPath finalPath
      else
        renameNoReplacePath adapter (happens .rename) tempPath finalPath
      pure
        { success := true
          destRel := normalized
          size := some sourceSize
          classification := .ok
          reasonCode := "ok_source_retained"
          message := "一時名で検証後、最終名へ配置しました。元はindex完了まで保持します"
          checksumSha256 := some sourceHash })
    fun failure =>
      match failure with
      | .os .eexist =>
          pure (destinationExists normalized
            "最終化時に同名ファイルが作成されたため上書きしません" sourceSize
            (some sourceHash) (some tempRel))
      | _ => throw failure

/-- What `publish` does within its `try`. -/
def publishStaged (src tempPath finalPath : Path)
    (normalized tempRel : String) (sourceSize : Nat) (sourceHash : String)
    (overwrite : Bool) : Operation PublishResult := do
  stageWithoutRemovingSource adapter happens src tempPath
  let verified ← isVerified adapter happens tempPath sourceSize sourceHash
  if verified then do
    let isTaken ← pathExists adapter (happens .existsAfter) finalPath
    if isTaken && !overwrite then
      pure (destinationExists normalized
        "最終化前に同名ファイルが作成されたため上書きしません" sourceSize
        (some sourceHash) (some tempRel))
    else
      finalize adapter happens tempPath finalPath normalized tempRel
        sourceSize sourceHash overwrite
  else do
    let staged ← statPath adapter (happens .statUnverified) tempPath
    pure
      { success := false
        destRel := normalized
        size := some staged.size
        classification := .failed
        reasonCode := "verification_failed"
        message := "一時ファイルのサイズまたはチェックサムが一致しません"
        temporaryRel := some tempRel }

/-- What `publish` answers to an `OSError`. -/
def publishFailed (tempPath : Path) (normalized tempRel : String)
    (failure : Failure) : Operation PublishResult :=
  match failure with
  | .os errno => do
      let isStaged ← pathExists adapter (happens .existsFailed) tempPath
      let size ←
        if isStaged then do
          let staged ← statPath adapter (happens .statFailed) tempPath
          pure (some staged.size)
        else pure none
      let isNamed ← pathExists adapter (happens .namesFailed) tempPath
      pure
        { success := false
          destRel := normalized
          size
          classification := classificationForOsError errno
          reasonCode := "publish_failed"
          message := "publish に失敗しました。一時ファイルがあれば自動削除していません"
          temporaryRel := if isNamed then some tempRel else none }
  | _ => throw failure

/-- `publish` from the temporary name on. -/
def publishThrough (src tempPath finalPath : Path)
    (normalized tempRel : String) (overwrite : Bool) :
    Operation PublishResult := do
  let source ← statPath adapter (happens .statSource) src
  let sourceHash ← sha256Path adapter (happens .hashSource) src
  tryCatch
    (publishStaged adapter happens src tempPath finalPath normalized tempRel
      source.size sourceHash overwrite)
    (publishFailed adapter happens tempPath normalized tempRel)

/-- `publish` from the final path on. -/
def publishTo (hex : String) (src finalPath : Path) (normalized : String)
    (overwrite : Bool) : Operation PublishResult := do
  let isSource ← isFile adapter (happens .isFile) src
  if isSource then do
    let isTaken ← pathExists adapter (happens .existsBefore) finalPath
    if isTaken && !overwrite then do
      let existing ← statPath adapter (happens .statExisting) finalPath
      pure (destinationExists normalized
        "同名ファイルが既に存在するため上書きしません" existing.size)
    else do
      mkdirParents adapter (fun depth again => happens (.mkdir depth again))
        (fun depth again => happens (.isDir depth again))
        finalPath.dropLast.length finalPath.dropLast
      match temporaryPath finalPath hex with
      | none => throw .value
      | some tempPath =>
          if adapter.root <+: tempPath then
            publishThrough adapter happens src tempPath finalPath normalized
              (String.intercalate "/" (tempPath.drop adapter.root.length))
              overwrite
          else throw .value
  else
    pure
      { success := false
        destRel := normalized
        size := none
        classification := .failed
        reasonCode := "source_not_found"
        message := "publish 元ファイルが存在しません" }

/-- `publish`. -/
def publish (hex : String) (src : Path) (destRel : String)
    (overwrite : Bool) : Operation PublishResult := do
  let normalized ← validated destRel
  let finalPath ← adapter.path (happens .resolve) normalized
  publishTo adapter happens hex src finalPath normalized overwrite

end Publish

/-! ## Moving -/

/-- The steps of `move`. -/
inductive MoveStep where
  | resolveSource
  | resolve
  | mkdir (depth : Nat) (again : Bool)
  | isDir (depth : Nat) (again : Bool)
  | resolveDestination
  | lookSource
  | lstatSource
  | lookDestination
  | rename
deriving DecidableEq, Repr

/-- An `OSError` becomes a `StorageOperationError`. -/
def reported (message reasonCode : String) (failure : Failure) :
    Operation Result :=
  match failure with
  | .os errno =>
      throw (.operation
        { message, classification := classificationForOsError errno
          reasonCode })
  | _ => throw failure

section Move

variable (adapter : LocalStorageAdapter) (happens : MoveStep → Event)

/-- The destination of `move`, with its parents. -/
def prepareDestination (destRel : String) : Operation Path := do
  let candidate ← adapter.path (happens .resolve) destRel
  tryCatch
    (do
      mkdirParents adapter (fun depth again => happens (.mkdir depth again))
        (fun depth again => happens (.isDir depth again))
        candidate.dropLast.length candidate.dropLast
      adapter.noFollowPath (happens .resolveDestination) destRel)
    (reported "local Storage の移動先を準備できません" "move_failed")

/-- The source of `move` is a regular file. -/
def checkSource (src : Path) : Operation PUnit := do
  let isThere ← lexists adapter (happens .lookSource) src
  if isThere then
    tryCatch
      (do
        let entry ← lstatPath adapter (happens .lstatSource) src
        if entry.isRegular then pure ⟨⟩
        else
          throw (.operation
            { message := "移動元は通常ファイルではありません"
              reasonCode := "not_a_file" }))
      (reported "移動元を安全に確認できません" "unsafe_file")
  else
    throw (.operation
      { message := "移動元が存在しません", reasonCode := "source_not_found" })

/-- `move`. -/
def move (srcRel destRel : String) : Operation PUnit := do
  let src ← adapter.noFollowPath (happens .resolveSource) srcRel
  let dest ← prepareDestination adapter happens destRel
  checkSource adapter happens src
  let isTaken ← lexists adapter (happens .lookDestination) dest
  if isTaken then
    throw (.operation
      { message := "移動先が既に存在します"
        reasonCode := "destination_exists" })
  else
    tryCatch (renameNoReplacePath adapter (happens .rename) src dest)
      (reported "local Storage 内の移動に失敗しました" "move_failed")

end Move

/-! ## Linking -/

/-- The steps of `hardlink_from`. -/
inductive HardlinkStep where
  | resolveSource
  | resolve
  | mkdir (depth : Nat) (again : Bool)
  | isDir (depth : Nat) (again : Bool)
  | resolveDestination
  | opening
  | fstat
  | hash
  | link
  | lstatDestination
deriving DecidableEq, Repr

/-- `f"{st_dev}:{st_ino}"`. -/
def fileId (entry : Entry) : String :=
  toString entry.stamp.device ++ ":" ++ toString entry.stamp.inode

/-- The errors of a link which is not supported. -/
def unsupportedErrnos : List Errno := [.exdev, .eperm, .enoent, .eopnotsupp]

section Hardlink

variable (adapter : LocalStorageAdapter) (happens : HardlinkStep → Event)

/-- The open file is the expected one. -/
def isExpected (source : Entry) (expected : RemoteFile) : Operation Bool :=
  match expected.fileId, expected.hashes.lookup "sha256" with
  | some expectedId, some expectedHash =>
      if expectedId = fileId source ∧
          expected.size = some (source.size : Int) then do
        let bytes ← query .os (happens .hash) fun _ => source.read
        pure (expectedHash == adapter.sha256 bytes)
      else pure false
  | _, _ => pure false

/-- What `hardlink_from` does within its `try`. -/
def linkOpened (source destination : Path) (expected : RemoteFile) :
    Operation Bool := do
  let opened ← query .os (happens .opening) fun files =>
    openNoFollow files adapter.limit source
  let entry ← query .os (happens .fstat) fun _ => .ok opened
  if entry.isRegular then do
    let same ← isExpected adapter happens entry expected
    if same then do
      make .os (happens .link) fun files =>
        create files adapter.limit destination opened
      let made ← lstatPath adapter (happens .lstatDestination) destination
      if some (fileId made) = expected.fileId then pure true
      else
        throw (.operation
          { message :=
              "hardlink作成直後に移動先が差し替えられました。対象を確認してください"
            reasonCode := "hardlink_destination_changed" })
    else pure false
  else pure false

/-- What `hardlink_from` answers to an `OSError`. -/
def linkFailed (failure : Failure) : Operation Bool :=
  match failure with
  | .os .eexist =>
      throw (.operation
        { message := "hardlink移動先が既に存在します"
          reasonCode := "destination_exists" })
  | .os errno =>
      if errno ∈ unsupportedErrnos then pure false
      else
        reported "local Storageでhardlinkを作成できません" "hardlink_failed"
          failure
  | _ => throw failure

/-- `hardlink_from`; there is no source adapter if it is of another kind. -/
def hardlinkFrom (sourceAdapter : Option LocalStorageAdapter)
    (srcRel destRel : String) (expected : RemoteFile) : Operation Bool :=
  match sourceAdapter with
  | none => pure false
  | some sourceAdapter => do
      let source ← sourceAdapter.noFollowPath (happens .resolveSource) srcRel
      let candidate ← adapter.path (happens .resolve) destRel
      mkdirParents adapter (fun depth again => happens (.mkdir depth again))
        (fun depth again => happens (.isDir depth again))
        candidate.dropLast.length candidate.dropLast
      let destination ←
        adapter.noFollowPath (happens .resolveDestination) destRel
      tryCatch (linkOpened adapter happens source destination expected)
        linkFailed

end Hardlink

end Local

end Sluicery.Storage
