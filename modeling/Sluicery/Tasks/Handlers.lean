import Sluicery.Core.TargetState
import Sluicery.Db.RunRepository
import Sluicery.Db.TaskRepository

/-!
# Task handlers

A handler's `run` commits its advance of the Target, works outside the
database, and commits its end.  So each handler is two functions: `start`,
up to the work outside, and `finish`, for the answer of the work.  What the
external tools did is the answer; an exception ends a `run` with its message.
-/

namespace Sluicery.Tasks.Handlers

open Sluicery.Library Sluicery.Db Sluicery.Core

/-! ## Results -/

/-- `TaskOutcome`. -/
inductive TaskOutcome where
  | succeeded
  | failed
  | unavailable
  | blocked
  | cancelled
deriving DecidableEq, Repr

/-- `TaskResult`. -/
structure TaskResult where
  outcome : TaskOutcome
  message : Option String := none
  payloadUpdate : Option Json.Fields := none
  reasonCode : Option String := none

/-- What a handler keeps while it works outside the database. -/
structure Work where
  targetId : Nat := 0
  workId : String := ""
  previous : Json.Fields := []
  storageId : Nat := 0
  artifactId : Nat := 0
  playlistId : Nat := 0
  dryRun : Bool := false

/-- Where a handler stands after its first part. -/
inductive Started where
  | returned (result : TaskResult)
  | raised (message : String)
  | working (work : Work)

/-! ## Values of a payload -/

/-- `isinstance(value, int)`; a `bool` is an `int`. -/
def asInt : Json → Option Int
  | .int value => some value
  | .bool value => some (if value then 1 else 0)
  | _ => none

/-- `isinstance(value, str)`. -/
def asStr : Json → Option String
  | .str value => some value
  | _ => none

/-- The integer under a key. -/
def intField (fields : Json.Fields) (key : String) : Option Int :=
  (Json.lookup fields key).bind asInt

/-- The string under a key; `_text` of the index handler. -/
def strField (fields : Json.Fields) (key : String) : Option String :=
  (Json.lookup fields key).bind asStr

/-- `_integer` of the index handler, which rejects `bool`. -/
def integerField (fields : Json.Fields) (key : String) : Option Int :=
  match Json.lookup fields key with
  | some (.int value) => some value
  | _ => none

/-- The row key of an integer: keys are positive, so no negative one is in use. -/
def rowKey (value : Int) : Nat := value.toNat

/-- `message[-4000:]`. -/
def tail4000 (message : String) : String :=
  String.ofList (message.toList.drop (message.toList.length - 4000))

/-- The text of an exception of `TargetState`. -/
def errorText : TransitionError → String
  | .notFound targetId => "Target " ++ toString targetId ++ " が見つかりません"
  | .invalid message => message
  | .conflict targetId =>
      "Target " ++ toString targetId ++ " の状態が同時に更新されました"

/-- `dependency_payload`. -/
def dependencyPayload (tasks : Table TaskRow) (taskId : Nat) :
    Except String Json.Fields :=
  match tasks.get taskId with
  | none => .error ("Task " ++ toString taskId ++ " が見つかりません")
  | some task =>
      match task.dependsOnTaskId with
      | none => .ok []
      | some parent =>
          match tasks.get parent with
          | none =>
              .error ("依存Task " ++ toString parent ++ " が見つかりません")
          | some dependency =>
              if dependency.status = .succeeded then
                .ok (dependency.payloadJson.getD [])
              else
                .error ("依存Task " ++ toString parent ++ " は成功していません")

/-- The advance of a handler: `LookupError` and `ValueError` are a failure. -/
def advanceFor (db : Database) (targetId : Nat) (status : TargetStatus)
    (now : Time) (failure : String) (work : Work) : Started × Database :=
  let advanced := advanceTarget db.target targetId status now
  let moved := { db with target := advanced.2 }
  match advanced.1 with
  | .ok _ => (.working work, moved)
  | .error (.conflict conflicting) =>
      (.raised (errorText (.conflict conflicting)), moved)
  | .error _ =>
      (.returned { outcome := .failed, message := some failure }, moved)

/-- A transition at the end of a handler, then its result. -/
def transitionThen (db : Database) (targetId : Nat) (status : TargetStatus)
    (error blockedReason : Option String) (incrementRetry : Bool)
    (now : Time) (result : TaskResult) :
    Except String TaskResult × Database :=
  match transitionTarget db.target targetId status error blockedReason
      incrementRetry now with
  | .error raised => (.error (errorText raised), db)
  | .ok target => (.ok result, { db with target })

/-! ## `DownloadHandler` -/

/-- `Classification` of a finished download or discover process. -/
inductive Classification where
  | ok
  | failed
  | unavailable
  | blocked
deriving DecidableEq, Repr

/-- `Classification.value`. -/
def Classification.value : Classification → String
  | .ok => "ok"
  | .failed => "failed"
  | .unavailable => "unavailable"
  | .blocked => "blocked"

/-- The rows `_load_target_graph` joins exist. -/
def hasTargetGraph (db : Database) (targetId : Nat) : Bool :=
  (do
    let target ← db.target.get targetId
    let item ← db.item.get target.itemId
    let assignment ← db.playlistProfile.get target.playlistProfileId
    let _ ← db.profile.get assignment.profileId
    let _ ← db.playlist.get item.playlistId
    return ()).isSome

/-- `DownloadHandler.run` up to the external download. -/
def downloadStart (db : Database) (payload : Json.Fields) (now : Time) :
    Started × Database :=
  match intField payload "target_id", strField payload "work_id" with
  | some target, some workId =>
      let targetId := rowKey target
      if workId = "" then
        (.returned { outcome := .failed,
                     message := some "download payloadが不正です" }, db)
      else if hasTargetGraph db targetId then
        advanceFor db targetId .downloading now
          "Targetをdownloadingへ遷移できません" { targetId, workId }
      else
        (.returned
          { outcome := .unavailable,
            message :=
              some ("Target " ++ toString target ++ " が見つかりません") },
          db)
  | _, _ =>
      (.returned { outcome := .failed,
                   message := some "download payloadが不正です" }, db)

/-- What the download process and the check of its file came to. -/
inductive DownloadAnswer where
  | cookieError
  | cancelled
  | file (filePath : String) (filesize : Nat) (formatId : Option String)
  /-- One of the four failures of `_success`. -/
  | rejectedFile (message : String)
  | failed (classification : Classification) (stderrTail : String)
      (reasonCode : Option String)

/-- The outcome, status and retry count of a failed download. -/
def downloadFailureOutcome :
    Classification → Option (TaskOutcome × TargetStatus × Bool)
  | .failed => some (.failed, .failed, true)
  | .unavailable => some (.unavailable, .unavailable, false)
  | .blocked => some (.blocked, .blocked, false)
  | .ok => none

/-- `DownloadHandler._failure`. -/
def downloadFailure (db : Database) (targetId : Nat)
    (classification : Classification) (message : String)
    (reasonCode : Option String) (now : Time) :
    Except String TaskResult × Database :=
  match downloadFailureOutcome classification with
  | none => (.error "KeyError", db)
  | some (outcome, status, incrementRetry) =>
      let error :=
        if message = "" then classification.value else tail4000 message
      transitionThen db targetId status (some error)
        (if status = .blocked then some error else none) incrementRetry now
        { outcome, message := some error, reasonCode }

/-- `DownloadHandler.run` after the external download. -/
def downloadFinish (db : Database) (work : Work) (answer : DownloadAnswer)
    (now : Time) : Except String TaskResult × Database :=
  match answer with
  | .cookieError =>
      downloadFailure db work.targetId .failed
        "PlaylistのCookie設定を読み込めません" (some "cookie_configuration")
        now
  | .cancelled => (.ok { outcome := .cancelled }, db)
  | .file filePath filesize formatId =>
      (.ok
        { outcome := .succeeded,
          payloadUpdate := some
            [("file_path", .str filePath), ("filesize", .int filesize),
              ("format_id", formatId.elim .null .str)] },
        db)
  | .rejectedFile message =>
      downloadFailure db work.targetId .failed message none now
  | .failed classification stderrTail reasonCode =>
      downloadFailure db work.targetId classification stderrTail reasonCode
        now

/-! ## `VerifyHandler` -/

/-- `VerifyHandler.run` up to the probe. -/
def verifyStart (db : Database) (taskId : Nat) (payload : Json.Fields)
    (now : Time) : Started × Database :=
  match intField payload "target_id" with
  | none =>
      (.returned { outcome := .failed,
                   message := some "verify payloadが不正です" }, db)
  | some target =>
      let targetId := rowKey target
      match dependencyPayload db.task taskId with
      | .error message => (.raised message, db)
      | .ok previous =>
          advanceFor db targetId .processing now
            "Targetをprocessingへ遷移できません" { targetId, previous }

/-- `_extract_metadata`, as the index handler reads it later. -/
structure Media where
  container : Option String
  videoCodec : Option String
  audioCodec : Option String
  duration : Option Int

/-- What the file check and the probe came to. -/
inductive VerifyAnswer where
  | cancelled
  /-- The file, the probe or its metadata is not usable. -/
  | failed (message : String)
  | probed (media : Media) (size : Nat) (verifiedAt : String)

/-- `VerifyHandler._failed`. -/
def verifyFailed (db : Database) (targetId : Nat) (message : String)
    (now : Time) : Except String TaskResult × Database :=
  let error := tail4000 message
  transitionThen db targetId .failed (some error) none true now
    { outcome := .failed, message := some error,
      payloadUpdate := some [("verify_error", .str error)] }

/-- The fields a successful probe adds to the payload. -/
def verifiedFields (previous : Json.Fields) (media : Media) (size : Nat)
    (verifiedAt : String) : Json.Fields :=
  [("container", media.container.elim .null .str),
    ("video_codec", media.videoCodec.elim .null .str),
    ("audio_codec", media.audioCodec.elim .null .str),
    ("duration", media.duration.elim .null .int),
    ("format_id", (strField previous "format_id").elim .null .str),
    ("filesize", .int size),
    ("verified_at", .str verifiedAt)]

theorem distinct_verifiedFields
    (previous : Json.Fields) (media : Media) (size : Nat)
    (verifiedAt : String) :
    ((verifiedFields previous media size verifiedAt).map Prod.fst).Nodup := by
  simp [verifiedFields]

/-- `VerifyHandler.run` after the advance. -/
def verifyFinish (db : Database) (work : Work) (answer : VerifyAnswer)
    (now : Time) : Except String TaskResult × Database :=
  if (strField work.previous "file_path").isNone then
    verifyFailed db work.targetId "download結果にfile_pathがありません" now
  else
    match answer with
    | .cancelled => (.ok { outcome := .cancelled }, db)
    | .failed message => verifyFailed db work.targetId message now
    | .probed media size verifiedAt =>
        (.ok
          { outcome := .succeeded,
            payloadUpdate := some (Json.update work.previous
              (verifiedFields work.previous media size verifiedAt)) },
          db)

/-! ## `PostprocessHandler` -/

/-- The chain of the Target's Profile, `None` when a row is missing. -/
def postprocessChain (db : Database) (targetId : Nat) : Option Json := do
  let target ← db.target.get targetId
  let assignment ← db.playlistProfile.get target.playlistProfileId
  let profile ← db.profile.get assignment.profileId
  profile.postprocessChainJson

/-- `chain in (None, [], {})`. -/
def isEmptyChain : Option Json → Bool
  | none | some .null | some (.arr []) | some (.obj []) => true
  | _ => false

/-- `PostprocessHandler.run`, which does not leave the database. -/
def postprocessStart (db : Database) (taskId : Nat)
    (payload : Json.Fields) : Started :=
  match intField payload "target_id" with
  | none =>
      .returned { outcome := .failed,
                  message := some "postprocess payloadが不正です" }
  | some target =>
      match dependencyPayload db.task taskId with
      | .error message => .raised message
      | .ok previous =>
          if isEmptyChain (postprocessChain db (rowKey target)) then
            .returned { outcome := .succeeded,
                        payloadUpdate := some previous }
          else
            .returned
              { outcome := .unavailable,
                message := some
                  "postprocess_chain_jsonの実処理は現バージョンでは未実装です" }

/-! ## `PublishHandler` -/

/-- `StorageClassification` of a failed storage operation. -/
inductive StorageClassification where
  | failed
  | unreachable
  | noSpace
deriving DecidableEq, Repr

/-- `PublishHandler._failure`. -/
def publishFailure (db : Database) (targetId : Nat)
    (classification : StorageClassification) (message : String)
    (now : Time) : Except String TaskResult × Database :=
  let blocked : Bool :=
    classification = .unreachable ∨ classification = .noSpace
  let error := tail4000 message
  transitionThen db targetId (if blocked then .blocked else .failed)
    (some error) (if blocked then some error else none) (!blocked) now
    { outcome := if blocked then .blocked else .failed,
      message := some error }

/-- The Storage of a Target whose other rows exist, too. -/
def publishStorage (db : Database) (targetId : Nat) :
    Option (Nat × StorageRow) := do
  let target ← db.target.get targetId
  let assignment ← db.playlistProfile.get target.playlistProfileId
  let storage ← db.storage.get assignment.storageId
  let item ← db.item.get target.itemId
  let _ ← db.playlist.get item.playlistId
  return (assignment.storageId, storage)

/-- A result or an exception, when the handler does not work outside. -/
def ended (finished : Except String TaskResult × Database) :
    Started × Database :=
  match finished.1 with
  | .ok result => (.returned result, finished.2)
  | .error message => (.raised message, finished.2)

/-- `PublishHandler.run` up to the storage operations. -/
def publishStart (db : Database) (taskId : Nat) (payload : Json.Fields)
    (now : Time) : Started × Database :=
  match intField payload "target_id", strField payload "work_id" with
  | some target, some workId =>
      let targetId := rowKey target
      match dependencyPayload db.task taskId with
      | .error message => (.raised message, db)
      | .ok previous =>
          match (publishStorage db targetId).filter
              fun found => found.2.enabled with
          | none =>
              ended (publishFailure db targetId .unreachable
                "出力先Storageが無効、または見つかりません" now)
          | some (storageId, _) =>
              advanceFor db targetId .processing now
                "Targetをprocessingへ遷移できません"
                { targetId, workId, previous, storageId }
  | _, _ =>
      (.returned { outcome := .failed,
                   message := some "publish payloadが不正です" }, db)

/-- What the storage operations came to. -/
inductive PublishAnswer where
  | failed (classification : StorageClassification) (message : String)
  | resumed (destination : String) (size : Nat)
  | hardlinked (destination : String) (size : Nat)
  | published (destination : String) (size : Nat)

/-- The fields of a successful publish. -/
def PublishAnswer.fields (storageId : Nat) :
    PublishAnswer → Json.Fields
  | .failed .. => []
  | .resumed destination size =>
      [("storage_id", .int storageId), ("relative_path", .str destination),
        ("publish_size", .int size), ("publish_resumed", .bool true)]
  | .hardlinked destination size =>
      [("storage_id", .int storageId), ("relative_path", .str destination),
        ("publish_size", .int size), ("publish_resumed", .bool false),
        ("publish_hardlinked", .bool true)]
  | .published destination size =>
      [("storage_id", .int storageId), ("relative_path", .str destination),
        ("publish_size", .int size), ("publish_resumed", .bool false)]

theorem PublishAnswer.distinct_fields
    (storageId : Nat) (answer : PublishAnswer) :
    ((answer.fields storageId).map Prod.fst).Nodup := by
  cases answer <;> simp [PublishAnswer.fields]

/-- `PublishHandler.run` after the advance. -/
def publishFinish (db : Database) (work : Work) (answer : PublishAnswer)
    (now : Time) : Except String TaskResult × Database :=
  if (strField work.previous "file_path").isNone then
    publishFailure db work.targetId .failed
      "postprocess結果にfile_pathがありません" now
  else
    match answer with
    | .failed classification message =>
        publishFailure db work.targetId classification message now
    | answer =>
        (.ok
          { outcome := .succeeded,
            payloadUpdate := some
              (Json.update work.previous (answer.fields work.storageId)) },
          db)

/-! ## `IndexHandler` -/

/-- The Artifact which the payload of a publish describes. -/
def indexedArtifact (taskId targetId storageId : Nat)
    (relativePath : String) (previous : Json.Fields)
    (parseDatetime : String → Option Time) (now : Time) : ArtifactRow :=
  { targetId
    role := .source
    storageId
    relativePath
    container := strField previous "container"
    formatId := strField previous "format_id"
    videoCodec := strField previous "video_codec"
    audioCodec := strField previous "audio_codec"
    filesize := integerField previous "filesize"
    duration := integerField previous "duration"
    checksum := none
    producedByTaskId := some taskId
    verifiedAt := (strField previous "verified_at").bind parseDatetime
    updatedAt := now }

/-- The download time is set once. -/
def setDownloadedAt (targets : Table TargetRow) (targetId : Nat)
    (now : Time) : Table TargetRow :=
  targets.updateWhere
    (fun key row => key == targetId && row.downloadedAt.isNone)
    (fun row => { row with downloadedAt := some now, updatedAt := now })

/-- The commits of `IndexHandler.run`: Artifact, Target, download time. -/
def indexAdvance (db : Database) (artifact : ArtifactRow) (work : Work)
    (now : Time) : Started × Database :=
  let created :=
    ArtifactRepository.createSourceIfMissing db.artifact artifact
  let advanced := advanceFor { db with artifact := created.2 }
    work.targetId .downloaded now "Targetをdownloadedへ遷移できません"
    { work with artifactId := created.1 }
  match advanced.1 with
  | .working _ =>
      (advanced.1, { advanced.2 with
        target := setDownloadedAt advanced.2.target work.targetId now })
  | _ => advanced

/-- `IndexHandler.run` up to the removal of the staging file. -/
def indexStart (db : Database) (taskId : Nat) (payload : Json.Fields)
    (parseDatetime : String → Option Time) (now : Time) :
    Started × Database :=
  match intField payload "target_id", strField payload "work_id" with
  | some target, some workId =>
      let targetId := rowKey target
      match dependencyPayload db.task taskId with
      | .error message => (.raised message, db)
      | .ok previous =>
          match intField previous "storage_id",
              strField previous "relative_path",
              strField previous "file_path" with
          | some storage, some relativePath, some _ =>
              let storageId := rowKey storage
              indexAdvance db
                (indexedArtifact taskId targetId storageId relativePath
                  previous parseDatetime now)
                { targetId, workId, previous, storageId } now
          | _, _, _ =>
              (.returned { outcome := .failed,
                           message := some "publish結果が不足しています" },
                db)
  | _, _ =>
      (.returned { outcome := .failed,
                   message := some "index payloadが不正です" }, db)

/-- `IndexHandler.run` after the removal of the staging file. -/
def indexFinish (work : Work) (stagingDeleted : Bool) : TaskResult :=
  { outcome := .succeeded,
    payloadUpdate := some (Json.update work.previous
      [("artifact_id", .int work.artifactId),
        ("staging_deleted", .bool stagingDeleted)]) }

/-! ## `DiscoverHandler` -/

/-- `SyncStats.to_dict` of a Run which applied nothing. -/
def emptyStats (emptyResult : Bool) : Json.Fields :=
  [("new_items", .int 0), ("delisted_items", .int 0),
    ("targets_queued", .int 0), ("targets_remaining", .int 0),
    ("downloaded", .int 0), ("failed", .int 0), ("blocked", .int 0),
    ("empty_result", .bool emptyResult)]

/-- `_finish_run`. -/
def finishRun (db : Database) (runId : Option Nat) (status : RunStatus)
    (stats : Json.Fields) (now : Time) : Database :=
  match runId with
  | none => db
  | some runId =>
      { db with run := (RunRepository.finish db.run runId status stats
        now).2 }

/-- `DiscoverHandler._failed` and `_unavailable`, by their outcome. -/
def discoverFailed (db : Database) (runId : Option Nat)
    (outcome : TaskOutcome) (message : String) (now : Time) :
    TaskResult × Database :=
  ({ outcome, message := some (tail4000 message) },
    finishRun db runId .failed (emptyStats true) now)

/-- `_run_id`: the Run of the task, or else the one the payload names. -/
def discoverRunId (payload : Json.Fields) (runId : Option Nat) :
    Option Nat :=
  runId.or ((intField payload "run_id").map rowKey)

/-- `payload.get("dry_run", False)`, when it is a `bool`. -/
def dryRunField (payload : Json.Fields) : Option Bool :=
  match Json.lookup payload "dry_run" with
  | none => some false
  | some (.bool value) => some value
  | some _ => none

/-- `DiscoverHandler.run` up to the external listing. -/
def discoverStart (db : Database) (payload : Json.Fields)
    (runId : Option Nat) (now : Time) : Started × Database :=
  let run := discoverRunId payload runId
  match intField payload "playlist_id", dryRunField payload, run with
  | some playlist, some dryRun, some _ =>
      match db.playlist.get (rowKey playlist) with
      | none =>
          let failed := discoverFailed db run .unavailable
            ("Playlist " ++ toString playlist ++ " が見つかりません") now
          (.returned failed.1, failed.2)
      | some _ =>
          (.working { playlistId := rowKey playlist, dryRun }, db)
  | _, _, _ =>
      let failed :=
        discoverFailed db run .failed "discover payloadが不正です" now
      (.returned failed.1, failed.2)

/-- What the external listing came to. -/
inductive DiscoverAnswer where
  | cookieError
  | cancelled
  | failed (classification : Classification) (stderrTail : String)
      (reasonCode : Option String)
  /-- `apply_discovery` has committed with these statistics. -/
  | applied (stats : Json.Fields)

/-- `DiscoverHandler.run` after the external listing. -/
def discoverFinish (db : Database) (payload : Json.Fields)
    (runId : Option Nat) (answer : DiscoverAnswer) (now : Time) :
    TaskResult × Database :=
  let run := discoverRunId payload runId
  match answer with
  | .cookieError =>
      discoverFailed db run .failed "PlaylistのCookie設定を読み込めません" now
  | .cancelled =>
      ({ outcome := .cancelled },
        finishRun db run .cancelled (emptyStats false) now)
  | .failed classification stderrTail reasonCode =>
      let message :=
        if tail4000 stderrTail = "" then classification.value
        else tail4000 stderrTail
      match classification with
      | .blocked =>
          ({ outcome := .blocked, message := some message, reasonCode }, db)
      | .unavailable => discoverFailed db run .unavailable message now
      | _ => discoverFailed db run .failed message now
  | .applied stats =>
      let finished :=
        RunRepository.finish db.run (run.getD 0) .succeeded stats now
      if finished.1 then
        ({ outcome := .succeeded,
           payloadUpdate := some [("stats", .obj stats)] },
          { db with run := finished.2 })
      else
        ({ outcome := .failed,
           message :=
            some ("Run " ++ toString (run.getD 0) ++ " が見つかりません") },
          db)

end Sluicery.Tasks.Handlers
