import Sluicery.Library.Json
import Sluicery.Library.Table

/-!
# The tables

The rows of the SQLite database, with the columns which the modelled
operations read or write.  A primary key is the key of the row in its
`Table`; it is not a column.  Timestamps are UTC instants counted in
microseconds, and `isoformat` snapshots of them are the instants themselves.
-/

namespace Sluicery.Db

open Sluicery.Library

/-- A UTC instant, or a duration, in microseconds. -/
abbrev Time := Int

/-! ## Enumerations -/

inductive StorageKind where
  | «local»
  | remote
  | mount
deriving DecidableEq, Repr

inductive ProfileKind where
  | video
  | music
  | other
deriving DecidableEq, Repr

inductive MissingPolicy where
  | leave
  | redownload
  | ignore
deriving DecidableEq, Repr

inductive ItemMembership where
  | active
  | delisted
deriving DecidableEq, Repr

inductive TargetStatus where
  | pending
  | queued
  | downloading
  | processing
  | downloaded
  | failed
  | unavailable
  | blocked
  | missing
  | ignored
deriving DecidableEq, Repr

inductive ArtifactRole where
  | source
  | derived
deriving DecidableEq, Repr

inductive TaskType where
  | discover
  | download
  | verify
  | postprocess
  | publish
  | index
  | integrityCheck
  | retention
  | updateYtdlp
  | noop
  | sleep
  | fail
  | failUnavailable
  | failBlocked
  | spawn
deriving DecidableEq, Repr

inductive WorkerClass where
  | network
  | compute
deriving DecidableEq, Repr

inductive TaskStatus where
  | pending
  | queued
  | running
  | succeeded
  | failed
  | unavailable
  | blocked
  | cancelled
deriving DecidableEq, Repr

inductive RunTrigger where
  | manual
  | schedule
  | api
deriving DecidableEq, Repr

inductive RunStatus where
  | running
  | succeeded
  | failed
  | cancelled
  | skipped
deriving DecidableEq, Repr

/-! ## Rows -/

structure StorageRow where
  name : String
  kind : StorageKind
  enabled : Bool := true
  configJson : Option Json.Fields := none
  updatedAt : Time := 0
deriving DecidableEq, Repr

structure ProfileRow where
  name : String
  kind : ProfileKind
  postprocessChainJson : Option Json := none
  updatedAt : Time := 0
deriving DecidableEq, Repr

structure PlaylistRow where
  name : String
  folderName : String
  enabled : Bool := true
  paused : Bool := false
  missingPolicy : MissingPolicy := .leave
  dedupHardlink : Bool := false
  lastDiscoverAt : Option Time := none
  lastDownloadAt : Option Time := none
  updatedAt : Time := 0
deriving DecidableEq, Repr

structure PlaylistProfileRow where
  playlistId : Nat
  profileId : Nat
  storageId : Nat
  subpath : String := "\x7bplaylist.folder_name\x7d"
  enabled : Bool := true
  sortOrder : Int := 0
  updatedAt : Time := 0
deriving DecidableEq, Repr

structure ItemRow where
  playlistId : Nat
  sourceId : String
  sourceUrl : String := ""
  title : Option String := none
  uploader : Option String := none
  duration : Option Int := none
  uploadDate : Option String := none
  playlistIndex : Option Int := none
  membership : ItemMembership := .active
  metadataJson : Option Json.Fields := none
  firstSeenAt : Time := 0
  lastSeenAt : Time := 0
  delistedAt : Option Time := none
deriving DecidableEq, Repr

structure TargetRow where
  itemId : Nat
  playlistProfileId : Nat
  status : TargetStatus := .pending
  retryCount : Nat := 0
  lastError : Option String := none
  lastAttemptAt : Option Time := none
  blockedReason : Option String := none
  downloadedAt : Option Time := none
  updatedAt : Time := 0
deriving DecidableEq, Repr

structure ArtifactRow where
  targetId : Nat
  role : ArtifactRole := .source
  storageId : Nat
  relativePath : String
  absolutePathCache : Option String := none
  container : Option String := none
  formatId : Option String := none
  videoCodec : Option String := none
  audioCodec : Option String := none
  filesize : Option Int := none
  duration : Option Int := none
  checksum : Option String := none
  producedByTaskId : Option Nat := none
  verifiedAt : Option Time := none
  missingSince : Option Time := none
  manualLinkPreviousPath : Option String := none
  manualLinkedAt : Option Time := none
  updatedAt : Time := 0
deriving DecidableEq, Repr

structure TaskRow where
  type : TaskType
  targetRefType : String
  targetRefId : Nat
  payloadJson : Option Json.Fields := none
  workerClass : WorkerClass
  priority : Int := 0
  status : TaskStatus := .pending
  dependsOnTaskId : Option Nat := none
  attempts : Nat := 0
  maxAttempts : Nat := 5
  scheduledAt : Option Time := none
  startedAt : Option Time := none
  finishedAt : Option Time := none
  availableAt : Option Time := none
  blockedUntil : Option Time := none
  blockedReason : Option String := none
  heartbeatAt : Option Time := none
  workerId : Option String := none
  cancelRequested : Bool := false
  errorMessage : Option String := none
  runId : Option Nat := none
deriving DecidableEq, Repr

structure RunRow where
  trigger : RunTrigger
  kind : String
  playlistId : Option Nat
  status : RunStatus := .running
  startedAt : Time
  finishedAt : Option Time := none
  statsJson : Option Json.Fields := none
  logPath : Option String := none
deriving DecidableEq, Repr

/-! ## `onupdate` -/

/-- An Artifact which changes takes the time of the change. -/
def touchArtifact (now : Time) (change : ArtifactRow → ArtifactRow)
    (row : ArtifactRow) : ArtifactRow :=
  if change row = row then row else { change row with updatedAt := now }

/-- The columns other than the time are those of the change. -/
theorem column_touchArtifact {Value : Type} (column : ArtifactRow → Value)
    (stable : ∀ row time, column { row with updatedAt := time } = column row)
    (now : Time) (change : ArtifactRow → ArtifactRow) (row : ArtifactRow) :
    column (touchArtifact now change row) = column (change row) := by
  rw [touchArtifact]
  split
  · next same => rw [same]
  · exact stable _ _

/-- A Target which changes takes the time of the change. -/
def touchTarget (now : Time) (change : TargetRow → TargetRow)
    (row : TargetRow) : TargetRow :=
  if change row = row then row else { change row with updatedAt := now }

/-- The database. -/
structure Database where
  storage : Table StorageRow := .empty
  profile : Table ProfileRow := .empty
  playlist : Table PlaylistRow := .empty
  playlistProfile : Table PlaylistProfileRow := .empty
  item : Table ItemRow := .empty
  target : Table TargetRow := .empty
  artifact : Table ArtifactRow := .empty
  task : Table TaskRow := .empty
  run : Table RunRow := .empty

end Sluicery.Db
