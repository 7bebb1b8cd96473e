import Sluicery.Downloader.Version

/-!
# Updating yt-dlp

`update_ytdlp` installs the newest version, switches to it, and tests it by a
real download.  When the test fails, the previous version is tested and, if
it is healthy, made the current one again.  Any operation may raise; only
`YtdlpInstallError` is caught, so the switch and the return are not one unit.
-/

namespace Sluicery.Core.YtdlpUpdate

open Sluicery.Library Sluicery.Library.Raising
open Sluicery.Db Sluicery.Downloader

/-! ## Smoke tests -/

/-- What a smoke test finds out about a version. -/
structure Observations where
  versionOk : Bool := true
  denoDetected : Bool := true
  metadataOk : Bool := true
  downloadOk : Bool := true
  challengeWarningAbsent : Bool := true
  extrasAvailable : Bool := true
  metadataEmbedded : Bool := true
  thumbnailAdvertised : Bool := false
  thumbnailEmbedded : Option Bool := some true
  /-- An exception inside the `try`. -/
  interrupted : Bool := false
  cleanupOk : Bool := true
deriving DecidableEq, Repr

/-- `SmokeTestResult`, without the duration. -/
structure SmokeTestResult where
  success : Bool
  version : String
  reasonCode : String
  checkedAt : String
  observations : Observations
deriving DecidableEq, Repr

/-- `checks`. -/
def checks (observations : Observations) : List (String × Bool) :=
  [("version_failed", observations.versionOk),
    ("deno_not_detected", observations.denoDetected),
    ("metadata_failed", observations.metadataOk),
    ("download_failed", observations.downloadOk),
    ("challenge_warning", observations.challengeWarningAbsent),
    ("extras_missing", observations.extrasAvailable),
    ("metadata_not_embedded", observations.metadataEmbedded),
    ("thumbnail_not_embedded", observations.thumbnailEmbedded == some true)]

/-- `reason_code` at the end of `run_smoketest`. -/
def reasonCode (observations : Observations) : String :=
  let reason :=
    if observations.interrupted then "smoketest_exception"
    else
      (((checks observations).find? fun check => !check.2).map
        Prod.fst).getD "ok"
  if !observations.cleanupOk && reason == "ok" then "cleanup_failed"
  else reason

/-- The result of a smoke test. -/
def smokeTestResult (version checkedAt : String)
    (observations : Observations) : SmokeTestResult where
  success := reasonCode observations == "ok"
  version
  reasonCode := reasonCode observations
  checkedAt
  observations

/-- `to_dict`. -/
def SmokeTestResult.toDict (result : SmokeTestResult) : Json.Fields :=
  [("success", .bool result.success),
    ("version", .str result.version),
    ("reason_code", .str result.reasonCode),
    ("checked_at", .str result.checkedAt),
    ("version_ok", .bool result.observations.versionOk),
    ("deno_detected", .bool result.observations.denoDetected),
    ("metadata_ok", .bool result.observations.metadataOk),
    ("download_ok", .bool result.observations.downloadOk),
    ("challenge_warning_absent",
      .bool result.observations.challengeWarningAbsent),
    ("extras_available", .bool result.observations.extrasAvailable),
    ("metadata_embedded", .bool result.observations.metadataEmbedded),
    ("thumbnail_advertised", .bool result.observations.thumbnailAdvertised),
    ("thumbnail_embedded",
      result.observations.thumbnailEmbedded.elim .null .bool),
    ("cleanup_ok", .bool result.observations.cleanupOk)]

/-- What happens around a smoke test. -/
structure Smoking where
  /-- `_smoke_parameters` raises. -/
  parametersRaise : Bool := false
  /-- Something before the `try` raises: the URL, the directory, a probe. -/
  prepareRaises : Bool := false
  /-- `_record_smoke` raises. -/
  recordRaises : Bool := false
  checkedAt : String := ""

/-- `_run_configured_smoke`. -/
def runConfiguredSmoke (happens : Smoking)
    (observe : String → Observations) (version : String) :
    EStateM Failure World SmokeTestResult := do
  raiseIf happens.parametersRaise .raised
  raiseIf happens.prepareRaises .raised
  let result := smokeTestResult version happens.checkedAt (observe version)
  modify fun world =>
    { world with
      smokeTests := world.smokeTests ++ [(version, result.success)] }
  pure result

/-- The rows with the result of a smoke test. -/
def smokeRecorded (releases : Table YtdlpReleaseRow)
    (result : SmokeTestResult) : Table YtdlpReleaseRow :=
  match getByVersion releases result.version with
  | none => releases
  | some release =>
      releases.modify release.1 fun row =>
        { row with smoketestResultJson := some result.toDict }

/-- `_record_smoke`. -/
def recordSmoke (happens : Smoking) (result : SmokeTestResult) :
    EStateM Failure World PUnit := do
  raiseIf happens.recordRaises .raised
  modify fun world =>
    { world with releases := smokeRecorded world.releases result }

/-! ## `update_ytdlp` -/

/-- `UpdateResult`. -/
structure UpdateResult where
  status : String
  candidateVersion : Option String
  activeVersion : Option String
  candidateSmoke : Option SmokeTestResult
  rollbackSmoke : Option SmokeTestResult := none

/-- What happens in `update_ytdlp`. -/
structure Updating where
  /-- `_update_lock` or `read_current_version` raises. -/
  lockRaises : Bool := false
  installing : Installing
  switching : Using := {}
  observe : String → Observations
  candidateSmoke : Smoking := {}
  keepRaises : Bool := false
  keepVersions : Nat := 3
  pruning : Pruning := {}
  latestRaises : Bool := false
  rollbackSmoke : Smoking := {}
  returning : Using := {}

/-- `_latest_rollback_version`. -/
def latestRollbackVersion (releases : Table YtdlpReleaseRow)
    (exclude : String) : Option String :=
  (latestDeactivated ((listInstalled releases).filter fun entry =>
    entry.2.version != exclude)).map fun row => row.version

/-- The version to return to. -/
def rollbackVersion (releases : Table YtdlpReleaseRow)
    (previous : Option String) (candidate : String) : Option String :=
  match previous with
  | some version =>
      if version = candidate then latestRollbackVersion releases candidate
      else some version
  | none => latestRollbackVersion releases candidate

/-- The rollback query reads the database. -/
def asksDatabase (previous : Option String) (candidate : String) : Bool :=
  previous.all (· == candidate)

/-- Installation and switch; `none` for a caught `YtdlpInstallError`. -/
def switchToCandidate (happens : Updating) (previous : Option String)
    (source : YtdlpReleaseSource) :
    EStateM Failure World (Option String) :=
  tryCatch (do
      let candidate ← install happens.installing none source false
      if previous ≠ some candidate.2 then use happens.switching candidate.2
      pure (some candidate.2))
    fun failure =>
      if failure = .ytdlpInstall then pure none else throw failure

/-- The end of an update whose candidate is healthy. -/
def keepCandidate (happens : Updating) (previous : Option String)
    (candidate : String) (smoke : SmokeTestResult) :
    EStateM Failure World UpdateResult := do
  raiseIf happens.keepRaises .raised
  let _ ← pruneOldVersions happens.pruning happens.keepVersions
  pure
    { status := if previous = some candidate then "no_change" else "updated"
      candidateVersion := some candidate
      activeVersion := some candidate
      candidateSmoke := some smoke }

/-- The return to the version before, if it is healthy. -/
def rollBack (happens : Updating) (previous : Option String)
    (candidate : String) (smoke : SmokeTestResult) :
    EStateM Failure World UpdateResult := do
  raiseIf (asksDatabase previous candidate && happens.latestRaises) .raised
  let world ← get
  match rollbackVersion world.releases previous candidate with
  | none =>
      pure
        { status := "failed"
          candidateVersion := some candidate
          activeVersion := some candidate
          candidateSmoke := some smoke }
  | some version =>
      let rollbackSmoke ←
        runConfiguredSmoke happens.rollbackSmoke happens.observe version
      recordSmoke happens.rollbackSmoke rollbackSmoke
      if rollbackSmoke.success then
        use happens.returning version
        pure
          { status := "rolled_back"
            candidateVersion := some candidate
            activeVersion := some version
            candidateSmoke := some smoke
            rollbackSmoke := some rollbackSmoke }
      else
        pure
          { status := "failed"
            candidateVersion := some candidate
            activeVersion := some candidate
            candidateSmoke := some smoke
            rollbackSmoke := some rollbackSmoke }

/-- The smoke test of the candidate and what follows from it. -/
def testCandidate (happens : Updating) (previous : Option String)
    (candidate : String) : EStateM Failure World UpdateResult := do
  let smoke ←
    runConfiguredSmoke happens.candidateSmoke happens.observe candidate
  recordSmoke happens.candidateSmoke smoke
  if smoke.success then keepCandidate happens previous candidate smoke
  else rollBack happens previous candidate smoke

/-- `update_ytdlp`. -/
def updateYtdlp (happens : Updating) (source : YtdlpReleaseSource) :
    EStateM Failure World UpdateResult := do
  raiseIf happens.lockRaises .raised
  let world ← get
  match ← switchToCandidate happens world.current source with
  | none =>
      pure
        { status := "install_failed"
          candidateVersion := none
          activeVersion := world.current
          candidateSmoke := none }
  | some candidate => testCandidate happens world.current candidate

end Sluicery.Core.YtdlpUpdate
