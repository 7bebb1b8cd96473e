import Sluicery.Core.Sync

/-!
# The download phase

`execute_download_run` creates its Run, selects the Targets, checks their
Storages and enqueues one pipeline after the other.  Every commit is one step;
between two steps the other parties go on.  The session keeps the Targets as
it has selected them, so a later transition expects the selected status.
-/

namespace Sluicery.Core

open Sluicery.Library Sluicery.Db Sluicery.Db.TargetRepository

/-! ## State -/

/-- How far `execute_download_run` has come. -/
inductive DownloadStage where
  | started
  /-- The loop over the candidates, with `storage_checks`. -/
  | checking (candidates : List DownloadCandidate)
      (storageChecks : List (Nat × Option String)) (eligibleIds : List Nat)
  /-- The loop over `eligible_ids`. -/
  | queueing (eligibleIds : List Nat) (queued remaining : Nat)
  /-- The phase is over, and the Run not finished. -/
  | counted (queued blocked : Nat) (stats : Json.Fields)

/-- A call of `execute_download_run` which has not returned. -/
structure DownloadRun where
  playlistId : Nat
  runId : Nat
  targetLimit : Nat
  retryLimit : Nat
  queuedAt : Time := 0
  stage : DownloadStage := .started

/-- The Targets which the call has still before it. -/
def DownloadRun.ahead (run : DownloadRun) : List Nat :=
  match run.stage with
  | .checking candidates _ eligibleIds =>
      eligibleIds ++ candidates.map DownloadCandidate.targetId
  | .queueing eligibleIds _ _ => eligibleIds
  | _ => []

/-! ## Start -/

/-- The start of `execute_download_run`: the new Run. -/
def startDownloadRun (db : Database) (playlistId : Nat)
    (trigger : RunTrigger) (now : Time) : Except String (Nat × Database) :=
  match validateSyncStart db playlistId with
  | .error message => .error message
  | .ok () =>
      let run :=
        RunRepository.start db.run trigger "download" playlistId now
      .ok (run.1, { db with run := run.2 })

/-! ## The phase -/

/-- `transition_target`, for the status which the session has read. -/
def transitionRead (targets : Table TargetRow) (targetId : Nat)
    (current status : TargetStatus) (error blockedReason : Option String)
    (now : Time) : Except TransitionError (Table TargetRow) :=
  if (normalTransitions current ++ anyTransitions).contains status then
    let updated := compareAndSetStatus targets targetId [current] status
      error blockedReason false now
    if updated.1 then .ok updated.2 else .error (.conflict targetId)
  else
    .error (.invalid ("Target: " ++ targetStatusValue current ++ " -> " ++
      targetStatusValue status))

/-- `_check_storage`: the reason why the Storage is not usable. -/
def checkStorage (storage : StorageRow) (answer : Option String) :
    Option String :=
  if ¬ storage.enabled then some "Storageが無効です" else answer

/-- A Target whose Storage is not usable is blocked. -/
def blockCandidate (targets : Table TargetRow)
    (candidate : DownloadCandidate) (reason : String) (now : Time) :
    Except TransitionError (Table TargetRow) :=
  transitionRead targets candidate.targetId candidate.target.status .blocked
    (some reason) (some reason) now

/-- A failed or blocked Target is pending again. -/
def reopenCandidate (targets : Table TargetRow)
    (candidate : DownloadCandidate) (now : Time) :
    Except TransitionError (Table TargetRow) :=
  if candidate.target.status = .failed ∨
      candidate.target.status = .blocked then
    transitionRead targets candidate.targetId candidate.target.status
      .pending none none now
  else .ok targets

/-- The number of Targets of the Playlist with a status. -/
def countByStatus (db : Database) (playlistId : Nat)
    (status : TargetStatus) : Nat :=
  db.target.count fun _ target =>
    target.status == status &&
      (db.item.get target.itemId).any fun item =>
        item.playlistId == playlistId

/-- `SyncStats.to_dict` of a phase. -/
def syncStats (queued remaining downloaded failed blocked : Nat) :
    Json.Fields :=
  [("new_items", .int 0), ("delisted_items", .int 0),
    ("targets_queued", .int queued), ("targets_remaining", .int remaining),
    ("downloaded", .int downloaded), ("failed", .int failed),
    ("blocked", .int blocked), ("empty_result", .bool false)]

/-- `set_last_download_at`. -/
def setLastDownloadAt (db : Database) (playlistId : Nat)
    (queuedAt now : Time) : Database :=
  { db with
    playlist := db.playlist.modify playlistId fun playlist =>
      { playlist with
        lastDownloadAt := some queuedAt
        updatedAt := now } }

/-- An exception of `transition_target`, as the text of the Run's failure. -/
def raiseTransition {Value : Type} :
    Except TransitionError Value → Except String Value
  | .ok value => .ok value
  | .error (.notFound targetId) =>
      .error ("Target " ++ toString targetId ++ " が見つかりません")
  | .error (.invalid message) => .error message
  | .error (.conflict targetId) =>
      .error ("Target " ++ toString targetId ++
        " の状態が同時に更新されました")

namespace DownloadRun

/-- The first part of `queue_download_phase`. -/
def select (run : DownloadRun) (db : Database) (now : Time) :
    Except String DownloadRun :=
  match db.playlist.get run.playlistId with
  | none =>
      .error ("Playlist " ++ toString run.playlistId ++
        " が見つかりません")
  | some playlist =>
      if ¬ playlist.enabled ∨ playlist.paused then
        .error "無効または一時停止中のPlaylistは同期できません"
      else if run.targetLimit < 1 ∨ run.retryLimit < 1 then
        .error "同期上限と再試行上限は1以上で指定してください"
      else
        .ok { run with
          queuedAt := now
          stage := .checking
            (listDownloadCandidates db run.playlistId run.retryLimit) []
            [] }

/-- One round of the loop over the candidates. -/
def check (run : DownloadRun) (db : Database)
    (candidate : DownloadCandidate) (rest : List DownloadCandidate)
    (storageChecks : List (Nat × Option String)) (eligibleIds : List Nat)
    (answer : Option String) (now : Time) :
    Except String (DownloadRun × Database) :=
  let storageId := candidate.assignment.storageId
  let unusable := (storageChecks.lookup storageId).getD
    (checkStorage candidate.storage answer)
  let checked := (storageId, unusable) :: storageChecks
  match unusable with
  | some reason =>
      (raiseTransition (blockCandidate db.target candidate reason now)).map
        fun target =>
          ({ run with stage := .checking rest checked eligibleIds },
            { db with target })
  | none =>
      (raiseTransition (reopenCandidate db.target candidate now)).map
        fun target =>
          ({ run with
              stage := .checking rest checked
                (eligibleIds ++ [candidate.targetId]) },
            { db with target })

/-- One round of the loop over `eligible_ids`. -/
def enqueue (run : DownloadRun) (db : Database) (targetId : Nat)
    (rest : List Nat) (queued remaining : Nat) (workId : String)
    (now : Time) : Except String (DownloadRun × Database) :=
  if run.targetLimit ≤ queued then
    .ok ({ run with stage := .queueing rest queued (remaining + 1) }, db)
  else
    (raiseTransition (enqueueTargetPipeline db targetId (some run.runId)
      workId run.retryLimit now)).map fun enqueued =>
        ({ run with
            stage := .queueing rest
              (if enqueued.1.isSome then queued + 1 else queued)
              remaining },
          enqueued.2)

/-- The final status of the Run of a phase. -/
def finalStatus (queued blocked : Nat) : RunStatus :=
  if queued = 0 ∧ 0 < blocked then .failed else .succeeded

/-- The next commit, and the call unless it returns. -/
def proceed (run : DownloadRun) (db : Database) (answer : Option String)
    (workId : String) (now : Time) :
    Except String (Option DownloadRun × Database) :=
  match run.stage with
  | .started => (run.select db now).map fun next => (some next, db)
  | .checking [] _ eligibleIds =>
      .ok (some { run with stage := .queueing eligibleIds 0 0 }, db)
  | .checking (candidate :: rest) storageChecks eligibleIds =>
      (run.check db candidate rest storageChecks eligibleIds answer
        now).map fun next => (some next.1, next.2)
  | .queueing [] queued remaining =>
      let marked := setLastDownloadAt db run.playlistId run.queuedAt now
      let counts := countByStatus marked run.playlistId
      .ok (some { run with
        stage := .counted queued (counts .blocked)
          (syncStats queued remaining (counts .downloaded)
            (counts .failed) (counts .blocked)) }, marked)
  | .queueing (targetId :: rest) queued remaining =>
      (run.enqueue db targetId rest queued remaining workId now).map
        fun next => (some next.1, next.2)
  | .counted queued blocked stats =>
      .ok (none, { db with
        run := (RunRepository.finish db.run run.runId
          (finalStatus queued blocked) stats now).2 })

/-- The handler of an exception: the Run fails and the call returns. -/
def fail (run : DownloadRun) (db : Database) (now : Time) : Database :=
  { db with
    run := (RunRepository.finish db.run run.runId .failed
      (syncStats 0 0 0 0 0) now).2 }

end DownloadRun

end Sluicery.Core
