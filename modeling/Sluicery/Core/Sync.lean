import Sluicery.Core.TargetState
import Sluicery.Db.RunRepository
import Sluicery.Library.Returning
import Sluicery.Tasks.Pipeline

/-!
# Starting a synchronisation

`playlist_sync_is_active` is the lock of a playlist: an unfinished task or a
running Run.  A discover Run and its task are created in one transaction; the
download phase enqueues one pipeline per Target.
-/

namespace Sluicery.Core

open Sluicery.Library Sluicery.Db

/-- `playlist_sync_is_active`. -/
def playlistSyncIsActive (db : Database) (playlistId : Nat) : Bool :=
  db.task.any (fun _ task =>
    task.targetRefType == "playlist" && task.targetRefId == playlistId &&
      TaskRepository.isUnfinished task.status) ||
  db.task.any (fun _ task =>
    task.targetRefType == "target" &&
      TaskRepository.isUnfinished task.status &&
      ((db.target.get task.targetRefId).bind fun target =>
        db.item.get target.itemId).any fun item =>
          item.playlistId == playlistId) ||
  db.run.any (fun _ run =>
    run.playlistId == some playlistId && run.status == .running)

/-- `lock_and_validate_playlist_operation_start` and the checks after it. -/
def validateSyncStart (db : Database) (playlistId : Nat) :
    Except String Unit :=
  if playlistSyncIsActive db playlistId then
    .error ("Playlist " ++ toString playlistId ++
      " はdiscoverまたはdownloadを実行中です")
  else
    match db.playlist.get playlistId with
    | none => .error ("Playlist " ++ toString playlistId ++ " が見つかりません")
    | some playlist =>
        if ¬ playlist.enabled ∨ playlist.paused then
          .error "無効または一時停止中のPlaylistは同期できません"
        else .ok ()

theorem inactive_of_validateSyncStart
    {db : Database} {playlistId : Nat}
    (valid : validateSyncStart db playlistId = .ok ()) :
    playlistSyncIsActive db playlistId = false := by
  unfold validateSyncStart at valid
  split at valid
  · cases valid
  · next inactive => simpa using inactive

/-- `enqueue_discover_run`: the new Run and task. -/
def enqueueDiscoverRun (db : Database) (playlistId : Nat) (dryRun : Bool)
    (trigger : RunTrigger) (attempts : Nat) (now : Time) :
    Except String ((Nat × Nat) × Database) :=
  match validateSyncStart db playlistId with
  | .error message => .error message
  | .ok () =>
      if attempts < 1 then .error "再試行上限は1以上で指定してください"
      else
        let run :=
          RunRepository.start db.run trigger "discover" playlistId now
        let task := TaskRepository.enqueue db.task .discover "playlist"
          playlistId
          [("playlist_id", .int playlistId), ("dry_run", .bool dryRun)]
          .network attempts (some run.1)
        .ok ((run.1, task.1), { db with run := run.2, task := task.2 })

/-- A discover which starts has inserted its Run and its task. -/
theorem ok_of_enqueueDiscoverRun
    {db : Database} {playlistId attempts : Nat} {dryRun : Bool}
    {trigger : RunTrigger} {now : Time} {started : (Nat × Nat) × Database}
    (starts : enqueueDiscoverRun db playlistId dryRun trigger attempts now =
      .ok started) :
    validateSyncStart db playlistId = .ok () ∧ 1 ≤ attempts ∧
      started = ((db.run.nextKey, db.task.nextKey), { db with
        run := (RunRepository.start db.run trigger "discover" playlistId
          now).2
        task := (TaskRepository.enqueue db.task .discover "playlist"
          playlistId
          [("playlist_id", .int playlistId), ("dry_run", .bool dryRun)]
          .network attempts (some db.run.nextKey)).2 }) := by
  unfold enqueueDiscoverRun at starts
  split at starts
  · cases starts
  next valid =>
  split at starts
  · cases starts
  next positive =>
  exact ⟨valid, Nat.le_of_not_lt positive, (Except.ok.inj starts).symm⟩

/-- `enqueue_target_pipeline`, for the resolved work id. -/
def enqueueTargetPipeline (db : Database) (targetId : Nat)
    (runId : Option Nat) (workId : String) (maxAttempts : Nat)
    (now : Time) : Except TransitionError (Option (List Nat) × Database) :=
  match transitionTarget db.target targetId .queued none none false now with
  | .error (.notFound missing) => .error (.notFound missing)
  | .error _ => .ok (none, db)
  | .ok target =>
      let chain :=
        Tasks.enqueuePipeline db.task targetId runId workId maxAttempts
      .ok (some chain.1, { db with target, task := chain.2 })

end Sluicery.Core
