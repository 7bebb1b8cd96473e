import Sluicery.Db.Models
import Mathlib.Data.List.Sort

/-!
# `TargetRepository`

The compare-and-set which every status change of a Target goes through, and
the query for the Targets of a download phase.
-/

namespace Sluicery.Db.TargetRepository

open Sluicery.Library

/-- The `values` of the update. -/
def statusValues (status : TargetStatus)
    (error blockedReason : Option String) (incrementRetry : Bool)
    (now : Time) (row : TargetRow) : TargetRow :=
  { row with
    status
    lastError := error
    blockedReason
    lastAttemptAt := some now
    retryCount :=
      if incrementRetry then row.retryCount + 1 else row.retryCount
    updatedAt := now }

/-- The `WHERE` clause of the update. -/
def expectedStatus (targetId : Nat) (expected : List TargetStatus)
    (key : Nat) (row : TargetRow) : Bool :=
  key == targetId && expected.contains row.status

/-- `compare_and_set_status`. -/
def compareAndSetStatus (targets : Table TargetRow) (targetId : Nat)
    (expected : List TargetStatus) (status : TargetStatus)
    (error blockedReason : Option String) (incrementRetry : Bool)
    (now : Time) : Bool × Table TargetRow :=
  ((targets.get targetId).any (expectedStatus targetId expected targetId),
    targets.updateWhere (expectedStatus targetId expected)
      (statusValues status error blockedReason incrementRetry now))

/-- The update changes the Target if its status is expected, and no other. -/
theorem get_compareAndSetStatus
    (targets : Table TargetRow) (targetId : Nat)
    (expected : List TargetStatus) (status : TargetStatus)
    (error blockedReason : Option String) (incrementRetry : Bool)
    (now : Time) (key : Nat) :
    (compareAndSetStatus targets targetId expected status error
        blockedReason incrementRetry now).2.get key =
      (targets.get key).map fun row =>
        if key = targetId ∧ row.status ∈ expected then
          statusValues status error blockedReason incrementRetry now row
        else row := by
  simp [compareAndSetStatus, Table.get_updateWhere, expectedStatus]

theorem compareAndSetStatus_accepted
    (targets : Table TargetRow) (targetId : Nat)
    (expected : List TargetStatus) (status : TargetStatus)
    (error blockedReason : Option String) (incrementRetry : Bool)
    (now : Time) :
    (compareAndSetStatus targets targetId expected status error
        blockedReason incrementRetry now).1 = true ↔
      ∃ row, targets.get targetId = some row ∧ row.status ∈ expected := by
  simp [compareAndSetStatus, Option.any_eq_true, expectedStatus]

/-! ## Download candidates -/

/-- A row of `list_download_candidates`. -/
structure DownloadCandidate where
  targetId : Nat
  target : TargetRow
  item : ItemRow
  assignment : PlaylistProfileRow
  storage : StorageRow

/-- The statuses which a download phase selects. -/
def isDownloadable (retryLimit : Nat) (target : TargetRow) : Bool :=
  match target.status with
  | .pending | .blocked => true
  | .failed => target.retryCount < retryLimit
  | _ => false

/-- The joined row of a Target which meets the `WHERE` clause. -/
def downloadCandidate (db : Database) (playlistId retryLimit : Nat)
    (entry : Nat × TargetRow) : Option DownloadCandidate := do
  let item ← db.item.get entry.2.itemId
  let assignment ← db.playlistProfile.get entry.2.playlistProfileId
  let storage ← db.storage.get assignment.storageId
  if item.playlistId = playlistId ∧ item.membership = .active ∧
      assignment.playlistId = playlistId ∧ assignment.enabled = true ∧
      isDownloadable retryLimit entry.2 = true then
    some { targetId := entry.1, target := entry.2, item, assignment,
           storage }
  else none

/-- `ORDER BY`; an absent index comes last. -/
def candidateBefore (left right : DownloadCandidate) : Bool :=
  let leftIndex := left.item.playlistIndex
  let rightIndex := right.item.playlistIndex
  let bySortOrder :=
    left.assignment.sortOrder < right.assignment.sortOrder ||
      (left.assignment.sortOrder == right.assignment.sortOrder &&
        left.targetId ≤ right.targetId)
  match leftIndex, rightIndex with
  | some _, none => true
  | none, some _ => false
  | none, none => bySortOrder
  | some left, some right =>
      left < right || (left == right && bySortOrder)

/-- `list_download_candidates`. -/
def listDownloadCandidates (db : Database) (playlistId retryLimit : Nat) :
    List DownloadCandidate :=
  (db.target.rows.filterMap
    (downloadCandidate db playlistId retryLimit)).insertionSort
      fun left right => candidateBefore left right = true

/-- The candidates are the Targets which meet the `WHERE` clause. -/
theorem mem_listDownloadCandidates_iff
    (db : Database) (playlistId retryLimit : Nat)
    (candidate : DownloadCandidate) :
    candidate ∈ listDownloadCandidates db playlistId retryLimit ↔
      ∃ targetId target, db.target.get targetId = some target ∧
        downloadCandidate db playlistId retryLimit (targetId, target) =
          some candidate := by
  rw [listDownloadCandidates, List.mem_insertionSort, List.mem_filterMap]
  simp only [Prod.exists, Table.get_eq_some_iff]

theorem downloadCandidate_eq_some_iff
    {db : Database} {playlistId retryLimit targetId : Nat}
    {target : TargetRow} {candidate : DownloadCandidate} :
    downloadCandidate db playlistId retryLimit (targetId, target) =
        some candidate ↔
      candidate.targetId = targetId ∧ candidate.target = target ∧
        db.item.get target.itemId = some candidate.item ∧
        db.playlistProfile.get target.playlistProfileId =
          some candidate.assignment ∧
        db.storage.get candidate.assignment.storageId =
          some candidate.storage ∧
        candidate.item.playlistId = playlistId ∧
        candidate.item.membership = .active ∧
        candidate.assignment.playlistId = playlistId ∧
        candidate.assignment.enabled = true ∧
        isDownloadable retryLimit target = true := by
  simp only [downloadCandidate, Option.bind_eq_bind,
    Option.bind_eq_some_iff, Option.ite_none_right_eq_some,
    Option.some.injEq]
  constructor
  · rintro ⟨item, isItem, assignment, isAssignment, storage, isStorage,
      meets, rfl⟩
    exact ⟨rfl, rfl, isItem, isAssignment, isStorage, meets⟩
  · rintro ⟨rfl, rfl, isItem, isAssignment, isStorage, meets⟩
    exact ⟨_, isItem, _, isAssignment, _, isStorage, meets, rfl⟩

/-- No Target is selected twice. -/
theorem distinct_listDownloadCandidates
    (db : Database) (playlistId retryLimit : Nat) :
    ((listDownloadCandidates db playlistId retryLimit).map
      DownloadCandidate.targetId).Nodup := by
  rw [listDownloadCandidates, List.Perm.nodup_iff
    ((List.perm_insertionSort _ _).map _)]
  have distinct : (db.target.rows.map Prod.fst).Nodup :=
    db.target.ascending.imp Nat.ne_of_lt
  revert distinct
  induction db.target.rows with
  | nil => exact fun _ => List.nodup_nil
  | cons entry rest induction =>
      intro distinct
      rw [List.map_cons, List.nodup_cons] at distinct
      rw [List.filterMap_cons]
      split
      · exact induction distinct.2
      · next candidate isCandidate =>
          rw [List.map_cons, List.nodup_cons]
          refine ⟨fun member => distinct.1 ?_, induction distinct.2⟩
          obtain ⟨other, isOther, same⟩ := List.mem_map.mp member
          obtain ⟨entry', inRest, isEntry'⟩ :=
            List.mem_filterMap.mp isOther
          rw [(downloadCandidate_eq_some_iff.mp isCandidate).1,
            (downloadCandidate_eq_some_iff.mp isEntry').1] at same
          rw [← same]
          exact List.mem_map_of_mem inRest

end Sluicery.Db.TargetRepository
