import Sluicery.Db.Models

/-!
# `RunRepository` and `ArtifactRepository`

Runs are started `RUNNING` and finished by one update, which leaves a
cancelled Run alone.  A source Artifact is inserted unless its unique key is
already there.
-/

namespace Sluicery.Db

open Sluicery.Library

namespace RunRepository

/-- `start`. -/
def start (runs : Table RunRow) (trigger : RunTrigger) (kind : String)
    (playlistId : Nat) (startedAt : Time) : Nat × Table RunRow :=
  (runs.nextKey, runs.insert
    { trigger, kind, playlistId := some playlistId, startedAt })

/-- The `WHERE` clause of `finish`. -/
def finishable (runId : Nat) (status : RunStatus) (key : Nat)
    (row : RunRow) : Bool :=
  key == runId && (status == .cancelled || row.status != .cancelled)

/-- The values of `finish`. -/
def finishValues (status : RunStatus) (stats : Json.Fields) (now : Time)
    (row : RunRow) : RunRow :=
  { row with status, statsJson := some stats, finishedAt := some now }

/-- `finish`. -/
def finish (runs : Table RunRow) (runId : Nat) (status : RunStatus)
    (stats : Json.Fields) (now : Time) : Bool × Table RunRow :=
  ((runs.get runId).any (finishable runId status runId),
    runs.updateWhere (finishable runId status)
      (finishValues status stats now))

theorem get_finish
    (runs : Table RunRow) (runId : Nat) (status : RunStatus)
    (stats : Json.Fields) (now : Time) (key : Nat) :
    (finish runs runId status stats now).2.get key =
      (runs.get key).map fun row =>
        if finishable runId status key row then
          finishValues status stats now row
        else row :=
  Table.get_updateWhere _ _ _ _

end RunRepository

namespace ArtifactRepository

/-- The columns of the unique key. -/
def sameKey (left right : ArtifactRow) : Bool :=
  left.targetId == right.targetId && left.role == right.role &&
    left.storageId == right.storageId &&
      left.relativePath == right.relativePath

/-- The Artifact with the key of the given row. -/
def find (artifacts : Table ArtifactRow) (row : ArtifactRow) :
    Option (Nat × ArtifactRow) :=
  (artifacts.select fun _ existing => sameKey existing row).head?

/-- `create_source_if_missing`: the Artifact's key. -/
def createSourceIfMissing (artifacts : Table ArtifactRow)
    (row : ArtifactRow) : Nat × Table ArtifactRow :=
  match find artifacts row with
  | some existing => (existing.1, artifacts)
  | none => (artifacts.nextKey, artifacts.insert row)

/-- The lookup depends on the unique key alone. -/
theorem find_congr
    (artifacts : Table ArtifactRow) {left right : ArtifactRow}
    (same : ∀ row, sameKey row left = sameKey row right) :
    find artifacts left = find artifacts right := by
  simp only [find, same]

/-- After `create_source_if_missing` the key leads to the row it found. -/
theorem find_createSourceIfMissing
    (artifacts : Table ArtifactRow) (row : ArtifactRow) :
    find (createSourceIfMissing artifacts row).2 row =
      some ((find artifacts row).getD (artifacts.nextKey, row)) := by
  rw [createSourceIfMissing]
  cases found : find artifacts row with
  | some existing => exact found
  | none =>
      rw [find, Table.select, List.head?_eq_none_iff] at found
      have isOwn : sameKey row row = true := by simp [sameKey]
      rw [find, Table.select, Table.insert, List.filter_append, found]
      simp [isOwn]

end ArtifactRepository

end Sluicery.Db
