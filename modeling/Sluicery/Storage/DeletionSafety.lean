import Sluicery.Storage.LocalDeletion
import Sluicery.Storage.RemoteDeletion

/-!
# What a deletion owes to the files, in both adapters
-/

namespace Sluicery.Storage

open Sluicery.Library Sluicery.Library.FileSystem
open Sluicery.Library.Transition

/-! ## Runs -/

namespace Local

/-- A file of one byte. -/
def oneByte : Entry where
  node := .regular [120]

/-- It is to be deleted. -/
def deleteOneByte : DeleteRequest where
  sha256 := fun _ => "digest"
  relativePath := "a"
  path := ["a"]
  quarantine := [".a"]
  expected :=
    { relativePath := "a"
      size := some 1
      modifiedAt := some "0"
      hashes := [("sha256", "digest")]
      fileId := some (fileId oneByte) }

/-- The file is at its path. -/
def beforeDelete : Deletion where
  ledger := { files := fun place => if place = ["a"] then some oneByte else none }

theorem untouched_beforeDelete : beforeDelete.ledger.Untouched :=
  ⟨rfl, rfl, rfl⟩

/-- It is taken and compared. -/
theorem takes_oneByte :
    Steps (step deleteOneByte) (Allowed deleteOneByte) beforeDelete
      { ledger := beforeDelete.ledger.take ["a"] [".a"]
        phase := .unlinking } := by
  have regular : ∀ entry, beforeDelete.ledger.files ["a"] = some entry →
      entry.isRegular = true := by
    rintro entry ⟨⟩
    rfl
  have resolved : Steps (step deleteOneByte) (Allowed deleteOneByte)
      beforeDelete _ :=
    Steps.single (show Allowed _ _ (.call none) from trivial) rfl
  have checked := resolved.tail
    (show Allowed _ _ (.call none) from trivial) rfl
  have taken := checked.tail
    (show Allowed _ _ (.call none) from fun _ _ => regular) rfl
  have opened := taken.tail (show Allowed _ _ (.call none) from rfl) rfl
  have statted := opened.tail
    (show Allowed _ _ (.call none) from trivial) rfl
  exact statted.tail (show Allowed _ _ (.call none) from trivial) rfl

/-- The file is deleted when every call succeeds. -/
theorem deletes_oneByte :
    ∃ deletion, Steps (step deleteOneByte) (Allowed deleteOneByte)
        beforeDelete deletion ∧ deletion.ending = some .deleted :=
  ⟨_, takes_oneByte.tail (show Allowed _ _ (.call none) from trivial) rfl,
    rfl⟩

/-- When `unlink` is refused, the file is given back. -/
theorem returns_oneByte :
    ∃ deletion, Steps (step deleteOneByte) (Allowed deleteOneByte)
        beforeDelete deletion ∧
      deletion.ending = some (.raised (some "delete_failed")) ∧
      deletion.ledger.files ["a"] = some oneByte := by
  have refused := takes_oneByte.tail
    (show Allowed _ _ (.call (some .eacces)) from trivial) rfl
  have inQuarantine := refused.tail
    (show Allowed _ _ (.call none) from fun _ => rfl) rfl
  have free := inQuarantine.tail
    (show Allowed _ _ (.call none) from fun _ _ => rfl) rfl
  have back := free.tail
    (show Allowed _ _ (.call none) from fun _ => ⟨rfl, rfl⟩) rfl
  exact ⟨_, back, rfl, rfl⟩

end Local

namespace Remote

/-- A file whose hash is listed. -/
def hashedFile : RemoteObject where
  size := some 1
  hashes := [("sha256", "digest")]

/-- It is to be deleted if it has a size. -/
def deleteSized (size : Int) : DeleteRequest where
  lower := id
  path := "a"
  quarantineRel := some "q"
  expected :=
    { relativePath := "a"
      size := some size
      modifiedAt := none
      hashes := [("sha256", "digest")] }

/-- The file is at its path. -/
def beforeDelete : Deletion where
  ledger :=
    { files := fun path => if path = "a" then some hashedFile else none }

theorem untouched_beforeDelete : beforeDelete.ledger.Untouched :=
  ⟨rfl, rfl, rfl⟩

/-- The quarantine is beside the file. -/
theorem command_checking (size : Int) :
    command (deleteSized size) beforeDelete .done =
      some { beforeDelete with phase := .taking } := by
  have beside : (PurePosixPath.ofString "q").parts.dropLast =
      (PurePosixPath.ofString "a").parts.dropLast := by
    rw [PurePosixPath.parts_ofString, PurePosixPath.parts_ofString]
    rfl
  simp only [command, beforeDelete, deleteSized, DeleteRequest.quarantine,
    Option.getD_some, beside, ne_eq, not_true_eq_false, if_false]
  rfl

/-- It is taken, and nobody uses its path. -/
theorem takes_hashedFile (size : Int) :
    Steps (step (deleteSized size)) (Allowed (deleteSized size)) beforeDelete
      { ledger := beforeDelete.ledger.take "a" "q"
        phase := .inspecting } := by
  have isFile : ∀ object, beforeDelete.ledger.files "a" = some object →
      object.isDir = false := by
    rintro object ⟨⟩
    rfl
  have checked : Steps (step (deleteSized size)) (Allowed (deleteSized size))
      beforeDelete _ :=
    Steps.single (show Allowed _ _ (.command .done) from trivial)
      (command_checking size)
  have taken := checked.tail
    (show Allowed _ _ (.command .done) from fun _ => isFile) rfl
  exact taken.tail
    (show Allowed _ _ (.command .done) from fun _ => ⟨false, rfl⟩) rfl

/-- The file is deleted when every command succeeds. -/
theorem deletes_hashedFile :
    ∃ deletion, Steps (step (deleteSized 1)) (Allowed (deleteSized 1))
        beforeDelete deletion ∧ deletion.ending = some .deleted := by
  have compared := (takes_hashedFile 1).tail
    (show Allowed _ _ (.command .done) from fun _ => rfl) rfl
  have deleted := compared.tail
    (show Allowed _ _ (.command .done) from nofun) rfl
  have ended := deleted.tail
    (show Allowed _ _ (.command .done) from ⟨false, rfl⟩) rfl
  exact ⟨_, ended, rfl⟩

/-- A file of another size is given back. -/
theorem returns_hashedFile :
    ∃ deletion, Steps (step (deleteSized 2)) (Allowed (deleteSized 2))
        beforeDelete deletion ∧
      deletion.ending = some (.raised (some "identity_changed")) ∧
      deletion.ledger.files "a" = some hashedFile := by
  have compared := (takes_hashedFile 2).tail
    (show Allowed _ _ (.command .done) from fun _ => rfl) rfl
  have free := compared.tail
    (show Allowed _ _ (.command .done) from fun _ => ⟨false, rfl⟩) rfl
  have back := free.tail (show Allowed _ _ (.command .done) from trivial) rfl
  have ended := back.tail
    (show Allowed _ _ (.command .done) from fun _ => .inl rfl) rfl
  exact ⟨_, ended, rfl, rfl⟩

end Remote

/-! ## Safety -/

end Sluicery.Storage
