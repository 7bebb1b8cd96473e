import Mathlib.Logic.Function.Basic

/-!
# What a storage adapter does to the files

The files of all storages, by storage and normalised path.  The operations
are those of a successful adapter call: none of them overwrites, and each
changes the names it is given and no other.  Whether a call succeeds is up to
the caller's environment.
-/

namespace Sluicery.Storage

universe u

/-! ## Files -/

/-- A storage and a path below its root. -/
abbrev Place := Nat × String

/-- The files, with what a reader sees of each. -/
abbrev Files (File : Type u) := Place → Option File

/-- What `inspect_file` sees of a stored file. -/
structure StoredFile where
  size : Option Int
  modifiedAt : Option String := none
  hashes : List (String × String) := []
  fileId : Option String := none
deriving DecidableEq, Repr

/-- `RemoteFile`: a stored file with its path. -/
structure RemoteFile extends StoredFile where
  relativePath : String
deriving DecidableEq, Repr

/-- `not identity.hashes and identity.file_id is None`. -/
def RemoteFile.isWeak (file : RemoteFile) : Bool :=
  file.hashes.isEmpty && file.fileId.isNone

/-- Two dictionaries of hashes have the same items. -/
def sameHashes (left right : List (String × String)) : Bool :=
  left.all (fun entry => right.lookup entry.1 == some entry.2) &&
    right.all fun entry => left.lookup entry.1 == some entry.2

/-- `RemoteFile.__eq__`. -/
def RemoteFile.same (left right : RemoteFile) : Bool :=
  left.relativePath == right.relativePath && left.size == right.size &&
    left.modifiedAt == right.modifiedAt && left.fileId == right.fileId &&
    sameHashes left.hashes right.hashes

/-! ## Operations -/

variable {File : Type u}

/-- `publish` and `hardlink_from`: the final name appears, if it is free. -/
def publish (files : Files File) (place : Place) (file : File) :
    Option (Files File) :=
  match files place with
  | some _ => none
  | none => some (Function.update files place (some file))

/-- `move`: the file goes to a free name. -/
def move (files : Files File) (source destination : Place) :
    Option (Files File) :=
  match files source, files destination with
  | some file, none =>
      some (Function.update (Function.update files destination (some file))
        source none)
  | _, _ => none

/-- `inspect_file`. -/
def inspectFile (files : Files StoredFile) (place : Place) :
    Option RemoteFile :=
  (files place).map fun file => { file with relativePath := place.2 }

/-- `delete_file`: only the file with the expected identity is removed. -/
def deleteFile (files : Files StoredFile) (place : Place)
    (expected : RemoteFile) : Option (Files StoredFile) :=
  if inspectFile files place = some expected then
    some (Function.update files place none)
  else none

/-! ## What the operations keep -/

theorem publish_eq_some_iff
    (files after : Files File) (place : Place) (file : File) :
    publish files place file = some after ↔
      files place = none ∧
        after = Function.update files place (some file) := by
  rw [publish]
  constructor
  · intro published
    split at published
    · cases published
    · next free =>
        rw [Option.some.injEq] at published
        exact ⟨free, published.symm⟩
  · rintro ⟨free, rfl⟩
    rw [free]

/-- A published file stays: nothing is overwritten. -/
theorem publish_keeps
    {files after : Files File} {place other : Place} {file kept : File}
    (published : publish files place file = some after)
    (found : files other = some kept) : after other = some kept := by
  rcases (publish_eq_some_iff _ _ _ _).mp published with ⟨free, rfl⟩
  rw [Function.update_of_ne, found]
  rintro rfl
  rw [free] at found
  cases found

/-- A file after a publish is the published one, or was there before. -/
theorem publish_origin
    {files after : Files File} {place other : Place} {file found : File}
    (published : publish files place file = some after)
    (foundAfter : after other = some found) :
    (other = place ∧ found = file) ∨ files other = some found := by
  rcases (publish_eq_some_iff _ _ _ _).mp published with ⟨-, rfl⟩
  by_cases same : other = place
  · subst same
    rw [Function.update_self, Option.some.injEq] at foundAfter
    exact Or.inl ⟨rfl, foundAfter.symm⟩
  · rw [Function.update_of_ne same] at foundAfter
    exact Or.inr foundAfter

theorem deleteFile_eq_some_iff
    (files after : Files StoredFile) (place : Place) (expected : RemoteFile) :
    deleteFile files place expected = some after ↔
      inspectFile files place = some expected ∧
        after = Function.update files place none := by
  rw [deleteFile]
  constructor
  · intro deleted
    split at deleted
    · next same =>
        rw [Option.some.injEq] at deleted
        exact ⟨same, deleted.symm⟩
    · cases deleted
  · rintro ⟨same, rfl⟩
    rw [if_pos same]

end Sluicery.Storage
