import Mathlib.Data.List.Basic
import Mathlib.Logic.Function.Basic

/-!
# Deleting by way of a quarantine

A deletion moves the file of a path into a quarantine, looks at it there, and
removes it or gives it back.  The ledger has the files and what the deletion
has done to them; `Safe` is what a deletion owes to the files.
-/

namespace Sluicery.Storage

universe u v

/-- The files, and what a deletion has done to them. -/
structure Ledger (Place : Type u) (File : Type v) where
  files : Place → Option File
  /-- The file that has been taken into quarantine. -/
  taken : Option File := none
  removed : List File := []
  overwritten : List File := []

namespace Ledger

variable {Place : Type u} {File : Type v}

section Changes

variable [DecidableEq Place]

/-- Others put a file at a place, or take away what is there. -/
def put (ledger : Ledger Place File) (place : Place) (file : Option File) :
    Ledger Place File :=
  { ledger with files := Function.update ledger.files place file }

/-- A file goes to another place. -/
def move (ledger : Ledger Place File) (source destination : Place) :
    Ledger Place File :=
  { ledger with
    files := Function.update (Function.update ledger.files source none)
      destination (ledger.files source)
    overwritten :=
      ledger.overwritten ++ (ledger.files destination).toList }

/-- The file of a path goes into quarantine. -/
def take (ledger : Ledger Place File) (path quarantine : Place) :
    Ledger Place File :=
  { ledger.move path quarantine with taken := ledger.files path }

/-- The file of a place is removed. -/
def remove (ledger : Ledger Place File) (place : Place) :
    Ledger Place File :=
  { ledger with
    files := Function.update ledger.files place none
    removed := ledger.removed ++ (ledger.files place).toList }

end Changes

/-! ## Where the taken file is -/

/-- Nothing has been taken. -/
structure Untouched (ledger : Ledger Place File) : Prop where
  taken : ledger.taken = none
  removed : ledger.removed = []
  overwritten : ledger.overwritten = []

/-- The taken file is at a place, and nothing has been removed. -/
structure Has (ledger : Ledger Place File) (place : Place) (file : File) :
    Prop where
  taken : ledger.taken = some file
  isThere : ledger.files place = some file
  removed : ledger.removed = []
  overwritten : ledger.overwritten = []

/-- A file has been removed. -/
structure Gone (ledger : Ledger Place File) (file : File) : Prop where
  removed : ledger.removed = [file]
  overwritten : ledger.overwritten = []

variable {ledger : Ledger Place File} {path quarantine place : Place}
  {file : File}

section Changes

variable [DecidableEq Place]

theorem Untouched.put
    (untouched : ledger.Untouched) (place : Place) (file : Option File) :
    (ledger.put place file).Untouched :=
  ⟨untouched.taken, untouched.removed, untouched.overwritten⟩

theorem Untouched.move
    (untouched : ledger.Untouched) (source : Place)
    (free : ledger.files place = none) :
    (ledger.move source place).Untouched := by
  constructor
  · exact untouched.taken
  · exact untouched.removed
  · show ledger.overwritten ++ (ledger.files place).toList = []
    rw [untouched.overwritten, free]
    rfl

theorem Untouched.take
    (untouched : ledger.Untouched) (isThere : ledger.files path = some file)
    (free : ledger.files quarantine = none) :
    (ledger.take path quarantine).Has quarantine file := by
  constructor
  · exact isThere
  · exact (Function.update_self _ _ _).trans isThere
  · exact untouched.removed
  · exact (untouched.move path free).overwritten

theorem Has.put
    (has : ledger.Has place file) {other : Place} {new : Option File}
    (leaves : other = place → new = ledger.files place) :
    (ledger.put other new).Has place file := by
  constructor
  · exact has.taken
  · show Function.update ledger.files other new place = some file
    by_cases same : place = other
    · subst same
      rw [Function.update_self, leaves rfl, has.isThere]
    · rw [Function.update_of_ne same, has.isThere]
  · exact has.removed
  · exact has.overwritten

theorem Has.move
    (has : ledger.Has place file) {destination : Place}
    (free : ledger.files destination = none) :
    (ledger.move place destination).Has destination file := by
  constructor
  · exact has.taken
  · exact (Function.update_self _ _ _).trans has.isThere
  · exact has.removed
  · show ledger.overwritten ++ (ledger.files destination).toList = []
    rw [has.overwritten, free]
    rfl

theorem Has.remove (has : ledger.Has place file) :
    (ledger.remove place).Gone file := by
  constructor
  · show ledger.removed ++ (ledger.files place).toList = [file]
    rw [has.removed, has.isThere]
    rfl
  · exact has.overwritten

theorem Untouched.remove
    (untouched : ledger.Untouched) (isThere : ledger.files place = some file) :
    (ledger.remove place).Gone file := by
  constructor
  · show ledger.removed ++ (ledger.files place).toList = [file]
    rw [untouched.removed, isThere]
    rfl
  · exact untouched.overwritten

end Changes

/-! ## Safety -/

/-- How a deletion ends; an exception need not have a code. -/
inductive Ending where
  | deleted
  | raised (reasonCode : Option String)
deriving DecidableEq, Repr

/-- The codes which say that the file is kept in quarantine. -/
def keptCodes : List String :=
  ["quarantine_conflict", "identity_changed_quarantined"]

/-- The code which says that the path has been used again. -/
def recreatedCode : String := "source_recreated"

/-- What a deletion owes to the files. -/
structure Safe (isExpected : File → Prop) (path quarantine : Place)
    (ledger : Ledger Place File) (ending : Option Ending) : Prop where
  /-- Only a file with the expected identity is removed. -/
  removes : ∀ file ∈ ledger.removed, isExpected file
  overwrites : ledger.overwritten = []
  /-- Nothing is lost when it raises, unless it was deleted before. -/
  loses : ∀ code, ending = some (.raised code) →
    ledger.removed = [] ∨ code = some recreatedCode
  /-- The taken file is back, or the code says where it is. -/
  keeps : ∀ code file, ending = some (.raised code) →
    ledger.taken = some file →
      ledger.files path = some file ∨
        ((∃ kept ∈ keptCodes, code = some kept) ∧
          ledger.files quarantine = some file) ∨
        code = some recreatedCode

variable {isExpected : File → Prop} {ending : Option Ending}

theorem Untouched.safe (untouched : ledger.Untouched) :
    Safe isExpected path quarantine ledger ending where
  removes file member := by
    rw [untouched.removed] at member
    cases member
  overwrites := untouched.overwritten
  loses _ _ := Or.inl untouched.removed
  keeps code file _ isTaken := by
    rw [untouched.taken] at isTaken
    cases isTaken

/-- Where the taken file is back, a deletion may raise anything. -/
theorem Has.safe (has : ledger.Has path file) :
    Safe isExpected path quarantine ledger ending where
  removes other member := by
    rw [has.removed] at member
    cases member
  overwrites := has.overwritten
  loses _ _ := Or.inl has.removed
  keeps code other _ isTaken := by
    rw [has.taken] at isTaken
    cases isTaken
    exact Or.inl has.isThere

/-- While it is in quarantine, a code has to say so. -/
theorem Has.safe_quarantine
    (has : ledger.Has quarantine file)
    (tells : ∀ code, ending = some (.raised code) →
      ∃ kept ∈ keptCodes, code = some kept) :
    Safe isExpected path quarantine ledger ending where
  removes other member := by
    rw [has.removed] at member
    cases member
  overwrites := has.overwritten
  loses _ _ := Or.inl has.removed
  keeps code other ended isTaken := by
    rw [has.taken] at isTaken
    cases isTaken
    exact Or.inr (Or.inl ⟨tells code ended, has.isThere⟩)

/-- While a deletion is running, the file may be in quarantine. -/
theorem Has.safe_running (has : ledger.Has quarantine file) :
    Safe isExpected path quarantine ledger none :=
  has.safe_quarantine fun _ impossible => nomatch impossible

/-- After the deletion only a used path may be reported. -/
theorem Gone.safe
    (gone : ledger.Gone file) (expected : isExpected file)
    (tells : ∀ code, ending = some (.raised code) →
      code = some recreatedCode) :
    Safe isExpected path quarantine ledger ending where
  removes other member := by
    rw [gone.removed, List.mem_singleton] at member
    rw [member]
    exact expected
  overwrites := gone.overwritten
  loses code ended := Or.inr (tells code ended)
  keeps code _ ended _ := Or.inr (Or.inr (tells code ended))

end Ledger

end Sluicery.Storage
