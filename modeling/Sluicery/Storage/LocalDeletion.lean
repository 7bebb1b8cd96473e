import Sluicery.Library.Transition
import Sluicery.Storage.Deletion
import Sluicery.Storage.Local

/-!
# Deleting a local file

`LocalStorageAdapter.delete_file` with an expected identity, call by call.
Between two calls others may put anything at any place, and each call may fail
with any error number.  The paths are those which `_no_follow_path` has
resolved, so a call reaches the place which its path names.
-/

namespace Sluicery.Storage.Local

open Sluicery.Library Sluicery.Library.FileSystem
open Sluicery.Library.Transition

/-! ## States -/

/-- A call of `delete_file`. -/
structure DeleteRequest where
  sha256 : List UInt8 → String
  /-- The validated `rel`. -/
  relativePath : String
  path : Path
  quarantine : Path
  expected : RemoteFile

/-- What `delete_file` does next, or how it has ended. -/
inductive Phase where
  /-- Resolve the paths. -/
  | resolving
  | checking
  | taking
  | opening
  | statting (opened : Entry)
  | reading (opened : Entry)
  | restoring
  | unlinking
  | lookingQuarantine (errno : Errno)
  | lookingPath (errno : Errno)
  | givingBack (errno : Errno)
  | deleted
  | raised (failure : Failure)
deriving DecidableEq, Repr

/-- A running or ended `delete_file`. -/
structure Deletion where
  ledger : Ledger Path Entry
  phase : Phase := .resolving

/-- What others put at a place, or the next call with its error. -/
inductive Action where
  | others (place : Path) (entry : Option Entry)
  | call (fault : Option Errno)
deriving DecidableEq, Repr

/-! ## Exceptions -/

/-- The exception of `_no_follow_path`. -/
def resolveError (errno : Errno) : Failure :=
  .operation
    { message := "削除対象の親ディレクトリを確認できません"
      classification := classificationForOsError errno
      reasonCode := "source_not_found" }

/-- The quarantine is not beside the path, or in use. -/
def quarantineConflict : Failure :=
  .operation
    { message := "retention quarantine pathが不正または使用中です"
      reasonCode := "quarantine_conflict" }

/-- What `_inspect_path` raises when it cannot open the file. -/
def openError (errno : Errno) : Failure :=
  if errno = .enoent then
    .operation
      { message := "削除対象ファイルが存在しません"
        reasonCode := "source_not_found" }
  else
    .operation
      { message := "削除対象ファイルを安全に確認できません"
        classification := classificationForOsError errno
        reasonCode := "unsafe_file" }

/-- What `_inspect_path` raises for something else than a file. -/
def notAFile : Failure :=
  .operation
    { message := "削除対象は通常ファイルではありません"
      reasonCode := "not_a_file" }

/-- The changed file could not be given back. -/
def identityChangedQuarantined (quarantine : Path) : Failure :=
  .operation
    { message := "削除対象が変化し、実体をquarantineに保持しました: " ++
        quarantine.getLast?.getD ""
      reasonCode := "identity_changed_quarantined" }

/-- The changed file has been given back. -/
def identityChanged : Failure :=
  .operation
    { message := "dry-run後に削除対象ファイルの実体が変化しました"
      reasonCode := "identity_changed" }

/-- What an `OSError` of `delete_file` becomes. -/
def deleteFailed (errno : Errno) : Failure :=
  .operation
    { message := "local Storage のファイル削除に失敗しました"
      classification := classificationForOsError errno
      reasonCode := "delete_failed" }

/-! ## Steps -/

/-- What `_inspect_path` returns for a file with these bytes. -/
def inspected (request : DeleteRequest) (entry : Entry)
    (bytes : List UInt8) : RemoteFile where
  relativePath := request.relativePath
  size := some (entry.size : Int)
  modifiedAt := some (toString entry.stamp.modifiedNs)
  hashes := [("sha256", request.sha256 bytes)]
  fileId := some (fileId entry)

/-- The next call, which fails with the given error or does what it can. -/
def call (request : DeleteRequest) (deletion : Deletion)
    (fault : Option Errno) : Option Deletion :=
  let files := deletion.ledger.files
  let path := request.path
  let quarantine := request.quarantine
  let goTo (phase : Phase) : Option Deletion := some { deletion with phase }
  match deletion.phase with
  | .resolving =>
      match fault with
      | some errno => goTo (.raised (resolveError errno))
      | none => goTo .checking
  | .checking =>
      if quarantine.dropLast ≠ path.dropLast ∨
          (fault = none ∧ (files quarantine).isSome) then
        goTo (.raised quarantineConflict)
      else goTo .taking
  | .taking =>
      match fault, files path, files quarantine with
      | some errno, _, _ => goTo (.lookingQuarantine errno)
      | none, none, _ => goTo (.lookingQuarantine .enoent)
      | none, some _, some _ => goTo (.lookingQuarantine .eexist)
      | none, some _, none =>
          some
            { ledger := deletion.ledger.take path quarantine
              phase := .opening }
  | .opening =>
      match fault, files quarantine with
      | some errno, _ => goTo (.raised (openError errno))
      | none, none => goTo (.raised (openError .enoent))
      | none, some opened =>
          match opened.node with
          | .symlink _ => goTo (.raised (openError .eloop))
          | _ => goTo (.statting opened)
  | .statting opened =>
      match fault with
      | some errno => goTo (.lookingQuarantine errno)
      | none =>
          if opened.isRegular then goTo (.reading opened)
          else goTo (.raised notAFile)
  | .reading opened =>
      match fault, opened.read with
      | some errno, _ => goTo (.lookingQuarantine errno)
      | none, .error errno => goTo (.lookingQuarantine errno)
      | none, .ok bytes =>
          if (inspected request opened bytes).same request.expected then
            goTo .unlinking
          else goTo .restoring
  | .restoring =>
      match fault, files quarantine, files path with
      | none, some _, none =>
          some
            { ledger := deletion.ledger.move quarantine path
              phase := .raised identityChanged }
      | _, _, _ => goTo (.raised (identityChangedQuarantined quarantine))
  | .unlinking =>
      match fault, files quarantine with
      | some errno, _ => goTo (.lookingQuarantine errno)
      | none, none => goTo (.lookingQuarantine .enoent)
      | none, some entry =>
          if entry.node = .directory then goTo (.lookingQuarantine .eisdir)
          else
            some
              { ledger := deletion.ledger.remove quarantine
                phase := .deleted }
  | .lookingQuarantine errno =>
      if fault = none ∧ (files quarantine).isSome then
        goTo (.lookingPath errno)
      else goTo (.raised (deleteFailed errno))
  | .lookingPath errno =>
      if fault = none ∧ (files path).isSome then
        goTo (.raised (deleteFailed errno))
      else goTo (.givingBack errno)
  | .givingBack errno =>
      match fault, files quarantine, files path with
      | none, some _, none =>
          some
            { ledger := deletion.ledger.move quarantine path
              phase := .raised (deleteFailed errno) }
      | _, _, _ => goTo (.raised (deleteFailed errno))
  | .deleted => none
  | .raised _ => none

/-- `delete_file` has ended. -/
def Phase.ended : Phase → Bool
  | .deleted => true
  | .raised _ => true
  | _ => false

/-- A step of the deletion, or of others while it is running. -/
def step (request : DeleteRequest) (deletion : Deletion) :
    Action → Option Deletion
  | .others place entry =>
      if deletion.phase.ended then none
      else some { deletion with ledger := deletion.ledger.put place entry }
  | .call fault => call request deletion fault

/-- The code of an exception. -/
def reasonCode : Failure → Option String
  | .operation error => some error.reasonCode
  | _ => none

/-- How `delete_file` has ended. -/
def Deletion.ending (deletion : Deletion) : Option Ledger.Ending :=
  match deletion.phase with
  | .deleted => some .deleted
  | .raised failure => some (.raised (reasonCode failure))
  | _ => none

/-- The entry has the expected identity. -/
def HasIdentity (request : DeleteRequest) (entry : Entry) : Prop :=
  ∃ bytes, entry.node = .regular bytes ∧
    (inspected request entry bytes).same request.expected = true

/-- What `delete_file` owes to the files. -/
def Deletion.Safe (request : DeleteRequest) (deletion : Deletion) : Prop :=
  deletion.ledger.Safe (HasIdentity request) request.path request.quarantine
    deletion.ending

/-! ## Runs which are safe -/

/--
Once the file is taken, others leave the quarantine alone.  Only a regular
file is taken, opening it does not fail, and when another call has failed it
can be given back.
-/
def Allowed (request : DeleteRequest) (deletion : Deletion) :
    Action → Prop
  | .others place entry =>
      deletion.ledger.taken.isSome → place = request.quarantine →
        entry = deletion.ledger.files request.quarantine
  | .call fault =>
      match deletion.phase with
      | .taking => fault = none →
          deletion.ledger.files request.quarantine = none →
            ∀ entry, deletion.ledger.files request.path = some entry →
              entry.isRegular = true
      | .opening => fault = none
      | .lookingQuarantine _ => deletion.ledger.taken.isSome → fault = none
      | .lookingPath _ => deletion.ledger.taken.isSome → fault = none →
          deletion.ledger.files request.path = none
      | .givingBack _ => deletion.ledger.taken.isSome →
          fault = none ∧ deletion.ledger.files request.path = none
      | _ => True

/-- Where the taken entry is in a phase. -/
def Fits (request : DeleteRequest) (deletion : Deletion) : Prop :=
  match deletion.phase with
  | .resolving | .checking | .taking => deletion.ledger.Untouched
  | .opening | .restoring =>
      ∃ entry, deletion.ledger.Has request.quarantine entry ∧
        entry.isRegular = true
  | .statting opened | .reading opened =>
      deletion.ledger.Has request.quarantine opened ∧ opened.isRegular = true
  | .unlinking =>
      ∃ entry, deletion.ledger.Has request.quarantine entry ∧
        HasIdentity request entry
  | .lookingQuarantine _ | .lookingPath _ | .givingBack _ =>
      deletion.ledger.Untouched ∨
        ∃ entry, deletion.ledger.Has request.quarantine entry
  | .deleted =>
      ∃ entry, deletion.ledger.Gone entry ∧ HasIdentity request entry
  | .raised failure =>
      deletion.ledger.Untouched ∨ ∃ entry,
        deletion.ledger.Has request.path entry ∨
          (deletion.ledger.Has request.quarantine entry ∧
            ∃ kept ∈ Ledger.keptCodes, reasonCode failure = some kept)

section Safety

variable {request : DeleteRequest} {deletion next : Deletion}

/-- A deletion is safe wherever the taken entry may be. -/
theorem Fits.safe (fits : Fits request deletion) :
    deletion.Safe request := by
  have running : ∀ entry, deletion.ledger.Has request.quarantine entry →
      deletion.ledger.Safe (HasIdentity request) request.path
        request.quarantine none := fun _ has => has.safe_running
  rcases deletion with ⟨ledger, phase⟩
  cases phase with
  | resolving => exact Ledger.Untouched.safe fits
  | checking => exact Ledger.Untouched.safe fits
  | taking => exact Ledger.Untouched.safe fits
  | opening => exact fits.elim fun entry both => running entry both.1
  | restoring => exact fits.elim fun entry both => running entry both.1
  | statting opened => exact running opened fits.1
  | reading opened => exact running opened fits.1
  | unlinking => exact fits.elim fun entry both => running entry both.1
  | lookingQuarantine errno =>
      exact fits.elim (fun untouched => untouched.safe) fun has =>
        has.elim running
  | lookingPath errno =>
      exact fits.elim (fun untouched => untouched.safe) fun has =>
        has.elim running
  | givingBack errno =>
      exact fits.elim (fun untouched => untouched.safe) fun has =>
        has.elim running
  | deleted =>
      rcases fits with ⟨entry, gone, hasIdentity⟩
      exact gone.safe hasIdentity fun _ impossible => nomatch impossible
  | raised failure =>
      rcases fits with untouched | ⟨entry, has | ⟨has, kept⟩⟩
      · exact untouched.safe
      · exact has.safe
      · apply has.safe_quarantine
        rintro code ⟨⟩
        exact kept

/-- Others leave the taken entry where it is. -/
theorem Fits.others
    {place : Path} {entry : Option Entry} (fits : Fits request deletion)
    (allowed : Allowed request deletion (.others place entry))
    (taken : step request deletion (.others place entry) = some next) :
    Fits request next := by
  rw [step] at taken
  split at taken
  · cases taken
  · next running =>
      cases taken
      have stays : ∀ found, deletion.ledger.Has request.quarantine found →
          (deletion.ledger.put place entry).Has request.quarantine found := by
        intro found has
        apply has.put
        intro same
        apply allowed _ same
        rw [has.taken]
        rfl
      rcases deletion with ⟨ledger, phase⟩
      cases phase with
      | resolving => exact Ledger.Untouched.put fits place entry
      | checking => exact Ledger.Untouched.put fits place entry
      | taking => exact Ledger.Untouched.put fits place entry
      | opening => exact fits.imp fun found both => ⟨stays found both.1, both.2⟩
      | restoring =>
          exact fits.imp fun found both => ⟨stays found both.1, both.2⟩
      | statting opened => exact ⟨stays opened fits.1, fits.2⟩
      | reading opened => exact ⟨stays opened fits.1, fits.2⟩
      | unlinking =>
          exact fits.imp fun found both => ⟨stays found both.1, both.2⟩
      | lookingQuarantine errno =>
          exact fits.imp (fun untouched => untouched.put place entry)
            fun has => has.imp stays
      | lookingPath errno =>
          exact fits.imp (fun untouched => untouched.put place entry)
            fun has => has.imp stays
      | givingBack errno =>
          exact fits.imp (fun untouched => untouched.put place entry)
            fun has => has.imp stays
      | deleted => exact absurd rfl running
      | raised failure => exact absurd rfl running

/-- The next call leaves the taken entry where it belongs. -/
theorem Fits.call
    {fault : Option Errno} (fits : Fits request deletion)
    (allowed : Allowed request deletion (.call fault))
    (taken : step request deletion (.call fault) = some next) :
    Fits request next := by
  rcases deletion with ⟨ledger, phase⟩
  cases phase with
  | resolving =>
      simp only [step, Local.call] at taken
      split at taken
      · cases taken
        exact Or.inl fits
      · cases taken
        exact fits
  | checking =>
      simp only [step, Local.call] at taken
      split at taken
      · cases taken
        exact Or.inl fits
      · cases taken
        exact fits
  | taking =>
      simp only [step, Local.call] at taken
      split at taken
      · cases taken
        exact Or.inl fits
      · cases taken
        exact Or.inl fits
      · cases taken
        exact Or.inl fits
      · next entry isThere free =>
          cases taken
          exact ⟨entry, Ledger.Untouched.take fits isThere free,
            allowed rfl free entry isThere⟩
  | opening =>
      rcases fits with ⟨entry, has, isRegular⟩
      have isFound : ledger.files request.quarantine = some entry :=
        has.isThere
      have noFault : fault = none := allowed
      simp only [step, Local.call, noFault, isFound] at taken
      split at taken
      · next isLink =>
          rw [Entry.isRegular, isLink] at isRegular
          cases isRegular
      · cases taken
        exact ⟨has, isRegular⟩
  | statting opened =>
      simp only [step, Local.call, fits.2, if_true] at taken
      split at taken
      · cases taken
        exact Or.inr ⟨opened, fits.1⟩
      · cases taken
        exact fits
  | reading opened =>
      simp only [step, Local.call] at taken
      split at taken
      · cases taken
        exact Or.inr ⟨opened, fits.1⟩
      · cases taken
        exact Or.inr ⟨opened, fits.1⟩
      · next bytes isRead =>
          split at taken
          · next same =>
              cases taken
              exact ⟨opened, fits.1, bytes, read_eq_ok_iff.1 isRead, same⟩
          · cases taken
            exact ⟨opened, fits⟩
  | restoring =>
      rcases fits with ⟨entry, has, isRegular⟩
      simp only [step, Local.call] at taken
      split at taken
      · next free =>
          cases taken
          exact Or.inr ⟨entry, Or.inl (has.move free)⟩
      · cases taken
        exact Or.inr ⟨entry, Or.inr ⟨has, _, by
          simp [Ledger.keptCodes], rfl⟩⟩
  | unlinking =>
      rcases fits with ⟨entry, has, hasIdentity⟩
      simp only [step, Local.call] at taken
      split at taken
      · cases taken
        exact Or.inr ⟨entry, has⟩
      · cases taken
        exact Or.inr ⟨entry, has⟩
      · split at taken
        · cases taken
          exact Or.inr ⟨entry, has⟩
        · cases taken
          exact ⟨entry, has.remove, hasIdentity⟩
  | lookingQuarantine errno =>
      simp only [step, Local.call] at taken
      split at taken
      · cases taken
        exact fits
      · next missing =>
          cases taken
          rcases fits with untouched | ⟨entry, has⟩
          · exact Or.inl untouched
          · have isFound : ledger.files request.quarantine = some entry :=
              has.isThere
            have noFault : fault = none := allowed (by
              show ledger.taken.isSome = true
              rw [has.taken]
              rfl)
            exact absurd ⟨noFault, by rw [isFound]; rfl⟩ missing
  | lookingPath errno =>
      simp only [step, Local.call] at taken
      split at taken
      · next both =>
          cases taken
          rcases fits with untouched | ⟨entry, has⟩
          · exact Or.inl untouched
          · have free : ledger.files request.path = none := allowed (by
              show ledger.taken.isSome = true
              rw [has.taken]
              rfl) both.1
            rw [free] at both
            cases both.2
      · cases taken
        exact fits
  | givingBack errno =>
      rcases fits with untouched | ⟨entry, has⟩
      · simp only [step, Local.call] at taken
        split at taken
        · next free =>
            cases taken
            exact Or.inl (Ledger.Untouched.move untouched _ free)
        · cases taken
          exact Or.inl untouched
      · have isTaken : ledger.taken.isSome = true := by
          rw [has.taken]
          rfl
        rcases allowed isTaken with ⟨noFault, free⟩
        have isFound : ledger.files request.quarantine = some entry :=
          has.isThere
        have isFree : ledger.files request.path = none := free
        simp only [step, Local.call, noFault, isFound, isFree] at taken
        cases taken
        exact Or.inr ⟨entry, Or.inl (has.move free)⟩
  | deleted => cases taken
  | raised failure => cases taken

/-- In every run whose steps are allowed, the deletion is safe. -/
theorem safe_of_steps
    {first : Deletion} (fresh : first.ledger.Untouched)
    (resolving : first.phase = .resolving)
    (steps : Steps (step request) (Allowed request) first deletion) :
    deletion.Safe request := by
  have fits : Fits request first := by
    rw [Fits, resolving]
    exact fresh
  apply Fits.safe
  apply steps.invariant (Fits request) fits
  intro state action next isFit allowed taken
  cases action with
  | others place entry => exact isFit.others allowed taken
  | call fault => exact isFit.call allowed taken

end Safety

end Sluicery.Storage.Local
