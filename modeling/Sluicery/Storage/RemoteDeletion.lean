import Sluicery.Library.Transition
import Sluicery.Storage.Deletion
import Sluicery.Storage.Local

/-!
# Deleting a remote file

`RcloneStorageAdapter.delete_file` with an expected identity, command by
command.  Between two commands others may put anything at any path, and each
command may fail, whether it has taken effect or not.
-/

namespace Sluicery.Storage.Remote

open Sluicery.Library Sluicery.Library.Transition

/-! ## Objects and commands -/

/-- What rclone tells of an object. -/
structure RemoteObject where
  isDir : Bool := false
  size : Option Int := none
  modTime : Option String := none
  hashes : List (String × String) := []
  /-- What `hashsum` prints. -/
  digest : String := ""
deriving DecidableEq, Repr

/-- The result of a command which has not succeeded. -/
structure FailedResult where
  classification : StorageClassification := .failed
  reasonCode : String := "unknown_error"
  /-- `_NOT_FOUND` matches what it has printed. -/
  notFound : Bool := false
  /-- It has taken effect before it failed. -/
  applied : Bool := false
deriving DecidableEq, Repr

/-- What a command comes to. -/
inductive Outcome where
  | done
  /-- It succeeds, and what it prints cannot be read. -/
  | garbled
  | failed (result : FailedResult)
deriving DecidableEq, Repr

/-- A call of `delete_file`. -/
structure DeleteRequest where
  /-- `str.lower`. -/
  lower : String → String
  /-- The validated `rel`. -/
  path : String
  /-- The validated `quarantine_rel`. -/
  quarantineRel : Option String
  expected : RemoteFile

/-- The path of the quarantine. -/
def DeleteRequest.quarantine (request : DeleteRequest) : String :=
  request.quarantineRel.getD ""

/-- What `delete_file` does next, or how it has ended. -/
inductive Phase where
  | checking
  | taking
  | lookingPath
  | inspecting
  | hashing (listed : RemoteObject)
  | lookingPathAgain
  | restoring
  | lookingQuarantine
  | deleting
  | lookingOriginal
  | deleted
  | raised (error : StorageOperationError)
deriving DecidableEq, Repr

/-- A running or ended `delete_file`. -/
structure Deletion where
  ledger : Ledger String RemoteObject
  phase : Phase := .checking

/-- What others put at a path, or what the next command comes to. -/
inductive Action where
  | others (path : String) (object : Option RemoteObject)
  | command (outcome : Outcome)
deriving DecidableEq, Repr

/-! ## Exceptions -/

/-- `_raise_result`. -/
def raiseResult (result : FailedResult) (message : String) :
    StorageOperationError where
  message := message
  classification := result.classification
  reasonCode := result.reasonCode

/-- The changed file is kept in quarantine. -/
def identityChangedQuarantined (quarantine : String) :
    StorageOperationError where
  message := "削除対象が変化し、実体をquarantineに保持しました: " ++ quarantine
  reasonCode := "identity_changed_quarantined"

/-- No strong hash of the file is known. -/
def identityUnavailable : StorageOperationError where
  message := "remote削除対象の強いhashを取得できません"
  reasonCode := "identity_unavailable"

/-! ## Reading -/

/-- `exists`. -/
def existsAnswer (object : Option RemoteObject) :
    Outcome → Except StorageOperationError Bool
  | .failed result =>
      if result.notFound then .ok false
      else .error (raiseResult result "remote Storage の存在確認に失敗しました")
  | _ => .ok object.isSome

/-- The hashes which `lsjson` lists. -/
def listedHashes (request : DeleteRequest) (object : RemoteObject) :
    List (String × String) :=
  object.hashes.map fun entry =>
    (request.lower entry.1, request.lower entry.2)

/-- A key is that of SHA-256. -/
def isSha256Key (key : String) : Bool :=
  key.toList.filter (· != '-') == "sha256".toList

/-- `[0-9a-f]{64}`. -/
def isDigest (digest : String) : Bool :=
  digest.toList.length == 64 &&
    digest.toList.all fun char =>
      ('0' ≤ char ∧ char ≤ '9') || ('a' ≤ char ∧ char ≤ 'f')

/-- A hash of SHA-256 is listed. -/
def listsSha256 (request : DeleteRequest) (object : RemoteObject) : Bool :=
  (listedHashes request object).any fun entry => isSha256Key entry.1

/-- The inspected file, under the path which is expected. -/
def inspected (request : DeleteRequest) (object : RemoteObject)
    (hashes : List (String × String)) : RemoteFile where
  relativePath := request.expected.relativePath
  size := object.size
  modifiedAt := object.modTime
  hashes := hashes

/-- The object has the expected identity. -/
def HasIdentity (request : DeleteRequest) (object : RemoteObject) : Prop :=
  if listsSha256 request object then
    (inspected request object (listedHashes request object)).same
      request.expected = true
  else
    isDigest (request.lower object.digest) = true ∧
      (inspected request object (listedHashes request object ++
        [("sha256", request.lower object.digest)])).same
          request.expected = true

/-! ## Steps -/

/-- The phase after an inspection. -/
def compared (request : DeleteRequest) (current : RemoteFile) : Phase :=
  if current.same request.expected then .deleting else .lookingPathAgain

/-- `moveto` with `--ignore-existing`, when it takes effect. -/
def moveto (ledger : Ledger String RemoteObject)
    (source destination : String) : Ledger String RemoteObject :=
  if (ledger.files destination).isSome then ledger
  else ledger.move source destination

/-- The first `moveto`, which takes the file. -/
def takeaway (ledger : Ledger String RemoteObject)
    (path quarantine : String) : Ledger String RemoteObject :=
  if (ledger.files quarantine).isSome then ledger
  else ledger.take path quarantine

/-- The next command; a command on a missing object does not succeed. -/
def command (request : DeleteRequest) (deletion : Deletion)
    (outcome : Outcome) : Option Deletion :=
  let ledger := deletion.ledger
  let path := request.path
  let quarantine := request.quarantine
  let goTo (phase : Phase) : Option Deletion := some { deletion with phase }
  match deletion.phase with
  | .checking =>
      match request.quarantineRel with
      | none =>
          goTo (.raised
            { message := "remote条件付き削除にはquarantine pathが必要です"
              reasonCode := "quarantine_required" })
      | some _ =>
          if (PurePosixPath.ofString quarantine).parts.dropLast ≠
              (PurePosixPath.ofString path).parts.dropLast then
            goTo (.raised
              { message := "retention quarantine pathが不正です"
                reasonCode := "quarantine_conflict" })
          else
            match existsAnswer (ledger.files quarantine) outcome with
            | .error error => goTo (.raised error)
            | .ok true =>
                goTo (.raised
                  { message := "retention quarantine pathが既に存在します"
                    reasonCode := "quarantine_conflict" })
            | .ok false => goTo .taking
  | .taking =>
      match outcome with
      | .failed result =>
          some
            { ledger :=
                if result.applied ∧ (ledger.files path).isSome then
                  takeaway ledger path quarantine
                else ledger
              phase := .raised
                (raiseResult result "remote削除対象をquarantineへ移動できません") }
      | _ =>
          if (ledger.files path).isSome then
            some
              { ledger := takeaway ledger path quarantine
                phase := .lookingPath }
          else none
  | .lookingPath =>
      match existsAnswer (ledger.files path) outcome with
      | .error error => goTo (.raised error)
      | .ok true =>
          goTo (.raised
            { message :=
                "remote削除対象の確保が競合し、quarantineに保持しました: " ++
                  quarantine
              reasonCode := "quarantine_conflict" })
      | .ok false => goTo .inspecting
  | .inspecting =>
      match outcome, ledger.files quarantine with
      | .failed result, _ =>
          goTo (.raised
            (raiseResult result "remote Storage のファイル情報取得に失敗しました"))
      | _, none => none
      | .garbled, some _ =>
          goTo (.raised
            { message := "rclone の JSON 出力を解釈できません"
              reasonCode := "invalid_json" })
      | .done, some object =>
          if object.isDir then
            goTo (.raised
              { message := "削除対象は通常ファイルではありません"
                reasonCode := "not_a_file" })
          else if listsSha256 request object then
            goTo (compared request
              (inspected request object (listedHashes request object)))
          else goTo (.hashing object)
  | .hashing listed =>
      match outcome, ledger.files quarantine with
      | .done, some object =>
          let digest := request.lower object.digest
          if isDigest digest then
            goTo (compared request
              (inspected request listed
                (listedHashes request listed ++ [("sha256", digest)])))
          else goTo (.raised identityUnavailable)
      | .done, none => none
      | _, _ => goTo (.raised identityUnavailable)
  | .lookingPathAgain =>
      match existsAnswer (ledger.files path) outcome with
      | .error error => goTo (.raised error)
      | .ok true => goTo (.raised (identityChangedQuarantined quarantine))
      | .ok false => goTo .restoring
  | .restoring =>
      match outcome with
      | .failed result =>
          some
            { ledger :=
                if result.applied ∧ (ledger.files quarantine).isSome then
                  moveto ledger quarantine path
                else ledger
              phase := .raised (identityChangedQuarantined quarantine) }
      | _ =>
          if (ledger.files quarantine).isSome then
            some
              { ledger := moveto ledger quarantine path
                phase := .lookingQuarantine }
          else none
  | .lookingQuarantine =>
      match existsAnswer (ledger.files quarantine) outcome with
      | .error error => goTo (.raised error)
      | .ok true => goTo (.raised (identityChangedQuarantined quarantine))
      | .ok false =>
          goTo (.raised
            { message := "dry-run後に削除対象ファイルの実体が変化しました"
              reasonCode := "identity_changed" })
  | .deleting =>
      match outcome with
      | .failed result =>
          some
            { ledger :=
                if result.applied then ledger.remove quarantine else ledger
              phase := .raised
                (raiseResult result "remote Storage のファイル削除に失敗しました") }
      | _ =>
          if (ledger.files quarantine).isSome then
            some
              { ledger := ledger.remove quarantine, phase := .lookingOriginal }
          else none
  | .lookingOriginal =>
      match existsAnswer (ledger.files path) outcome with
      | .error error => goTo (.raised error)
      | .ok true =>
          goTo (.raised
            { message :=
                "remote削除中に元pathが再作成されたためDB反映を中止します"
              reasonCode := "source_recreated" })
      | .ok false => goTo .deleted
  | .deleted => none
  | .raised _ => none

/-- `delete_file` has ended. -/
def Phase.ended : Phase → Bool
  | .deleted => true
  | .raised _ => true
  | _ => false

/-- A step of the deletion, or of others while it is running. -/
def step (request : DeleteRequest) (deletion : Deletion) :
    Action → Option Deletion
  | .others path object =>
      if deletion.phase.ended then none
      else some { deletion with ledger := deletion.ledger.put path object }
  | .command outcome => command request deletion outcome

/-- How `delete_file` has ended. -/
def Deletion.ending (deletion : Deletion) : Option Ledger.Ending :=
  match deletion.phase with
  | .deleted => some .deleted
  | .raised error => some (.raised (some error.reasonCode))
  | _ => none

/-- What `delete_file` owes to the files. -/
def Deletion.Safe (request : DeleteRequest) (deletion : Deletion) : Prop :=
  deletion.ledger.Safe (HasIdentity request) request.path request.quarantine
    deletion.ending

/-! ## Runs which are safe -/

/-- Others leave what is at a place. -/
def Leaves (ledger : Ledger String RemoteObject) (place path : String)
    (object : Option RemoteObject) : Prop :=
  path = place → object = ledger.files place

/-- `exists` has an answer. -/
def Answers (object : Option RemoteObject) (outcome : Outcome) : Prop :=
  ∃ answer, existsAnswer object outcome = .ok answer

/--
Once the file is taken, others leave it alone, and it is a file with a strong
hash.  No command fails from then on, but for the one that gives it back; and
that it could not be given back is noticed.
-/
def Allowed (request : DeleteRequest) (deletion : Deletion) :
    Action → Prop
  | .others path object =>
      (∀ place, deletion.ledger.taken.isSome →
          deletion.ledger.files place = deletion.ledger.taken →
            Leaves deletion.ledger place path object) ∧
        match deletion.phase with
        | .hashing _ | .deleting =>
            Leaves deletion.ledger request.quarantine path object
        | _ => True
  | .command outcome =>
      let files := deletion.ledger.files
      let isTaken := deletion.ledger.taken.isSome = true
      match deletion.phase with
      | .taking =>
          match outcome with
          | .failed result => result.applied = false
          | _ => files request.quarantine = none →
              ∀ object, files request.path = some object →
                object.isDir = false
      | .lookingPath => isTaken → Answers (files request.path) outcome
      | .inspecting => isTaken → outcome = .done
      | .hashing _ => isTaken → outcome = .done ∧
          ∀ object, files request.quarantine = some object →
            isDigest (request.lower object.digest) = true
      | .lookingPathAgain => isTaken → Answers (files request.path) outcome
      | .lookingQuarantine => isTaken →
          files request.path = deletion.ledger.taken ∨
            existsAnswer (files request.quarantine) outcome = .ok true
      | .deleting => ∀ result, outcome = .failed result →
          deletion.ledger.taken = none ∧ result.applied = false
      | .lookingOriginal => Answers (files request.path) outcome
      | _ => True

/-- Nothing has been taken, or a file is in quarantine. -/
def Held (request : DeleteRequest) (ledger : Ledger String RemoteObject) :
    Prop :=
  ledger.Untouched ∨
    ∃ file, ledger.Has request.quarantine file ∧ file.isDir = false

/-- A file is in quarantine, taken or not. -/
def HeldAs (request : DeleteRequest) (ledger : Ledger String RemoteObject)
    (file : RemoteObject) : Prop :=
  ledger.files request.quarantine = some file ∧
    (ledger.Untouched ∨ ledger.Has request.quarantine file)

/-- Where the taken object is in a phase. -/
def Fits (request : DeleteRequest) (deletion : Deletion) : Prop :=
  let ledger := deletion.ledger
  match deletion.phase with
  | .checking | .taking => ledger.Untouched
  | .lookingPath | .inspecting | .lookingPathAgain | .restoring =>
      Held request ledger
  | .hashing listed =>
      HeldAs request ledger listed ∧ listed.isDir = false ∧
        listsSha256 request listed = false
  | .lookingQuarantine =>
      Held request ledger ∨ ∃ file, ledger.Has request.path file
  | .deleting =>
      ∃ file, HeldAs request ledger file ∧ HasIdentity request file
  | .lookingOriginal | .deleted =>
      ∃ file, ledger.Gone file ∧ HasIdentity request file
  | .raised error =>
      ledger.Untouched ∨
        (∃ file, ledger.Has request.path file ∨
          (ledger.Has request.quarantine file ∧
            ∃ kept ∈ Ledger.keptCodes, error.reasonCode = kept)) ∨
        ∃ file, ledger.Gone file ∧ HasIdentity request file ∧
          error.reasonCode = Ledger.recreatedCode

section Safety

variable {request : DeleteRequest} {deletion next : Deletion}
  {ledger : Ledger String RemoteObject}

theorem Held.safe (held : Held request ledger) :
    ledger.Safe (HasIdentity request) request.path request.quarantine
      none := by
  rcases held with untouched | ⟨file, has, -⟩
  · exact untouched.safe
  · exact has.safe_running

theorem HeldAs.safe {file : RemoteObject}
    (held : HeldAs request ledger file) :
    ledger.Safe (HasIdentity request) request.path request.quarantine
      none := by
  rcases held with ⟨-, untouched | has⟩
  · exact untouched.safe
  · exact has.safe_running

/-- A deletion is safe wherever the taken object may be. -/
theorem Fits.safe (fits : Fits request deletion) :
    deletion.Safe request := by
  rcases deletion with ⟨ledger, phase⟩
  cases phase with
  | checking => exact Ledger.Untouched.safe fits
  | taking => exact Ledger.Untouched.safe fits
  | lookingPath => exact Held.safe fits
  | inspecting => exact Held.safe fits
  | lookingPathAgain => exact Held.safe fits
  | restoring => exact Held.safe fits
  | hashing listed => exact HeldAs.safe fits.1
  | deleting => exact fits.elim fun file both => both.1.safe
  | lookingQuarantine =>
      exact fits.elim Held.safe fun back => back.elim fun file has => has.safe
  | lookingOriginal =>
      rcases fits with ⟨file, gone, hasIdentity⟩
      exact gone.safe hasIdentity fun _ impossible => nomatch impossible
  | deleted =>
      rcases fits with ⟨file, gone, hasIdentity⟩
      exact gone.safe hasIdentity fun _ impossible => nomatch impossible
  | raised error =>
      rcases fits with untouched | ⟨file, has | ⟨has, kept, isKept, same⟩⟩ |
        ⟨file, gone, hasIdentity, same⟩
      · exact untouched.safe
      · exact has.safe
      · apply has.safe_quarantine
        rintro code ⟨⟩
        exact ⟨kept, isKept, congrArg some same⟩
      · apply gone.safe hasIdentity
        rintro code ⟨⟩
        exact congrArg some same

/-- Others leave the taken object where it is. -/
theorem has_put
    {place path : String} {object : Option RemoteObject} {file : RemoteObject}
    (leaves : ∀ place, ledger.taken.isSome → ledger.files place =
      ledger.taken → Leaves ledger place path object)
    (has : ledger.Has place file) :
    (ledger.put path object).Has place file := by
  apply has.put
  apply leaves place
  · rw [has.taken]
    rfl
  · rw [has.taken, has.isThere]

theorem Held.put
    {path : String} {object : Option RemoteObject}
    (held : Held request ledger)
    (leaves : ∀ place, ledger.taken.isSome → ledger.files place =
      ledger.taken → Leaves ledger place path object) :
    Held request (ledger.put path object) :=
  held.imp (fun untouched => untouched.put path object) fun has =>
    has.imp fun _ both => ⟨has_put leaves both.1, both.2⟩

theorem HeldAs.put
    {path : String} {object : Option RemoteObject} {file : RemoteObject}
    (held : HeldAs request ledger file)
    (leaves : ∀ place, ledger.taken.isSome → ledger.files place =
      ledger.taken → Leaves ledger place path object)
    (leavesQuarantine : Leaves ledger request.quarantine path object) :
    HeldAs request (ledger.put path object) file := by
  constructor
  · show Function.update ledger.files path object request.quarantine = _
    by_cases same : request.quarantine = path
    · rw [← same, Function.update_self, leavesQuarantine same.symm, held.1]
    · rw [Function.update_of_ne same, held.1]
  · exact held.2.imp (fun untouched => untouched.put path object) fun has =>
      has_put leaves has

theorem Fits.others
    {path : String} {object : Option RemoteObject}
    (fits : Fits request deletion)
    (allowed : Allowed request deletion (.others path object))
    (taken : step request deletion (.others path object) = some next) :
    Fits request next := by
  rw [step] at taken
  split at taken
  · cases taken
  · next running =>
      cases taken
      rcases deletion with ⟨ledger, phase⟩
      cases phase with
      | checking => exact Ledger.Untouched.put fits path object
      | taking => exact Ledger.Untouched.put fits path object
      | lookingPath => exact Held.put fits allowed.1
      | inspecting => exact Held.put fits allowed.1
      | lookingPathAgain => exact Held.put fits allowed.1
      | restoring => exact Held.put fits allowed.1
      | hashing listed =>
          exact ⟨fits.1.put allowed.1 allowed.2, fits.2⟩
      | deleting =>
          exact fits.imp fun _ both =>
            ⟨both.1.put allowed.1 allowed.2, both.2⟩
      | lookingQuarantine =>
          exact fits.imp (fun held => held.put allowed.1) fun back =>
            back.imp fun _ has => has_put allowed.1 has
      | lookingOriginal =>
          exact fits.imp fun _ both =>
            ⟨⟨both.1.removed, both.1.overwritten⟩, both.2⟩
      | deleted => exact absurd rfl running
      | raised error => exact absurd rfl running

theorem isSome_of_has
    {place : String} {file : RemoteObject} (has : ledger.Has place file) :
    ledger.taken.isSome = true := by
  rw [has.taken]
  rfl

/-- A held file cannot be there in a phase which raises, if it answers. -/
theorem untouched_of_error
    {object : Option RemoteObject} {outcome : Outcome}
    {error : StorageOperationError} (held : Held request ledger)
    (answers : ledger.taken.isSome = true → Answers object outcome)
    (isError : existsAnswer object outcome = .error error) :
    ledger.Untouched := by
  rcases held with untouched | ⟨file, has, -⟩
  · exact untouched
  · rcases answers (isSome_of_has has) with ⟨answer, isAnswer⟩
    rw [isError] at isAnswer
    cases isAnswer

/-- The comparison of a held file decides what is done with it. -/
theorem fits_compared
    {file : RemoteObject} {hashes : List (String × String)}
    (held : HeldAs request ledger file) (notDir : file.isDir = false)
    (identity : (inspected request file hashes).same request.expected = true →
      HasIdentity request file) :
    Fits request
      { ledger, phase := compared request (inspected request file hashes) } := by
  rw [compared]
  split
  · next same => exact ⟨file, held, identity same⟩
  · exact held.2.imp_right fun has => ⟨file, has, notDir⟩

/-- A held file may be left in quarantine by a code which tells it. -/
theorem fits_kept
    {error : StorageOperationError} (held : Held request ledger)
    (kept : error.reasonCode ∈ Ledger.keptCodes) :
    Fits request { ledger, phase := .raised error } := by
  rcases held with untouched | ⟨file, has, -⟩
  · exact Or.inl untouched
  · exact Or.inr (Or.inl ⟨file, Or.inr ⟨has, _, kept, rfl⟩⟩)

theorem Held.heldAs
    {object : RemoteObject} (held : Held request ledger)
    (isThere : ledger.files request.quarantine = some object) :
    HeldAs request ledger object ∧
      (ledger.taken.isSome = true → object.isDir = false) := by
  rcases held with untouched | ⟨file, has, notDir⟩
  · constructor
    · exact ⟨isThere, Or.inl untouched⟩
    · intro isTaken
      rw [untouched.taken] at isTaken
      cases isTaken
  · rw [has.isThere] at isThere
    cases isThere
    exact ⟨⟨has.isThere, Or.inr has⟩, fun _ => notDir⟩

/-- Taking leaves the file in quarantine, unless something else is there. -/
theorem held_takeaway
    (untouched : ledger.Untouched)
    (isThere : (ledger.files request.path).isSome = true)
    (notDir : ledger.files request.quarantine = none →
      ∀ object, ledger.files request.path = some object →
        object.isDir = false) :
    Held request (takeaway ledger request.path request.quarantine) := by
  rw [takeaway]
  split
  · exact Or.inl untouched
  · next free =>
      rw [Option.not_isSome_iff_eq_none] at free
      rcases Option.isSome_iff_exists.1 isThere with ⟨file, isFile⟩
      exact Or.inr ⟨file, untouched.take isFile free, notDir free file isFile⟩

/-- Giving back leaves the file in quarantine, or brings it to its path. -/
theorem held_moveto (held : Held request ledger) :
    Held request (moveto ledger request.quarantine request.path) ∨
      ∃ file, (moveto ledger request.quarantine request.path).Has
        request.path file := by
  rw [moveto]
  split
  · exact Or.inl held
  · next free =>
      rw [Option.not_isSome_iff_eq_none] at free
      rcases held with untouched | ⟨file, has, -⟩
      · exact Or.inl (Or.inl (untouched.move _ free))
      · exact Or.inr ⟨file, has.move free⟩

/-- The next command leaves the taken object where it belongs. -/
theorem Fits.command
    {outcome : Outcome} (fits : Fits request deletion)
    (allowed : Allowed request deletion (.command outcome))
    (taken : step request deletion (.command outcome) = some next) :
    Fits request next := by
  rcases deletion with ⟨ledger, phase⟩
  cases phase with
  | checking =>
      simp only [step, Remote.command] at taken
      split at taken
      · cases taken
        exact Or.inl fits
      · split at taken
        · cases taken
          exact Or.inl fits
        · split at taken
          · cases taken
            exact Or.inl fits
          · cases taken
            exact Or.inl fits
          · cases taken
            exact fits
  | taking =>
      cases outcome with
      | failed result =>
          have notApplied : result.applied = false := allowed
          simp only [step, Remote.command, notApplied] at taken
          cases taken
          exact Or.inl fits
      | done =>
          simp only [step, Remote.command] at taken
          split at taken
          · next isThere =>
              cases taken
              exact held_takeaway fits isThere allowed
          · cases taken
      | garbled =>
          simp only [step, Remote.command] at taken
          split at taken
          · next isThere =>
              cases taken
              exact held_takeaway fits isThere allowed
          · cases taken
  | lookingPath =>
      simp only [step, Remote.command] at taken
      split at taken
      · next error isError =>
          cases taken
          exact Or.inl (untouched_of_error fits allowed isError)
      · cases taken
        have held : Held request ledger := fits
        apply fits_kept held
        show "quarantine_conflict" ∈ Ledger.keptCodes
        decide
      · cases taken
        exact fits
  | inspecting =>
      have untouched : outcome ≠ .done → ledger.Untouched := by
        intro notDone
        rcases fits with isUntouched | ⟨file, has, -⟩
        · exact isUntouched
        · exact absurd (allowed (isSome_of_has has)) notDone
      simp only [step, Remote.command] at taken
      split at taken
      · cases taken
        exact Or.inl (untouched nofun)
      · cases taken
      · cases taken
        exact Or.inl (untouched nofun)
      · next object isThere =>
          rcases Held.heldAs fits isThere with ⟨heldAs, notDir⟩
          split at taken
          · next isDir =>
              cases taken
              rcases fits with isUntouched | ⟨file, has, -⟩
              · exact Or.inl isUntouched
              · have isFile := notDir (isSome_of_has has)
                rw [isDir] at isFile
                cases isFile
          · next isFile =>
              rw [Bool.not_eq_true] at isFile
              split at taken
              · next listed =>
                  cases taken
                  apply fits_compared heldAs isFile
                  intro same
                  rw [HasIdentity, if_pos listed]
                  exact same
              · next notListed =>
                  cases taken
                  exact ⟨heldAs, isFile, Bool.eq_false_iff.2 notListed⟩
  | hashing listed =>
      rcases fits with ⟨heldAs, isFile, notListed⟩
      have untouched : ¬ (outcome = .done ∧
          isDigest (request.lower listed.digest) = true) →
            ledger.Untouched := by
        intro notBoth
        rcases heldAs.2 with isUntouched | has
        · exact isUntouched
        · rcases allowed (isSome_of_has has) with ⟨isDone, strong⟩
          exact absurd ⟨isDone, strong listed heldAs.1⟩ notBoth
      simp only [step, Remote.command] at taken
      split at taken
      · next object isThere =>
          rw [heldAs.1] at isThere
          cases isThere
          split at taken
          · next strong =>
              cases taken
              apply fits_compared heldAs isFile
              intro same
              rw [HasIdentity, notListed]
              exact ⟨strong, same⟩
          · next weak =>
              cases taken
              exact Or.inl (untouched fun both => weak both.2)
      · cases taken
      · next notDone _ =>
          cases taken
          apply Or.inl
          apply untouched
          rintro ⟨rfl, -⟩
          exact notDone listed rfl heldAs.1
  | lookingPathAgain =>
      simp only [step, Remote.command] at taken
      split at taken
      · next error isError =>
          cases taken
          exact Or.inl (untouched_of_error fits allowed isError)
      · cases taken
        have held : Held request ledger := fits
        apply fits_kept held
        show "identity_changed_quarantined" ∈ Ledger.keptCodes
        decide
      · cases taken
        exact fits
  | restoring =>
      have kept : (identityChangedQuarantined request.quarantine).reasonCode ∈
          Ledger.keptCodes := by
        show "identity_changed_quarantined" ∈ Ledger.keptCodes
        decide
      simp only [step, Remote.command] at taken
      split at taken
      · cases taken
        split
        · rcases held_moveto fits with held | back
          · exact fits_kept held kept
          · exact Or.inr (Or.inl (back.imp fun _ => Or.inl))
        · exact fits_kept fits kept
      · split at taken
        · cases taken
          exact held_moveto fits
        · cases taken
  | lookingQuarantine =>
      have back : existsAnswer (ledger.files request.quarantine) outcome ≠
          .ok true → ledger.Untouched ∨
            ∃ file, ledger.Has request.path file := by
        intro notSeen
        rcases fits with (untouched | ⟨file, has, -⟩) | isBack
        · exact Or.inl untouched
        · rcases allowed (isSome_of_has has) with isBack | seen
          · have isThere : ledger.files request.path = some file :=
              Eq.trans isBack has.taken
            exact Or.inr ⟨file, has.taken, isThere, has.removed,
              has.overwritten⟩
          · exact absurd seen notSeen
        · exact Or.inr isBack
      simp only [step, Remote.command] at taken
      split at taken
      · next error isError =>
          cases taken
          rcases back (by
            rw [isError]
            exact nofun) with untouched | isBack
          · exact Or.inl untouched
          · exact Or.inr (Or.inl (isBack.imp fun _ => Or.inl))
      · cases taken
        rcases fits with held | isBack
        · apply fits_kept held
          show "identity_changed_quarantined" ∈ Ledger.keptCodes
          decide
        · exact Or.inr (Or.inl (isBack.imp fun _ => Or.inl))
      · next unseen =>
          cases taken
          rcases back (by
            rw [unseen]
            exact nofun) with untouched | isBack
          · exact Or.inl untouched
          · exact Or.inr (Or.inl (isBack.imp fun _ => Or.inl))
  | deleting =>
      rcases fits with ⟨file, heldAs, hasIdentity⟩
      have gone : (ledger.remove request.quarantine).Gone file := by
        rcases heldAs.2 with untouched | has
        · exact untouched.remove heldAs.1
        · exact has.remove
      simp only [step, Remote.command] at taken
      split at taken
      · next result =>
          cases taken
          rcases allowed result rfl with ⟨notTaken, notApplied⟩
          rw [notApplied]
          rcases heldAs.2 with untouched | has
          · exact Or.inl untouched
          · cases notTaken.symm.trans has.taken
      · split at taken
        · cases taken
          exact ⟨file, gone, hasIdentity⟩
        · cases taken
  | lookingOriginal =>
      rcases fits with ⟨file, gone, hasIdentity⟩
      rcases allowed with ⟨answer, isAnswer⟩
      have answered : existsAnswer (ledger.files request.path) outcome =
          .ok answer := isAnswer
      simp only [step, Remote.command, answered] at taken
      cases answer with
      | true =>
          cases taken
          exact Or.inr (Or.inr ⟨file, gone, hasIdentity, rfl⟩)
      | false =>
          cases taken
          exact ⟨file, gone, hasIdentity⟩
  | deleted => cases taken
  | raised error => cases taken

/-- In every run whose steps are allowed, the deletion is safe. -/
theorem safe_of_steps
    {first : Deletion} (fresh : first.ledger.Untouched)
    (checking : first.phase = .checking)
    (steps : Steps (step request) (Allowed request) first deletion) :
    deletion.Safe request := by
  have fits : Fits request first := by
    rw [Fits, checking]
    exact fresh
  apply Fits.safe
  apply steps.invariant (Fits request) fits
  intro state action next isFit allowed taken
  cases action with
  | others path object => exact isFit.others allowed taken
  | command outcome => exact isFit.command allowed taken

end Safety

end Sluicery.Storage.Remote
