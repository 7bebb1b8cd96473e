import Sluicery.Backup.RoundTrip

/-!
# Restores which are repeated

A restore can end with an exception at every call, with some of the files
written and some of the rest removed.  It leaves what a later one needs as it
was, so restoring the same archive once more ends where the first restore would
have ended, however often it was tried in between.
-/

namespace Sluicery.Backup

open Sluicery.Library Sluicery.Library.FileTree Sluicery.Library.Raising

/-! ## Trees which take the files -/

/-- The files can be laid over what lies at the location. -/
structure Takes (files : List StagedFile) (location : Location) : Prop where
  safe : location.isSafe = true
  fits : ∀ file ∈ files, conflicts location.tree file.1 = false

/-- A directory without links and special files is safe. -/
theorem isSafe_directory_iff {tree : Folder ByteArray} :
    (Location.directory tree).isSafe = true ↔
      ∀ path isLink, tree.get path ≠ some (.special isLink) := by
  rw [Location.isSafe, Bool.not_eq_true', List.any_eq_false]
  constructor
  · intro safe path isLink found
    exact safe ⟨path, .special isLink⟩ (AList.mem_lookup_iff.mp found) rfl
  · rintro noSpecial ⟨path, entry⟩ member isSpecial
    cases entry with
    | file content => cases isSpecial
    | directory => cases isSpecial
    | special isLink =>
        exact noSpecial path isLink (AList.mem_lookup_iff.mpr member)

/-- Files which are there leave no conflict. -/
theorem Overlay.conflicts_self
    {files : List StagedFile} {tree : Folder ByteArray}
    {before : Path → Option (Entry ByteArray)}
    (overlay : Overlay files before tree.get) {file : StagedFile}
    (member : file ∈ files) : conflicts tree file.1 = false := by
  rw [conflicts_eq_false_iff, overlay.file file member]
  constructor
  · intro impossible
    cases impossible
  · intro parent above entry found
    rw [overlay.above file member parent above] at found
    cases found
    rfl

/-- Neither do files of which some are there. -/
theorem Between.free
    {files : List StagedFile} {before after : Path → Option (Entry ByteArray)}
    (compatible : Compatible files) (between : Between files before after)
    {file : StagedFile} (member : file ∈ files)
    (notDirectory : before file.1 ≠ some .directory)
    (free : ∀ parent, Above parent file.1 → ∀ entry,
      before parent = some entry → entry = .directory) :
    after file.1 ≠ some .directory ∧ ∀ parent, Above parent file.1 →
      ∀ entry, after parent = some entry → entry = .directory := by
  constructor
  · rcases between file.1 with
      same | ⟨other, -, -, isFile⟩ | ⟨⟨other, isOther, above⟩, -⟩
    · rw [same]
      exact notDirectory
    · rw [isFile]
      intro impossible
      cases impossible
    · exact absurd above (compatible.leaves file member other isOther)
  · intro parent above entry found
    rcases between parent with
      same | ⟨other, isOther, rfl, -⟩ | ⟨-, isDirectory⟩
    · rw [same] at found
      exact free parent above entry found
    · exact absurd above (compatible.leaves other isOther file member)
    · rw [isDirectory] at found
      cases found
      rfl

/-- Removing something beside the files makes room only. -/
theorem Partly.get
    {files : List StagedFile} {exact : Bool}
    {before after : Path → Option (Entry ByteArray)}
    (part : Partly files exact before after) :
    ∃ copied, Between files before copied ∧ ∀ path,
      after path = copied path ∨ (¬ Kept files path ∧ after path = none) := by
  rcases part with ⟨copied, between, thinned⟩
  refine ⟨copied, between, ?_⟩
  cases exact with
  | true => exact thinned
  | false => exact fun path => Or.inl (congrFun thinned path)

theorem Partly.conflicts_eq_false
    {files : List StagedFile} {exact : Bool}
    {tree after : Folder ByteArray} (compatible : Compatible files)
    (part : Partly files exact tree.get after.get) {file : StagedFile}
    (member : file ∈ files) (fits : conflicts tree file.1 = false) :
    conflicts after file.1 = false := by
  rcases conflicts_eq_false_iff.mp fits with ⟨notDirectory, free⟩
  rcases part.get with ⟨copied, between, thinned⟩
  rcases between.free compatible member notDirectory free with
    ⟨notDirectory, free⟩
  rw [conflicts_eq_false_iff]
  constructor
  · rcases thinned file.1 with same | ⟨-, gone⟩
    · rw [same]
      exact notDirectory
    · rw [gone]
      intro impossible
      cases impossible
  · intro parent above entry found
    rcases thinned parent with same | ⟨-, gone⟩
    · rw [same] at found
      exact free parent above entry found
    · rw [gone] at found
      cases found

theorem Takes.of_overlay
    {files : List StagedFile} {tree after : Folder ByteArray}
    {before : Path → Option (Entry ByteArray)}
    (takes : Takes files (.directory tree))
    (overlay : Overlay files before after.get)
    (base : ∀ path, before path = none ∨ before path = tree.get path) :
    Takes files (.directory after) where
  safe := by
    rw [isSafe_directory_iff]
    intro path isLink special
    rcases overlay.between path with
      same | ⟨_, -, -, isFile⟩ | ⟨-, isDirectory⟩
    · rcases base path with isNone | isTree
      · rw [special, isNone] at same
        cases same
      · rw [special, isTree] at same
        exact isSafe_directory_iff.mp takes.safe path isLink same.symm
    · rw [special] at isFile
      cases isFile
    · rw [special] at isDirectory
      cases isDirectory
  fits := fun _ member => overlay.conflicts_self member

theorem Takes.of_partly
    {files : List StagedFile} {exact : Bool} {tree after : Folder ByteArray}
    (takes : Takes files (.directory tree)) (compatible : Compatible files)
    (part : Partly files exact tree.get after.get) :
    Takes files (.directory after) where
  safe := by
    rw [isSafe_directory_iff]
    intro path isLink special
    rcases part.get with ⟨copied, between, thinned⟩
    rcases thinned path with sameCopied | ⟨-, gone⟩
    · rw [special] at sameCopied
      rcases between path with
        same | ⟨_, -, -, isFile⟩ | ⟨-, isDirectory⟩
      · rw [same] at sameCopied
        exact isSafe_directory_iff.mp takes.safe path isLink sameCopied.symm
      · rw [isFile] at sameCopied
        cases sameCopied
      · rw [isDirectory] at sameCopied
        cases sameCopied
    · rw [special] at gone
      cases gone
  fits := fun file member => part.conflicts_eq_false compatible member
    (takes.fits file member)

theorem Takes.directory {files : List StagedFile} {location : Location}
    (takes : Takes files location) :
    Takes files (.directory location.tree) :=
  ⟨isSafe_tree takes.safe, takes.fits⟩

/-- What lies beside the files is as it was. -/
def Beside (files : List StagedFile) (before after : Location) : Prop :=
  ∀ path, ¬ Kept files path → after.tree.get path = before.tree.get path

/-- Nothing lies beside the files which was not there. -/
def Beneath (files : List StagedFile) (before after : Location) : Prop :=
  ∀ path, ¬ Kept files path → after.tree.get path = none ∨
    after.tree.get path = before.tree.get path

theorem Between.beside
    {files : List StagedFile} {before after : Path → Option (Entry ByteArray)}
    (between : Between files before after) {path : Path}
    (notKept : ¬ Kept files path) : after path = before path := by
  rcases between path with
    same | ⟨file, member, same, -⟩ | ⟨⟨file, member, above⟩, -⟩
  · exact same
  · exact absurd ⟨file, member, Or.inl same⟩ notKept
  · exact absurd ⟨file, member, Or.inr above⟩ notKept

theorem Partly.beneath
    {files : List StagedFile} {exact : Bool}
    {before after : Path → Option (Entry ByteArray)}
    (part : Partly files exact before after) {path : Path}
    (notKept : ¬ Kept files path) :
    after path = none ∨ after path = before path := by
  rcases part.get with ⟨copied, between, thinned⟩
  rcases thinned path with same | ⟨-, gone⟩
  · exact Or.inr (same.trans (between.beside notKept))
  · exact Or.inl gone

theorem baseOf_eq {disk : Disk} {files : List StagedFile} {exact : Bool}
    {tree : Folder ByteArray} (path : Path) :
    baseOf disk files exact tree path = none ∨
      baseOf disk files exact tree path = tree.get path := by
  rw [baseOf]
  split
  · rw [leftOver]
    split
    · next stays => exact Or.inr stays.get.symm
    · exact Or.inl rfl
  · exact Or.inr rfl

/-! ## What an attempt keeps -/

/-- A validated location takes the files as before. -/
theorem keeps_validateTargetTree (files : List StagedFile) :
    Keeps (Takes files) validateTargetTree := by
  intro location takes
  refine (ends_validateTargetTree location).mono ?_ ?_
  · rintro _ _ ⟨-, rfl⟩
    exact takes.directory
  · rintro _ _ ⟨-, rfl⟩
    exact takes

/-- What lies below a location stays. -/
theorem keeps_validateTargetTree_tree (holds : Location → Prop)
    (ofTree : ∀ location, holds location ↔
      holds (.directory location.tree)) :
    Keeps holds validateTargetTree := by
  intro location isHeld
  refine (ends_validateTargetTree location).mono ?_ ?_
  · rintro _ _ ⟨-, rfl⟩
    exact (ofTree location).mp isHeld
  · rintro _ _ ⟨-, rfl⟩
    exact isHeld

/-- However the restore of a tree ends, the tree takes the files. -/
theorem keeps_restoreTree {files : List StagedFile} {disk : Disk}
    {exact : Bool} (compatible : Compatible files) :
    Keeps (Takes files) (restoreTree disk files exact) := by
  intro location takes
  rw [restoreTree, ends_bind]
  refine (ends_validateTargetTree location).mono ?_ ?_
  · rintro _ _ ⟨-, rfl⟩
    rw [ends_onTree]
    refine (ends_restoreFiles compatible).mono ?_ ?_
    · rintro _ after ⟨-, -, overlay⟩
      exact takes.directory.of_overlay overlay baseOf_eq
    · rintro failure after (⟨-, rfl, -⟩ | ⟨-, -, -, part⟩)
      · exact takes.directory
      · exact takes.directory.of_partly compatible part
  · rintro _ _ ⟨-, rfl⟩
    exact takes

/-- Nothing comes to lie beside the files. -/
theorem keeps_restoreTree_beneath {files : List StagedFile} {disk : Disk}
    {exact : Bool} {first : Location} (compatible : Compatible files) :
    Keeps (Beneath files first) (restoreTree disk files exact) := by
  intro location beneath
  have goesOn : ∀ {after : Location},
      (∀ path, ¬ Kept files path → after.tree.get path = none ∨
        after.tree.get path = location.tree.get path) →
      Beneath files first after := by
    intro after thinner path notKept
    rcases thinner path notKept with gone | same
    · exact Or.inl gone
    · rw [same]
      exact beneath path notKept
  rw [restoreTree, ends_bind]
  refine (ends_validateTargetTree location).mono ?_ ?_
  · rintro _ _ ⟨-, rfl⟩
    rw [ends_onTree]
    refine (ends_restoreFiles compatible).mono ?_ ?_
    · rintro _ after ⟨-, -, overlay⟩
      refine goesOn fun path notKept => ?_
      show after.get path = none ∨ after.get path = location.tree.get path
      rw [overlay.beside notKept]
      exact baseOf_eq path
    · rintro failure after (⟨-, rfl, -⟩ | ⟨-, -, -, part⟩)
      · exact beneath
      · exact goesOn fun _ => part.beneath
  · rintro _ _ ⟨-, rfl⟩
    exact beneath

/-- What is beside the files stays, where nothing is removed. -/
theorem keeps_restoreTree_beside {files : List StagedFile}
    {disk : Disk} {first : Location} (compatible : Compatible files) :
    Keeps (Beside files first) (restoreTree disk files false) := by
  intro location beside
  rw [restoreTree, ends_bind]
  refine (ends_validateTargetTree location).mono ?_ ?_
  · rintro _ _ ⟨-, rfl⟩
    rw [ends_onTree]
    refine (ends_restoreFiles compatible).mono ?_ ?_
    · rintro _ after ⟨-, -, overlay⟩ path notKept
      exact (overlay.beside notKept).trans (beside path notKept)
    · rintro failure after (⟨-, rfl, -⟩ | ⟨-, -, -, copied, between, same⟩)
      · exact beside
      · rw [if_neg Bool.false_ne_true] at same
        intro path notKept
        exact (congrFun same path).trans
          ((between.beside notKept).trans (beside path notKept))
  · rintro _ _ ⟨-, rfl⟩
    exact beside

/-- A restore of what is staged can be tried again. -/
structure Resumable {Content : Type} (staging : Folder ByteArray)
    (first state : State Content) : Prop where
  config : Takes (stagedFiles staging "config") state.config
  beneath : Beneath (stagedFiles staging "config") first.config state.config
  logs : (staging.get ["logs"]).isSome = true →
    Takes (stagedFiles staging "logs") state.logs
  beside : Beside (stagedFiles staging "logs") first.logs state.logs
  database : checkpointExisting state.database .done = .ok ()

section Resumable

variable {Content : Type} {environment : Environment Content}
  {staging : Folder ByteArray} {first : State Content}

/-- What is done to the log tree while there is something for it. -/
theorem keeps_onLogs {Value : Type}
    {program : EStateM Failure Location Value}
    (hasLogs : (staging.get ["logs"]).isSome = true)
    (takes : Keeps (Takes (stagedFiles staging "logs")) program)
    (beside : Keeps (Beside (stagedFiles staging "logs") first.logs)
      program) :
    Keeps (Resumable staging first) (onLogs program) := by
  intro state resumable
  have goesOn : ∀ logs, Takes (stagedFiles staging "logs") logs ∧
      Beside (stagedFiles staging "logs") first.logs logs →
      Resumable staging first { state with logs } := fun logs both =>
    ⟨resumable.config, resumable.beneath, fun _ => both.1, both.2,
      resumable.database⟩
  rw [ends_onLogs]
  exact (takes.and beside state.logs
    ⟨resumable.logs hasLogs, resumable.beside⟩).mono
      (fun _ => goesOn) (fun _ => goesOn)

theorem keeps_onConfig {Value : Type}
    {program : EStateM Failure Location Value}
    (takes : Keeps (Takes (stagedFiles staging "config")) program)
    (beneath : Keeps (Beneath (stagedFiles staging "config") first.config)
      program) :
    Keeps (Resumable staging first) (onConfig program) := by
  intro state resumable
  have goesOn : ∀ config, Takes (stagedFiles staging "config") config ∧
      Beneath (stagedFiles staging "config") first.config config →
      Resumable staging first { state with config } := fun config both =>
    ⟨both.1, both.2, resumable.logs, resumable.beside, resumable.database⟩
  rw [ends_onConfig]
  exact (takes.and beneath state.config
    ⟨resumable.config, resumable.beneath⟩).mono
      (fun _ => goesOn) (fun _ => goesOn)

theorem keeps_raising {Value : Type} {State : Type} {holds : State → Prop}
    (result : Except Failure Value) : Keeps holds (raising result) := by
  cases result with
  | ok value => exact keeps_pure value
  | error failure => exact keeps_throw failure

/-- What follows a value which is known. -/
theorem keeps_raising_bind {Result Value State : Type}
    {holds : State → Prop} {result : Except Failure Result}
    {next : Result → EStateM Failure State Value}
    (keeps : ∀ value, result = .ok value → Keeps holds (next value)) :
    Keeps holds (raising result >>= next) := by
  cases found : result with
  | ok value => exact keeps value found
  | error failure => exact fun state isHeld => isHeld

theorem keeps_checkTargets (checkpoint : Checkpoint) :
    Keeps (Resumable staging first)
      (checkTargets checkpoint (staging.get ["logs"]).isSome) := by
  have database : Keeps (Resumable staging first)
      (do raising (checkpointExisting (← get).database checkpoint)) := by
    refine Keeps.bind (fun state resumable => resumable) fun state => ?_
    exact keeps_raising _
  rw [checkTargets]
  refine (keeps_onConfig (keeps_validateTargetTree _)
    (keeps_validateTargetTree_tree _ fun _ => Iff.rfl)).bind fun _ => ?_
  split
  · next hasLogs =>
      exact (keeps_onLogs hasLogs (keeps_validateTargetTree _)
        (keeps_validateTargetTree_tree _ fun _ => Iff.rfl)).bind fun _ =>
          database
  · exact database

theorem keeps_writeDatabase (disk : Disk) (content : Option Content) :
    Keeps (Resumable staging first) (writeDatabase disk (.file content)) := by
  intro state resumable
  have written : Resumable staging first
      { state with database := .file content } :=
    ⟨resumable.config, resumable.beneath, resumable.logs, resumable.beside,
      rfl⟩
  refine ends_writeDatabase.mono ?_ ?_
  · rintro _ _ ⟨-, rfl⟩
    exact written
  · rintro _ _ ⟨-, -, rfl⟩
    split
    · exact written
    · exact resumable

theorem keeps_writeTargets (database : ByteArray) :
    Keeps (Resumable staging first)
      (writeTargets environment staging database
        (staging.get ["logs"]).isSome) := by
  have config := compatible_stagedFiles staging "config"
  have logs := compatible_stagedFiles staging "logs"
  rw [writeTargets]
  refine (keeps_onConfig (keeps_restoreTree config)
    (keeps_restoreTree_beneath config)).bind fun configFiles => ?_
  have written : ∀ logFiles, Keeps (Resumable staging first)
      (do
        writeDatabase (environment.disk .database)
          (.file (environment.sqlite.connect database))
        raising (validateDatabase environment.sqlite database)
        return (configFiles, logFiles) :
        EStateM Failure (State Content) (Nat × Nat)) := fun logFiles =>
    (keeps_writeDatabase _ _).bind fun _ =>
      (keeps_raising _).bind fun _ => keeps_pure _
  dsimp only
  by_cases hasLogs : (staging.get ["logs"]).isSome = true
  · rw [if_pos hasLogs]
    exact (keeps_onLogs hasLogs (keeps_restoreTree logs)
      (keeps_restoreTree_beside logs)).bind written
  · rw [if_neg hasLogs]
    exact (keeps_pure _).bind written

end Resumable

/-! ## The archive -/

/-- The environment, with a file system which lets everything be done. -/
def Environment.unlimited {Content : Type}
    (environment : Environment Content) : Environment Content :=
  { environment with disk := fun _ => .unlimited }

theorem copyMember_unlimited
    {holds : Path → Bool} {staging : Folder ByteArray} {path : Path}
    {data : Option ByteArray} {expectedSize : Int}
    {result : Folder ByteArray × ByteArray}
    (copied : copyMember holds staging path data expectedSize =
      .ok result) :
    copyMember (fun _ => true) staging path data expectedSize =
      .ok result := by
  rw [copyMember] at copied ⊢
  cases makes : staging.makeDirectories path.dropLast with
  | none =>
      rw [makes] at copied
      cases copied
  | some made =>
      rw [makes] at copied
      dsimp only at copied ⊢
      rw [ite_error_eq_ok_iff, Bool.or_eq_true, not_or] at copied
      rw [ite_error_eq_ok_iff, Bool.or_eq_true, not_or]
      exact ⟨⟨copied.1.1, Bool.false_ne_true⟩, copied.2⟩

theorem stageMember_unlimited
    {crypto : Crypto} {holds : Path → Bool} {members : List Member}
    {staging staged : Folder ByteArray} {expected : Expected}
    (isStaged : stageMember crypto holds members staging expected =
      .ok staged) :
    stageMember crypto (fun _ => true) members staging expected =
      .ok staged := by
  rw [stageMember] at isStaged ⊢
  cases found : byName members expected.path with
  | none =>
      rw [found] at isStaged
      cases isStaged
  | some member =>
      rw [found] at isStaged
      dsimp only at isStaged ⊢
      rw [ite_error_eq_ok_iff, bind_eq_ok_iff] at isStaged ⊢
      rcases isStaged with ⟨sameSize, result, copied, rest⟩
      exact ⟨sameSize, result, copyMember_unlimited copied, rest⟩

theorem foldlM_stageMember_unlimited
    {crypto : Crypto} {holds : Path → Bool} {members : List Member}
    {expected : List Expected} {staging staged : Folder ByteArray}
    (isStaged : expected.foldlM (stageMember crypto holds members)
      staging = .ok staged) :
    expected.foldlM (stageMember crypto (fun _ => true) members) staging =
      .ok staged := by
  induction expected generalizing staging with
  | nil => exact isStaged
  | cons entry rest induction =>
      rw [List.foldlM_cons, bind_eq_ok_iff] at isStaged ⊢
      rcases isStaged with ⟨middle, first, later⟩
      exact ⟨middle, stageMember_unlimited first, induction later⟩

/-- What is staged does not depend on what the file system can hold. -/
theorem readArchive_unlimited
    {Content : Type} {environment : Environment Content}
    {secretKey : String} {source : ArchiveSource}
    {found : Manifest × Folder ByteArray}
    (read : readArchive environment secretKey source = .ok found) :
    readArchive environment.unlimited secretKey source = .ok found := by
  rw [readArchive_eq_ok_iff] at read ⊢
  rcases read with ⟨members, rfl, accepts⟩
  refine ⟨members, rfl, accepts.nonempty, accepts.count, accepts.sound,
    accepts.distinct, accepts.total, accepts.loaded, ?_⟩
  rcases stageMembers_eq_ok_iff.mp accepts.staged with ⟨expected, stages⟩
  exact stageMembers_eq_ok_iff.mpr ⟨expected, stages.entries,
    stages.hasDatabase, stages.names, stages.logs,
    foldlM_stageMember_unlimited stages.staged, stages.database⟩

/-! ## Attempts -/

section Attempts

variable {Content : Type} {environment : Environment Content}
  {secretKey : String} {source : ArchiveSource}

/-- A restore which returned or raised, whatever the file system let be done
and the checkpoint answered.  A process which is killed can also leave the
temporary file of `_atomic_copy`, which stays in the log tree. -/
def Attempt (environment : Environment Content) (secretKey : String)
    (source : ArchiveSource) (before after : State Content) : Prop :=
  ∃ disk checkpoint,
    Leads (restoreBackup { environment with disk } secretKey source
      checkpoint) before after

/-- An attempt leaves a state in which another one can follow. -/
theorem keeps_restoreBackup
    {disk : Site → Disk} {checkpoint : Checkpoint}
    {manifest : Manifest} {staging : Folder ByteArray}
    {first : State Content}
    (read : readArchive environment.unlimited secretKey source =
      .ok (manifest, staging)) :
    Keeps (Resumable staging first)
      (restoreBackup { environment with disk } secretKey source
        checkpoint) := by
  rw [restoreBackup]
  -- The check of the key comes before the same rest in both branches.
  refine (fun rest => Keeps.ite ((keeps_throw _).bind fun _ => rest) rest) ?_
  refine keeps_raising_bind fun both isRead => ?_
  have same := readArchive_unlimited isRead
  change readArchive environment.unlimited secretKey source = _ at same
  rw [read, Except.ok.injEq] at same
  rw [← same]
  refine keeps_raising_bind fun both _ => ?_
  refine (keeps_checkTargets checkpoint).bind fun _ => ?_
  exact (keeps_writeTargets both.1).bind fun _ => keeps_pure _

/-- The state before anything was tried can be resumed. -/
theorem resumable_of_ready
    {staging : Folder ByteArray} {database : ByteArray} {matched : Bool}
    {state : State Content}
    (ready : Ready environment secretKey source .done state staging database
      matched)
    (holds : Holds environment staging state) :
    Resumable staging state state where
  config := ⟨ready.targets.config, holds.config.free⟩
  beneath := fun _ _ => Or.inr rfl
  logs := fun hasLogs => ⟨ready.targets.logs hasLogs, holds.logs.free⟩
  beside := fun _ _ => rfl
  database := ready.targets.database

theorem Resumable.attempts
    {manifest : Manifest} {staging : Folder ByteArray}
    {first state : State Content}
    (read : readArchive environment.unlimited secretKey source =
      .ok (manifest, staging))
    (begun : Resumable staging first first)
    (attempts : Relation.ReflTransGen (Attempt environment secretKey source)
      first state) :
    Resumable staging first state := by
  induction attempts with
  | refl => exact begun
  | tail earlier attempt induction =>
      rcases attempt with ⟨disk, checkpoint, leads⟩
      exact (keeps_restoreBackup read).of_leads induction leads

/-- What can be resumed is ready again. -/
theorem Resumable.ready
    {staging : Folder ByteArray} {database : ByteArray} {matched : Bool}
    {first state : State Content} (resumable : Resumable staging first state)
    (ready : Ready environment secretKey source .done first staging database
      matched) :
    Ready environment secretKey source .done state staging database
      matched where
  archive := ready.archive
  targets := ⟨resumable.config.safe, fun hasLogs =>
    (resumable.logs hasLogs).safe, resumable.database⟩

theorem Resumable.holds
    {staging : Folder ByteArray} {first state : State Content}
    (resumable : Resumable staging first state)
    (holds : Holds environment staging first) :
    Holds environment staging state where
  config := by
    refine ⟨resumable.config.fits, holds.config.copies, fun _ => ?_⟩
    have clears := holds.config.clears rfl
    refine ⟨fun path => (clears.canGo path).of_beside ?_, clears.syncs⟩
    intro notKept entry found
    rcases resumable.beneath path notKept with gone | same
    · rw [found] at gone
      cases gone
    · rw [← same, found]
  logs := by
    refine ⟨fun file member => ?_, holds.logs.copies, fun impossible => ?_⟩
    · cases found : staging.get ["logs"] with
      | none =>
          rw [stagedFiles_of_get_eq_none found] at member
          cases member
      | some entry =>
          refine (resumable.logs ?_).fits file member
          rw [found, Option.isSome_some]
    · cases impossible
  database := holds.database

/-- The log files are laid over what was there at first. -/
theorem Resumable.overlay
    {staging : Folder ByteArray} {first state : State Content}
    {after : Path → Option (Entry ByteArray)}
    (resumable : Resumable staging first state)
    (overlay : Overlay (stagedFiles staging "logs") state.logs.tree.get
      after) :
    Overlay (stagedFiles staging "logs") first.logs.tree.get after where
  file := overlay.file
  above := overlay.above
  other := fun path outside => by
    rw [overlay.other path outside]
    apply resumable.beside path
    rintro ⟨file, member, same | above⟩
    · exact (outside file member).1 same
    · exact (outside file member).2 above

/-- The file system does not let a directory at the path or below it go. -/
def Refused (disk : Disk) (path : Path) : Prop :=
  ∃ below, (path = below ∨ Above path below) ∧ disk.removes below = false

/-- Two restores of one archive have left the same, but for directories which
the file system does not let go and which have been removed all the same. -/
structure Repeated (disk : Disk) (uninterrupted after : State Content) :
    Prop where
  database : after.database = uninterrupted.database
  config : ∀ path,
    after.config.tree.get path = uninterrupted.config.tree.get path ∨
      (after.config.tree.get path = none ∧
        uninterrupted.config.tree.get path = some .directory ∧
        Refused disk path)
  logs : SameContents uninterrupted.logs after.logs

/-- Where every directory can be removed, they have left the same. -/
theorem Repeated.unchanged
    {disk : Disk} {uninterrupted after : State Content}
    (repeated : Repeated disk uninterrupted after)
    (removes : ∀ path, disk.removes path = true) :
    Unchanged uninterrupted after where
  database := repeated.database
  config := by
    intro path
    rcases repeated.config path with same | ⟨-, -, below, -, refused⟩
    · exact same
    · rw [removes] at refused
      cases refused
  logs := repeated.logs

/-- The config files are laid over fewer directories than at first. -/
theorem Resumable.repeated_config
    {staging : Folder ByteArray}
    {first state uninterrupted after : State Content}
    (resumable : Resumable staging first state)
    (one : Overlay (stagedFiles staging "config")
      (configBase environment staging first) uninterrupted.config.tree.get)
    (other : Overlay (stagedFiles staging "config")
      (configBase environment staging state) after.config.tree.get)
    (path : Path) :
    after.config.tree.get path = uninterrupted.config.tree.get path ∨
      (after.config.tree.get path = none ∧
        uninterrupted.config.tree.get path = some .directory ∧
        Refused (environment.disk .config) path) := by
  by_cases kept : Kept (stagedFiles staging "config") path
  · rcases kept with ⟨file, member, rfl | above⟩
    · exact Or.inl ((other.file file member).trans (one.file file member).symm)
    · exact Or.inl ((other.above file member path above).trans
        (one.above file member path above).symm)
  rw [other.beside kept, one.beside kept]
  unfold configBase leftOver
  split
  · next staysNow =>
      have stays : Stays (environment.disk .config)
          (stagedFiles staging "config") first.config.tree path := by
        refine staysNow.of_beside fun below notKept found _ => ?_
        rcases resumable.beneath below notKept with gone | same
        · rw [found] at gone
          cases gone
        · rw [← same, found]
      rw [if_pos stays]
      exact Or.inl rfl
  · split
    · next stays =>
        rcases stays_iff.mp stays with ⟨below, isBelow, -, -, refused⟩
        exact Or.inr ⟨rfl, rfl, below, isBelow, refused⟩
    · exact Or.inl rfl

/-- Where a restore would return, it returns after any attempts to restore the
same archive, too, and leaves the same contents. -/
theorem restore_resumes (environment : Environment Content)
    (secretKey : String) (source : ArchiveSource) (first : State Content) :
    Ends (restoreBackup environment secretKey source .done) first
      (fun _ uninterrupted => ∀ state,
        Relation.ReflTransGen (Attempt environment secretKey source) first
          state →
        Ends (restoreBackup environment secretKey source .done) state
          (fun _ after =>
            Repeated (environment.disk .config) uninterrupted after ∧
              ((∀ path, (environment.disk .config).removes path = true) →
                Unchanged uninterrupted after))
          (fun _ _ => False))
      (fun _ _ => True) := by
  refine ends_restoreBackup.mono ?_ fun _ _ _ => trivial
  rintro result uninterrupted ⟨staging, database, valid, ready, holds,
    restored, -⟩ state attempts
  rcases ready.archive with ⟨manifest, read, -⟩
  have resumable := (resumable_of_ready ready holds).attempts
    (readArchive_unlimited read) attempts
  refine ends_restoreBackup.mono ?_ ?_
  · rintro again after ⟨found, other, -, readyAgain, -, restoredAgain, -⟩
    rcases readyAgain.of_readArchive read with ⟨rfl, stagedAgain⟩
    rcases ready.of_readArchive read with ⟨-, staged⟩
    rw [staged, Except.ok.injEq, Prod.mk.injEq] at stagedAgain
    rcases stagedAgain with ⟨rfl, -⟩
    have repeated : Repeated (environment.disk .config) uninterrupted
        after := by
      constructor
      · rw [restoredAgain.database, restored.database]
      · exact resumable.repeated_config restored.config restoredAgain.config
      · exact (resumable.overlay restoredAgain.logs).unique restored.logs
    exact ⟨repeated, repeated.unchanged⟩
  · intro failure after rejected
    exact rejected.cannot staging database _ valid (resumable.ready ready)
      (resumable.holds holds)

end Attempts

/-- A file system on which the database cannot be written. -/
def Sample.withoutDatabase : Site → Disk
  | .database => { Disk.unlimited with holds := fun _ => false }
  | _ => .unlimited

/-- The attempt which cannot write the database restores the trees, and the
next restore ends as if it had not been made. -/
theorem restore_resumes_withoutDatabase :
    ∃ result members state, Sample.backup = .ok (result, members) ∧
      Attempt (Sample.environment fun _ => .unlimited) "key"
        (.archive members) Sample.target state ∧
      state.database = Sample.target.database ∧
      state.config.tree.get ["a"] = some (.file "config".toUTF8) ∧
      Ends (restoreBackup (Sample.environment fun _ => .unlimited) "key"
          (.archive members) .done) Sample.target
        (fun _ uninterrupted =>
          Ends (restoreBackup (Sample.environment fun _ => .unlimited) "key"
              (.archive members) .done) state
            (fun _ after => Unchanged uninterrupted after)
            (fun _ _ => False))
        (fun _ _ => False) := by
  rcases Sample.exists_created Sample.withoutDatabase rfl with
    ⟨result, members, files, ok, created, readable⟩
  rcases created.accepts readable with ⟨staging, overlay, read⟩
  have configPerm := staged_config_perm overlay
  have logsPerm := staged_logs_perm overlay
  have ready : Ready (Sample.environment Sample.withoutDatabase) "key"
      (.archive members) .done Sample.target staging Sample.database
      true := by
    refine ⟨⟨_, read, created.stagedDatabase_eq overlay⟩, ?_⟩
    rw [staged_hasLogs overlay]
    exact Sample.targetsPass
  have halfWay : Ends (restoreBackup
      (Sample.environment Sample.withoutDatabase) "key" (.archive members)
      .done) Sample.target
      (fun _ state => state.database = Sample.target.database ∧
        state.config.tree.get ["a"] = some (.file "config".toUTF8))
      (fun _ state => state.database = Sample.target.database ∧
        state.config.tree.get ["a"] = some (.file "config".toUTF8)) := by
    refine ends_restoreBackup.mono ?_ ?_
    · rintro _ _ ⟨_, _, -, -, holds, -⟩
      cases holds.database.holds
    · intro failure state rejected
      have short := (rejected.afterConfig _ _ _ rfl ready
        (Sample.fits_config.perm configPerm.symm)).2
          (Sample.fits_logs.perm logsPerm.symm)
      exact ⟨short.database rfl, short.config.file _
        (configPerm.mem_iff.mpr Sample.mem_config)⟩
  have attempt : Attempt (Sample.environment fun _ => .unlimited) "key"
      (.archive members) Sample.target _ :=
    ⟨Sample.withoutDatabase, .done, leads_stateAfter _ _⟩
  refine ⟨result, members, _, ok, attempt, halfWay.stateAfter.1,
    halfWay.stateAfter.2, ?_⟩
  rcases Sample.exists_created (fun _ => .unlimited) rfl with
    ⟨_, others, _, sameArchive, whole, readable⟩
  rw [ok] at sameArchive
  cases sameArchive
  refine ((whole.ends_restoreBackup .done Sample.target).and
    (restore_resumes _ _ _ _)).mono ?_ ?_
  · rintro _ uninterrupted ⟨-, resumes⟩
    exact (resumes _ (.single attempt)).mono
      (fun _ _ both => both.2 fun _ => rfl) fun _ _ impossible => impossible
  · exact fun _ _ both => both.1 (Sample.restorable readable)

end Sluicery.Backup
