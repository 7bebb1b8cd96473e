import Sluicery.Backup.Accepted
import Sluicery.Backup.RestoredTrees

/-!
# Restores which are rejected

Everything is checked before the first write, except whether the log files
fit into the log tree: that is looked at when the config tree has been
restored.  `rejected_unchanged_iff` says when a restore which raises a
`BackupError` leaves everything as it was.
-/

namespace Sluicery.Backup

open Sluicery.Library Sluicery.Library.FileTree Sluicery.Library.Raising

/-! ## Contents -/

/-- `_validate_target_tree` accepts the location. -/
def Location.isSafe : Location → Bool
  | .absent => true
  | .directory tree => !tree.entries.entries.any fun entry =>
      !(entry.2.isFile || entry.2.isDirectory)
  | _ => false

/-- What lies below two locations is the same. -/
def SameContents (before after : Location) : Prop :=
  ∀ path, after.tree.get path = before.tree.get path

/-- The database and what lies in the trees are as before. -/
structure Unchanged {Content : Type} (before after : State Content) :
    Prop where
  database : after.database = before.database
  config : SameContents before.config after.config
  logs : SameContents before.logs after.logs

theorem SameContents.refl (location : Location) :
    SameContents location location := fun _ => rfl

/-- What lies there is determined by the files and what was there before. -/
theorem Overlay.unique
    {files : List StagedFile}
    {before first second : Path → Option (Entry ByteArray)}
    (one : Overlay files before first)
    (other : Overlay files before second) (path : Path) :
    first path = second path := by
  by_cases isFile : ∃ file ∈ files, path = file.1
  · rcases isFile with ⟨file, member, rfl⟩
    rw [one.file file member, other.file file member]
  by_cases isAbove : ∃ file ∈ files, Above path file.1
  · rcases isAbove with ⟨file, member, above⟩
    rw [one.above file member path above, other.above file member path above]
  · have outside : ∀ file ∈ files, path ≠ file.1 ∧ ¬ Above path file.1 :=
      fun file member => ⟨fun same => isFile ⟨file, member, same⟩,
        fun above => isAbove ⟨file, member, above⟩⟩
    rw [one.other path outside, other.other path outside]

/-! ## Parts of a restore -/

section Parts

variable {Content : Type} {Value : Type}

@[simp]
theorem ends_onConfig
    {program : EStateM Failure Location Value} {state : State Content}
    {returned : Value → State Content → Prop}
    {raised : Failure → State Content → Prop} :
    Ends (onConfig program) state returned raised ↔
      Ends program state.config
        (fun value config => returned value { state with config })
        (fun failure config => raised failure { state with config }) := by
  rw [Ends, Ends, onConfig]
  cases program state.config with
  | ok value config => exact Iff.rfl
  | error failure config => exact Iff.rfl

@[simp]
theorem ends_onLogs
    {program : EStateM Failure Location Value} {state : State Content}
    {returned : Value → State Content → Prop}
    {raised : Failure → State Content → Prop} :
    Ends (onLogs program) state returned raised ↔
      Ends program state.logs
        (fun value logs => returned value { state with logs })
        (fun failure logs => raised failure { state with logs }) := by
  rw [Ends, Ends, onLogs]
  cases program state.logs with
  | ok value logs => exact Iff.rfl
  | error failure logs => exact Iff.rfl

theorem ends_onTree
    {program : EStateM Failure (Folder ByteArray) Value}
    {tree : Folder ByteArray}
    {returned : Value → Location → Prop}
    {raised : Failure → Location → Prop} :
    Ends (onTree program) (.directory tree) returned raised ↔
      Ends program tree
        (fun value after => returned value (.directory after))
        (fun failure after => raised failure (.directory after)) := by
  rw [Ends, Ends, onTree]
  cases program tree with
  | ok value after => exact Iff.rfl
  | error failure after => exact Iff.rfl

@[simp]
theorem ends_raising
    {State : Type} {result : Except Failure Value} {state : State}
    {returned : Value → State → Prop} {raised : Failure → State → Prop} :
    Ends (raising result) state returned raised ↔
      match result with
      | .ok value => returned value state
      | .error failure => raised failure state := by
  cases result with
  | ok value => exact Iff.rfl
  | error failure => exact Iff.rfl

end Parts

/-- A directory which is accepted is there afterwards. -/
theorem ends_validateTargetTree (location : Location) :
    Ends validateTargetTree location
      (fun _ after => location.isSafe = true ∧
        after = .directory location.tree)
      (fun _ after => location.isSafe = false ∧ after = location) := by
  cases location with
  | absent => exact ⟨rfl, rfl⟩
  | directory tree =>
      rw [validateTargetTree, ends_bind, ends_get]
      dsimp only
      rw [ends_ite]
      split
      · next isSpecial =>
          rw [ends_throw]
          exact ⟨by rw [Location.isSafe, isSpecial, Bool.not_true], rfl⟩
      · next noSpecial =>
          rw [ends_pure]
          rw [Bool.not_eq_true] at noSpecial
          exact ⟨by rw [Location.isSafe, noSpecial, Bool.not_false], rfl⟩
  | link => exact ⟨rfl, rfl⟩
  | dangling => exact ⟨rfl, rfl⟩
  | other => exact ⟨rfl, rfl⟩

theorem ends_restoreTree
    {disk : Disk} {files : List StagedFile} {exact : Bool}
    {location : Location} (compatible : Compatible files)
    (safe : location.isSafe = true) :
    Ends (restoreTree disk files exact) location
      (fun count after => count = files.length ∧
        Fits disk files exact location.tree ∧
        Overlay files (baseOf disk files exact location.tree) after.tree.get)
      (fun failure after =>
        (failure.isBackupError = true ∧ after = .directory location.tree ∧
          ∃ file ∈ files, conflicts location.tree file.1 = true) ∨
        (failure = .osError ∧
          (∀ file ∈ files, conflicts location.tree file.1 = false) ∧
          ¬ Fits disk files exact location.tree ∧
          Partly files exact location.tree.get after.tree.get)) := by
  rw [restoreTree, ends_bind]
  refine (ends_validateTargetTree _).mono ?_ ?_
  · rintro _ after ⟨-, rfl⟩
    rw [ends_onTree]
    refine (ends_restoreFiles compatible).mono ?_ ?_
    · exact fun _ _ isReturned => isReturned
    · rintro failure after (⟨isBackup, rfl, conflict⟩ | isError)
      · exact Or.inl ⟨isBackup, rfl, conflict⟩
      · exact Or.inr isError
  · rintro _ after ⟨isUnsafe, -⟩
    rw [safe] at isUnsafe
    cases isUnsafe

/-- What the checks before the first write leave. -/
def checkedState {Content : Type} (state : State Content) (hasLogs : Bool) :
    State Content :=
  { state with
    config := .directory state.config.tree
    logs := if hasLogs then .directory state.logs.tree else state.logs }

/-- The checks before the first write. -/
structure TargetsPass {Content : Type} (state : State Content)
    (checkpoint : Checkpoint) (hasLogs : Bool) : Prop where
  config : state.config.isSafe = true
  logs : hasLogs = true → state.logs.isSafe = true
  database : checkpointExisting state.database checkpoint = .ok ()

theorem unchanged_checkedState {Content : Type} (state : State Content)
    (hasLogs : Bool) : Unchanged state (checkedState state hasLogs) := by
  constructor
  · rfl
  · exact fun _ => rfl
  · cases hasLogs with
    | false => exact fun _ => rfl
    | true => exact fun _ => rfl

/-- The checks make directories only. -/
theorem ends_checkTargets {Content : Type} (state : State Content)
    (checkpoint : Checkpoint) (hasLogs : Bool) :
    Ends (checkTargets checkpoint hasLogs) state
      (fun _ after => TargetsPass state checkpoint hasLogs ∧
        after = checkedState state hasLogs)
      (fun _ after => ¬ TargetsPass state checkpoint hasLogs ∧
        Unchanged state after) := by
  have made : Unchanged state
      { state with config := .directory state.config.tree } :=
    ⟨rfl, fun _ => rfl, fun _ => rfl⟩
  rw [checkTargets, ends_bind, ends_onConfig]
  refine (ends_validateTargetTree state.config).mono ?_ ?_
  · rintro _ config ⟨safe, rfl⟩
    have answer : ∀ logs, (hasLogs = true → state.logs.isSafe = true) →
        logs = (checkedState state hasLogs).logs →
        Ends (do raising (checkpointExisting (← get).database checkpoint))
          { database := state.database
            config := .directory state.config.tree, logs := logs }
          (fun _ after => TargetsPass state checkpoint hasLogs ∧
            after = checkedState state hasLogs)
          (fun _ after => ¬ TargetsPass state checkpoint hasLogs ∧
            Unchanged state after) := by
      rintro _ logsSafe rfl
      rw [ends_bind, ends_get, ends_raising]
      dsimp only
      split
      · next passes => exact ⟨⟨safe, logsSafe, passes⟩, rfl⟩
      · next fails =>
          refine ⟨fun pass => ?_, unchanged_checkedState state hasLogs⟩
          rw [pass.database] at fails
          cases fails
    cases hasLogs with
    | false => exact answer state.logs (fun impossible => by cases impossible) rfl
    | true =>
        rw [if_pos rfl, ends_bind, ends_onLogs]
        refine (ends_validateTargetTree state.logs).mono ?_ ?_
        · rintro _ logs ⟨logsSafe, rfl⟩
          exact answer _ (fun _ => logsSafe) rfl
        · rintro _ logs ⟨isUnsafe, rfl⟩
          refine ⟨fun pass => ?_, made⟩
          rw [pass.logs rfl] at isUnsafe
          cases isUnsafe
  · rintro _ config ⟨isUnsafe, rfl⟩
    refine ⟨fun pass => ?_, ⟨rfl, .refl _, .refl _⟩⟩
    rw [pass.config] at isUnsafe
    cases isUnsafe

/-! ## A whole restore -/

theorem not_fits_of_conflict
    {disk : Disk} {files : List StagedFile} {exact : Bool}
    {tree : Folder ByteArray}
    (conflict : ∃ file ∈ files, conflicts tree file.1 = true) :
    ¬ Fits disk files exact tree := by
  intro fits
  rcases conflict with ⟨file, member, conflict⟩
  rw [fits.free file member] at conflict
  cases conflict

/-- What has been accepted when the first file is written. -/
structure Ready {Content : Type} (environment : Environment Content)
    (secretKey : String) (source : ArchiveSource) (checkpoint : Checkpoint)
    (state : State Content) (staging : Folder ByteArray)
    (database : ByteArray) (matched : Bool) : Prop where
  archive : ∃ manifest,
    readArchive environment secretKey source = .ok (manifest, staging) ∧
      stagedDatabase environment secretKey manifest staging =
        .ok (database, matched)
  targets : TargetsPass state checkpoint (staging.get ["logs"]).isSome

/-- What is in the config tree when the files of the archive are laid over
it: directories which the file system keeps. -/
def configBase {Content : Type} (environment : Environment Content)
    (staging : Folder ByteArray) (state : State Content) :
    Path → Option (Entry ByteArray) :=
  leftOver (environment.disk .config) (stagedFiles staging "config")
    state.config.tree

/-- What a restore which returns has brought back. -/
structure Restored {Content : Type} (environment : Environment Content)
    (staging : Folder ByteArray) (database : ByteArray)
    (before after : State Content) : Prop where
  database : after.database =
    .file (environment.sqlite.connect database)
  config : Overlay (stagedFiles staging "config")
    (configBase environment staging before) after.config.tree.get
  logs : Overlay (stagedFiles staging "logs") before.logs.tree.get
    after.logs.tree.get

/-- The log files did not fit, and the config tree was restored by then. -/
structure Late {Content : Type} (environment : Environment Content)
    (staging : Folder ByteArray) (before after : State Content) : Prop where
  conflict : ∃ file ∈ stagedFiles staging "logs",
    conflicts before.logs.tree file.1 = true
  database : after.database = before.database
  config : Overlay (stagedFiles staging "config")
    (configBase environment staging before) after.config.tree.get
  logs : SameContents before.logs after.logs

theorem isSafe_tree {location : Location} (safe : location.isSafe = true) :
    (Location.directory location.tree).isSafe = true := by
  cases location with
  | absent => rfl
  | directory tree => exact safe
  | link => cases safe
  | dangling => cases safe
  | other => cases safe

/-- The database which is brought over is the staged one. -/
theorem get_of_stagedDatabase
    {Content : Type} {environment : Environment Content}
    {secretKey : String} {manifest : Manifest} {staging : Folder ByteArray}
    {database : ByteArray} {matched : Bool}
    (staged : stagedDatabase environment secretKey manifest staging =
      .ok (database, matched)) :
    staging.get ["database", "sluicery.db"] = some (.file database) := by
  rw [stagedDatabase] at staged
  split at staged
  · next found isFound =>
      rw [bind_eq_ok_iff] at staged
      rcases staged with ⟨recorded, -, rest⟩
      rw [ite_error_bind_eq_ok_iff] at rest
      rcases rest with ⟨-, ⟨⟩⟩
      exact isFound
  · cases staged

/-- Where nothing lies at `logs`, no log files are staged. -/
theorem stagedFiles_of_get_eq_none
    {staging : Folder ByteArray} {kind : String}
    (missing : staging.get [kind] = none) : stagedFiles staging kind = [] := by
  rw [List.eq_nil_iff_forall_not_mem]
  intro file member
  rcases mem_stagedFiles_iff.mp member with ⟨notRoot, found⟩
  have above : Above [kind] (kind :: file.1) := by
    refine ⟨List.cons_ne_nil _ _, ⟨file.1, rfl⟩, ?_⟩
    intro same
    exact notRoot (List.cons.inj same).2.symm
  rw [Folder.directory_of_above found above] at missing
  cases missing

/-- The log tree is written if there is something for it. -/
theorem ends_writeLogs
    {Content : Type} {disk : Disk} {staging : Folder ByteArray}
    {middle : State Content} (before : State Content)
    (logs : (staging.get ["logs"]).isSome = true →
      before.logs.isSafe = true)
    (same : middle.logs =
      (checkedState before (staging.get ["logs"]).isSome).logs) :
    Ends
      (if (staging.get ["logs"]).isSome then
        onLogs (restoreTree disk (stagedFiles staging "logs") false)
      else pure 0)
      middle
      (fun count after => count = (stagedFiles staging "logs").length ∧
        Fits disk (stagedFiles staging "logs") false before.logs.tree ∧
        ∃ restored, after = { middle with logs := restored } ∧
          Overlay (stagedFiles staging "logs") before.logs.tree.get
            restored.tree.get)
      (fun failure after =>
        ¬ Fits disk (stagedFiles staging "logs") false before.logs.tree ∧
          (failure.isBackupError = true ↔
            ∃ file ∈ stagedFiles staging "logs",
              conflicts before.logs.tree file.1 = true) ∧
          (failure.isBackupError = true → after = middle)) := by
  cases found : staging.get ["logs"] with
  | none =>
      have nothing := stagedFiles_of_get_eq_none found
      rw [Option.isSome_none, if_neg Bool.false_ne_true, ends_pure, nothing]
      refine ⟨rfl, ⟨?_, ?_, ?_⟩, middle.logs, rfl, ?_⟩
      · exact fun _ impossible => absurd impossible List.not_mem_nil
      · exact fun _ impossible => absurd impossible List.not_mem_nil
      · intro impossible
        cases impossible
      · rw [same, found]
        exact .nil _
  | some entry =>
      rw [found] at logs same
      rw [Option.isSome_some, if_pos rfl, ends_onLogs, same]
      refine (ends_restoreTree (compatible_stagedFiles staging "logs")
        (isSafe_tree (logs rfl))).mono ?_ ?_
      · rintro _ restored ⟨rfl, fits, overlay⟩
        exact ⟨rfl, fits, restored, rfl, overlay⟩
      · rintro failure restored
          (⟨isBackup, rfl, conflict⟩ | ⟨rfl, free, notFits, -⟩)
        · refine ⟨not_fits_of_conflict conflict,
            iff_of_true isBackup conflict, fun _ => ?_⟩
          exact congrArg (fun logs => { middle with logs }) same.symm
        · refine ⟨notFits, iff_of_false Bool.false_ne_true ?_, fun impossible =>
            absurd impossible Bool.false_ne_true⟩
          rintro ⟨file, member, conflict⟩
          exact absurd (conflict.symm.trans (free file member))
            Bool.noConfusion

/-- The database can be replaced. -/
structure Disk.Replaces (disk : Disk) : Prop where
  holds : disk.holds [] = true
  syncs : disk.syncs [] = true
  removes : disk.removes [] = true

/-- A database which cannot be replaced is left, or only its WAL. -/
theorem ends_writeDatabase
    {Content : Type} {disk : Disk} {database : DatabaseEntry Content}
    {state : State Content} :
    Ends (writeDatabase disk database) state
      (fun _ after => disk.Replaces ∧ after = { state with database })
      (fun failure after => failure = .osError ∧ ¬ disk.Replaces ∧
        after =
          if disk.holds [] then { state with database } else state) := by
  rw [writeDatabase, ends_ite]
  split
  · next holds =>
      rw [ends_bind, ends_modify, ends_raiseIf]
      split
      · next refused =>
          refine ⟨rfl, fun replaces => ?_, rfl⟩
          rw [replaces.syncs, replaces.removes] at refused
          cases refused
      · next replaces =>
          rw [Bool.not_eq_true, Bool.not_eq_false', Bool.and_eq_true]
            at replaces
          exact ⟨⟨holds, replaces.1, replaces.2⟩, rfl⟩
  · next refused =>
      exact ⟨rfl, fun replaces => refused replaces.holds, rfl⟩

/-- Both trees have been restored, and the database or its directory could not
be written. -/
structure Short {Content : Type} (environment : Environment Content)
    (staging : Folder ByteArray) (before after : State Content) : Prop where
  config : Overlay (stagedFiles staging "config")
    (configBase environment staging before) after.config.tree.get
  logs : Overlay (stagedFiles staging "logs") before.logs.tree.get
    after.logs.tree.get
  database : (environment.disk .database).holds [] = false →
    after.database = before.database

/-- The files of both trees and the database can be written. -/
structure Holds {Content : Type} (environment : Environment Content)
    (staging : Folder ByteArray) (state : State Content) : Prop where
  config : Fits (environment.disk .config) (stagedFiles staging "config")
    true state.config.tree
  logs : Fits (environment.disk .logs) (stagedFiles staging "logs") false
    state.logs.tree
  database : (environment.disk .database).Replaces

/-- The config tree, the log tree and the database, in this order. -/
theorem ends_writeTargets
    {Content : Type} {environment : Environment Content}
    {staging : Folder ByteArray} {database : ByteArray}
    {state : State Content}
    (config : state.config.isSafe = true)
    (logs : (staging.get ["logs"]).isSome = true →
      state.logs.isSafe = true)
    (intact : validateDatabase environment.sqlite database = .ok ()) :
    Ends (writeTargets environment staging database
        (staging.get ["logs"]).isSome)
      (checkedState state (staging.get ["logs"]).isSome)
      (fun counts after =>
        counts = ((stagedFiles staging "config").length,
          (stagedFiles staging "logs").length) ∧
        Holds environment staging state ∧
        Restored environment staging database state after)
      (fun failure after => ¬ Holds environment staging state ∧
        (failure.isBackupError = true →
          (Unchanged state after ∧
            ¬ Fits (environment.disk .config)
              (stagedFiles staging "config") true state.config.tree) ∨
          (Late environment staging state after ∧
            Fits (environment.disk .config)
              (stagedFiles staging "config") true state.config.tree)) ∧
        (Fits (environment.disk .config) (stagedFiles staging "config") true
            state.config.tree →
          ((∃ file ∈ stagedFiles staging "logs",
              conflicts state.logs.tree file.1 = true) →
            failure.isBackupError = true) ∧
          (Fits (environment.disk .logs) (stagedFiles staging "logs") false
              state.logs.tree → Short environment staging state after))) := by
  rw [writeTargets, ends_bind, ends_onConfig]
  show Ends _ (Location.directory state.config.tree) _ _
  refine (ends_restoreTree (compatible_stagedFiles staging "config")
    (isSafe_tree config)).mono ?_ ?_
  · rintro _ restored ⟨rfl, configFits, overlay⟩
    dsimp only
    rw [ends_ite_bind]
    refine (ends_writeLogs state logs ?_).mono ?_ ?_
    · rfl
    · rintro _ _ ⟨rfl, logsFit, restoredLogs, rfl, logsOverlay⟩
      rw [ends_bind]
      refine ends_writeDatabase.mono ?_ ?_
      · rintro _ _ ⟨replaces, rfl⟩
        rw [ends_bind, ends_raising, intact]
        exact ⟨rfl, ⟨configFits, logsFit, replaces⟩, rfl, overlay,
          logsOverlay⟩
      · rintro _ after ⟨rfl, refused, isAfter⟩
        refine ⟨fun holds => refused holds.database, fun impossible =>
          absurd impossible Bool.false_ne_true, fun _ => ⟨?_, fun _ => ?_⟩⟩
        · exact fun conflict => absurd logsFit (not_fits_of_conflict conflict)
        · subst isAfter
          split
          · next holds =>
              exact ⟨overlay, logsOverlay, fun refused =>
                absurd (holds.symm.trans refused) Bool.noConfusion⟩
          · exact ⟨overlay, logsOverlay, fun _ => rfl⟩
    · rintro failure after ⟨notFits, backup, isMiddle⟩
      refine ⟨fun holds => notFits holds.logs, fun isBackup => ?_,
        fun _ => ⟨backup.mpr, fun fits => absurd fits notFits⟩⟩
      rw [isMiddle isBackup]
      exact Or.inr ⟨⟨backup.mp isBackup, rfl, overlay,
        (unchanged_checkedState state _).logs⟩, configFits⟩
  · rintro failure restored
      (⟨isBackup, rfl, conflict⟩ | ⟨rfl, -, refused, -⟩)
    · have notFits : ¬ Fits (environment.disk .config)
          (stagedFiles staging "config") true state.config.tree :=
        not_fits_of_conflict conflict
      exact ⟨fun holds => notFits holds.config,
        fun _ => Or.inl ⟨unchanged_checkedState state _, notFits⟩,
        fun fits => absurd fits notFits⟩
    · exact ⟨fun holds => refused holds.config, fun impossible =>
        absurd impossible Bool.false_ne_true,
        fun fits => absurd fits refused⟩

/-- What is accepted is determined by the archive. -/
theorem Ready.of_readArchive
    {Content : Type} {environment : Environment Content}
    {secretKey : String} {source : ArchiveSource} {checkpoint : Checkpoint}
    {state : State Content} {staging found : Folder ByteArray}
    {database : ByteArray} {matched : Bool} {manifest : Manifest}
    (ready : Ready environment secretKey source checkpoint state staging
      database matched)
    (read : readArchive environment secretKey source =
      .ok (manifest, found)) :
    found = staging ∧ stagedDatabase environment secretKey manifest staging =
      .ok (database, matched) := by
  rcases ready.archive with ⟨other, sameRead, staged⟩
  rw [read, Except.ok.injEq, Prod.mk.injEq] at sameRead
  rcases sameRead with ⟨rfl, rfl⟩
  exact ⟨rfl, staged⟩

theorem Unchanged.refl {Content : Type} (state : State Content) :
    Unchanged state state :=
  ⟨rfl, .refl _, .refl _⟩

section Restore

variable {Content : Type} {environment : Environment Content}
  {secretKey : String} {source : ArchiveSource} {checkpoint : Checkpoint}
  {state : State Content}

/-- What a restore which raises leaves. -/
structure Rejected (environment : Environment Content)
    (secretKey : String) (source : ArchiveSource) (checkpoint : Checkpoint)
    (state : State Content) (failure : Failure) (after : State Content) :
    Prop where
  cannot : ∀ staging database matched,
    environment.crypto.validKey secretKey = true →
    Ready environment secretKey source checkpoint state staging database
      matched → ¬ Holds environment staging state
  backup : failure.isBackupError = true →
    (Unchanged state after ∧ ∀ staging database matched,
      Ready environment secretKey source checkpoint state staging database
        matched →
      ¬ Fits (environment.disk .config) (stagedFiles staging "config") true
        state.config.tree) ∨
    ∃ staging database matched,
      Ready environment secretKey source checkpoint state staging database
        matched ∧ Late environment staging state after ∧
      Fits (environment.disk .config) (stagedFiles staging "config") true
        state.config.tree
  afterConfig : ∀ staging database matched,
    environment.crypto.validKey secretKey = true →
    Ready environment secretKey source checkpoint state staging database
      matched →
    Fits (environment.disk .config) (stagedFiles staging "config") true
      state.config.tree →
    ((∃ file ∈ stagedFiles staging "logs",
        conflicts state.logs.tree file.1 = true) →
      failure.isBackupError = true) ∧
    (Fits (environment.disk .logs) (stagedFiles staging "logs") false
        state.logs.tree → Short environment staging state after)

/-- Nothing has been written where nothing can be ready. -/
theorem Rejected.of_not_ready {failure : Failure} {after : State Content}
    (unchanged : Unchanged state after)
    (notReady : ∀ staging database matched,
      ¬ Ready environment secretKey source checkpoint state staging database
        matched) :
    Rejected environment secretKey source checkpoint state failure after where
  cannot := fun staging database matched _ ready _ =>
    notReady staging database matched ready
  backup := fun _ => Or.inl ⟨unchanged, fun staging database matched ready =>
    absurd ready (notReady staging database matched)⟩
  afterConfig := fun staging database matched _ ready =>
    absurd ready (notReady staging database matched)

/-- What is written for the archive which has been read decides the rest. -/
theorem Rejected.of_read {failure : Failure} {after : State Content}
    {manifest : Manifest} {staging : Folder ByteArray} {database : ByteArray}
    {matched : Bool}
    (read : readArchive environment secretKey source =
      .ok (manifest, staging))
    (ready : Ready environment secretKey source checkpoint state staging
      database matched)
    (cannot : ¬ Holds environment staging state)
    (backup : failure.isBackupError = true →
      (Unchanged state after ∧
        ¬ Fits (environment.disk .config) (stagedFiles staging "config") true
          state.config.tree) ∨
      (Late environment staging state after ∧
        Fits (environment.disk .config) (stagedFiles staging "config") true
          state.config.tree))
    (afterConfig :
      Fits (environment.disk .config) (stagedFiles staging "config") true
        state.config.tree →
      ((∃ file ∈ stagedFiles staging "logs",
          conflicts state.logs.tree file.1 = true) →
        failure.isBackupError = true) ∧
      (Fits (environment.disk .logs) (stagedFiles staging "logs") false
          state.logs.tree → Short environment staging state after)) :
    Rejected environment secretKey source checkpoint state failure after := by
  constructor
  · rintro _ _ _ - other
    rcases other.of_readArchive read with ⟨rfl, -⟩
    exact cannot
  · intro isBackup
    rcases backup isBackup with ⟨unchanged, notFits⟩ | ⟨late, fits⟩
    · refine Or.inl ⟨unchanged, ?_⟩
      rintro _ _ _ other
      rcases other.of_readArchive read with ⟨rfl, -⟩
      exact notFits
    · exact Or.inr ⟨staging, database, matched, ready, late, fits⟩
  · rintro _ _ _ - other
    rcases other.of_readArchive read with ⟨rfl, -⟩
    exact afterConfig

/-- How a restore ends. -/
theorem ends_restoreBackup :
    Ends (restoreBackup environment secretKey source checkpoint) state
      (fun result after => ∃ staging database,
        environment.crypto.validKey secretKey = true ∧
        Ready environment secretKey source checkpoint state staging database
          result.secretKeyMatched ∧
        Holds environment staging state ∧
        Restored environment staging database state after ∧
        result.configFiles = (stagedFiles staging "config").length ∧
        result.logFiles = (stagedFiles staging "logs").length)
      (Rejected environment secretKey source checkpoint state) := by
  rw [restoreBackup]
  dsimp only
  rw [ends_ite, ends_bind, ends_throw]
  split
  · next invalid =>
      constructor
      · intro _ _ _ isValid
        rw [isValid] at invalid
        cases invalid
      · intro impossible
        cases impossible
      · intro _ _ _ isValid
        rw [isValid] at invalid
        cases invalid
  next isValid =>
  rw [Bool.not_eq_false] at isValid
  rw [ends_bind, ends_raising]
  cases read : readArchive environment secretKey source with
  | error failure =>
      refine .of_not_ready (.refl _) ?_
      rintro _ _ _ ready
      rcases ready.archive with ⟨_, isRead, -⟩
      rw [read] at isRead
      cases isRead
  | ok found =>
      rcases found with ⟨manifest, staging⟩
      dsimp only
      rw [ends_bind, ends_raising]
      cases staged : stagedDatabase environment secretKey manifest staging
        with
      | error failure =>
          refine .of_not_ready (.refl _) ?_
          rintro _ _ _ ready
          rcases ready.of_readArchive read with ⟨rfl, isStaged⟩
          rw [staged] at isStaged
          cases isStaged
      | ok both =>
          rcases both with ⟨database, matched⟩
          dsimp only
          rw [ends_bind]
          refine (ends_checkTargets state checkpoint _).mono ?_ ?_
          · rintro _ _ ⟨targets, rfl⟩
            have intact : validateDatabase environment.sqlite database =
                .ok () := by
              rcases validateDatabase_of_readArchive read with
                ⟨other, isOther, intact⟩
              rw [get_of_stagedDatabase staged] at isOther
              cases isOther
              exact intact
            have ready : Ready environment secretKey source checkpoint state
                staging database matched :=
              ⟨⟨manifest, read, staged⟩, targets⟩
            rw [ends_bind]
            refine (ends_writeTargets targets.config targets.logs
              intact).mono ?_ ?_
            · rintro _ after ⟨rfl, holds, restored⟩
              exact ⟨staging, database, isValid, ready, holds, restored, rfl,
                rfl⟩
            · rintro failure after ⟨notHolds, backup, afterConfig⟩
              exact .of_read read ready notHolds backup afterConfig
          · rintro failure after ⟨fails, unchanged⟩
            refine .of_not_ready unchanged ?_
            rintro _ _ _ ready
            rcases ready.of_readArchive read with ⟨rfl, -⟩
            exact fails ready.targets

/-- What a change before a late rejection takes. -/
structure ChangesLate (environment : Environment Content)
    (secretKey : String) (source : ArchiveSource) (checkpoint : Checkpoint)
    (state : State Content) (staging : Folder ByteArray) : Prop where
  ready : ∃ database matched, Ready environment secretKey source checkpoint
    state staging database matched
  config : Fits (environment.disk .config) (stagedFiles staging "config") true
    state.config.tree
  logs : ∃ file ∈ stagedFiles staging "logs",
    conflicts state.logs.tree file.1 = true
  changes : ¬ Overlay (stagedFiles staging "config")
    (configBase environment staging state) state.config.tree.get

/-- A restore which raises a `BackupError` leaves everything as it was, unless
a log file does not fit while the config tree, which was restored before, was
not yet that of the archive. -/
theorem rejected_unchanged_iff :
    Ends (restoreBackup environment secretKey source checkpoint) state
      (fun _ _ => True)
      (fun failure after => failure.isBackupError = true →
        (Unchanged state after ↔ ∀ staging,
          ¬ ChangesLate environment secretKey source checkpoint state
            staging)) := by
  refine ends_restoreBackup.mono (fun _ _ _ => trivial) ?_
  intro failure after rejected isBackup
  rcases rejected.backup isBackup with
    ⟨unchanged, notFits⟩ | ⟨staging, database, matched, ready, late, fits⟩
  · refine iff_of_true unchanged ?_
    rintro staging ⟨⟨database, matched, ready⟩, config, -, -⟩
    exact notFits staging database matched ready config
  · constructor
    · rintro unchanged other ⟨⟨_, _, otherReady⟩, -, -, changes⟩
      rcases ready.archive with ⟨manifest, read, -⟩
      rcases otherReady.of_readArchive read with ⟨rfl, -⟩
      apply changes
      rw [show state.config.tree.get = after.config.tree.get from
        funext fun path => (unchanged.config path).symm]
      exact late.config
    · intro notLate
      have same : Overlay (stagedFiles staging "config")
          (configBase environment staging state) state.config.tree.get := by
        by_contra changes
        exact notLate staging
          ⟨⟨database, matched, ready⟩, fits, late.conflict, changes⟩
      exact ⟨late.database, late.config.unique same, late.logs⟩

end Restore

end Sluicery.Backup
