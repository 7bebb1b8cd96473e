import Sluicery.Backup.Restore

/-!
# The trees after a restore

Files which fit into a tree are laid over it: each is at its path, with the
directories above it, and the rest stays.  An exact restore then removes the
rest, the deepest entries first, so that every directory which has nothing
left in it goes as well, unless the file system keeps it.
-/

namespace Sluicery.Backup

open Sluicery.Library Sluicery.Library.FileTree Sluicery.Library.Raising

/-! ## Files over a tree -/

/-- The tree of a directory; nothing lies below the other locations. -/
def Location.tree : Location → Folder ByteArray
  | .directory tree => tree
  | _ => .empty

/-- Files which can lie in one tree. -/
structure Compatible (files : List StagedFile) : Prop where
  distinct : (files.map Prod.fst).Nodup
  leaves : ∀ file ∈ files, ∀ other ∈ files, ¬ Above file.1 other.1
  notRoot : ∀ file ∈ files, file.1 ≠ []
  named : ∀ file ∈ files, ∀ name ∈ file.1, isName name = true

/-- The files have been laid over what was there before. -/
structure Overlay (files : List StagedFile)
    (before after : Path → Option (Entry ByteArray)) : Prop where
  file : ∀ file ∈ files, after file.1 = some (.file file.2)
  above : ∀ file ∈ files, ∀ path, Above path file.1 →
    after path = some .directory
  other : ∀ path, (∀ file ∈ files, path ≠ file.1 ∧ ¬ Above path file.1) →
    after path = before path

/-- No files, nothing changes. -/
theorem Overlay.nil (before : Path → Option (Entry ByteArray)) :
    Overlay [] before before where
  file := fun _ impossible => absurd impossible List.not_mem_nil
  above := fun _ impossible => absurd impossible List.not_mem_nil
  other := fun _ _ => rfl

/-- Some of the files, and directories for them, have been laid over it. -/
def Between (files : List StagedFile)
    (before after : Path → Option (Entry ByteArray)) : Prop :=
  ∀ path, after path = before path ∨
    (∃ file ∈ files, path = file.1 ∧ after path = some (.file file.2)) ∨
    (∃ file ∈ files, Above path file.1) ∧ after path = some .directory

theorem Between.mono {files others : List StagedFile}
    {before after : Path → Option (Entry ByteArray)}
    (between : Between files before after)
    (sub : ∀ file ∈ files, file ∈ others) : Between others before after := by
  intro path
  rcases between path with
    same | ⟨file, member, isFile⟩ | ⟨⟨file, member, above⟩, isDirectory⟩
  · exact Or.inl same
  · exact Or.inr (Or.inl ⟨file, sub file member, isFile⟩)
  · exact Or.inr (Or.inr ⟨⟨file, sub file member, above⟩, isDirectory⟩)

theorem Between.trans {files : List StagedFile}
    {before middle after : Path → Option (Entry ByteArray)}
    (first : Between files before middle)
    (second : Between files middle after) : Between files before after := by
  intro path
  rcases second path with same | found
  · rw [same]
    exact first path
  · exact Or.inr found

theorem Overlay.between {files : List StagedFile}
    {before after : Path → Option (Entry ByteArray)}
    (overlay : Overlay files before after) : Between files before after := by
  intro path
  by_cases isFile : ∃ file ∈ files, path = file.1
  · rcases isFile with ⟨file, member, rfl⟩
    exact Or.inr (Or.inl ⟨file, member, rfl, overlay.file file member⟩)
  by_cases isAbove : ∃ file ∈ files, Above path file.1
  · rcases isAbove with ⟨file, member, above⟩
    exact Or.inr (Or.inr ⟨⟨file, member, above⟩,
      overlay.above file member path above⟩)
  · exact Or.inl (overlay.other path fun file member =>
      ⟨fun same => isFile ⟨file, member, same⟩,
        fun above => isAbove ⟨file, member, above⟩⟩)

/-- The files over nothing are those of the list. -/
theorem Overlay.get_eq_file_iff {files : List StagedFile}
    {after : Path → Option (Entry ByteArray)}
    (overlay : Overlay files (fun _ => none) after) (file : StagedFile) :
    after file.1 = some (.file file.2) ↔ file ∈ files := by
  constructor
  · intro found
    rcases overlay.between file.1 with
      isNone | ⟨other, member, path, isFile⟩ | ⟨-, isDirectory⟩
    · rw [found] at isNone
      cases isNone
    · rw [found, Option.some.injEq, Entry.file.injEq] at isFile
      rw [Prod.ext path isFile]
      exact member
    · rw [found] at isDirectory
      cases isDirectory
  · exact overlay.file file

theorem Compatible.perm {files others : List StagedFile}
    (compatible : Compatible files) (perm : files.Perm others) :
    Compatible others where
  distinct := (perm.map Prod.fst).nodup_iff.mp compatible.distinct
  leaves := fun file member other member' =>
    compatible.leaves file (perm.mem_iff.mpr member) other
      (perm.mem_iff.mpr member')
  notRoot := fun file member =>
    compatible.notRoot file (perm.mem_iff.mpr member)
  named := fun file member =>
    compatible.named file (perm.mem_iff.mpr member)

theorem Compatible.sublist {files others : List StagedFile}
    (compatible : Compatible files) (sublist : others.Sublist files) :
    Compatible others where
  distinct := compatible.distinct.sublist (sublist.map Prod.fst)
  leaves := fun file member other member' =>
    compatible.leaves file (sublist.subset member) other
      (sublist.subset member')
  notRoot := fun file member =>
    compatible.notRoot file (sublist.subset member)
  named := fun file member => compatible.named file (sublist.subset member)

theorem Compatible.tail {file : StagedFile} {files : List StagedFile}
    (compatible : Compatible (file :: files)) : Compatible files :=
  compatible.sublist (List.sublist_cons_self file files)

theorem Overlay.perm {files others : List StagedFile}
    {before after : Path → Option (Entry ByteArray)}
    (overlay : Overlay files before after) (perm : files.Perm others) :
    Overlay others before after where
  file := fun file member => overlay.file file (perm.mem_iff.mpr member)
  above := fun file member =>
    overlay.above file (perm.mem_iff.mpr member)
  other := fun path outside => overlay.other path fun file member =>
    outside file (perm.mem_iff.mp member)

/-- One file after the other. -/
theorem Overlay.cons {file : StagedFile} {files : List StagedFile}
    {before middle after : Path → Option (Entry ByteArray)}
    (compatible : Compatible (file :: files))
    (first : Overlay [file] before middle)
    (rest : Overlay files middle after) :
    Overlay (file :: files) before after where
  file := by
    intro other member
    rcases List.mem_cons.mp member with rfl | member
    · rw [rest.other]
      · exact first.file other (List.mem_singleton_self other)
      · intro later isLater
        constructor
        · intro same
          have distinct := (List.nodup_cons.mp compatible.distinct).1
          exact distinct (same ▸ List.mem_map_of_mem isLater)
        · exact compatible.leaves other List.mem_cons_self later
            (List.mem_cons_of_mem _ isLater)
    · exact rest.file other member
  above := by
    intro other member path above
    rcases List.mem_cons.mp member with rfl | member
    · by_cases isAbove : ∃ later ∈ files, Above path later.1
      · rcases isAbove with ⟨later, isLater, aboveLater⟩
        exact rest.above later isLater path aboveLater
      · rw [rest.other]
        · exact first.above other (List.mem_singleton_self other) path above
        · intro later isLater
          constructor
          · rintro rfl
            exact compatible.leaves later (List.mem_cons_of_mem _ isLater)
              other List.mem_cons_self above
          · exact fun aboveLater => isAbove ⟨later, isLater, aboveLater⟩
    · exact rest.above other member path above
  other := by
    intro path outside
    rw [rest.other path fun later isLater =>
      outside later (List.mem_cons_of_mem _ isLater)]
    apply first.other
    intro other member
    rw [List.mem_singleton.mp member]
    exact outside file List.mem_cons_self

/-! ## Copying -/

/-- No file in the way, and no directory at the path. -/
theorem conflicts_eq_false_iff {tree : Folder ByteArray} {path : Path} :
    conflicts tree path = false ↔
      tree.get path ≠ some .directory ∧
        ∀ parent, Above parent path → ∀ entry,
          tree.get parent = some entry → entry = .directory := by
  rw [conflicts, Bool.or_eq_false_iff]
  apply and_congr
  · exact any_isDirectory_eq_false_iff
  · rw [List.any_eq_false]
    simp only [List.mem_inits, Bool.and_eq_true, bne_iff_ne,
      Option.any_eq_true, Bool.not_eq_true', not_and, not_exists,
      Bool.not_eq_false, Entry.isDirectory_iff]
    constructor
    · intro none parent above
      exact none parent above.2.1 above.2.2
    · intro none parent before other entry found
      apply none parent ⟨_, before, other⟩ entry found
      rintro rfl
      rw [Folder.get_nil] at found
      cases found

theorem above_iff_dropLast {path other : Path} (notRoot : other ≠ []) :
    Above path other ↔ path ≠ [] ∧ path <+: other.dropLast := by
  calc Above path other
      ↔ Above path (other.dropLast ++ [other.getLast notRoot]) := by
        rw [List.dropLast_append_getLast notRoot]
    _ ↔ path ≠ [] ∧ path <+: other.dropLast := above_concat_iff

/-- The directories of a file which fits can be made, and then the file. -/
theorem exists_writeFile
    {tree : Folder ByteArray} {file : StagedFile}
    (compatible : Compatible [file])
    (fits : conflicts tree file.1 = false) :
    ∃ made written, tree.makeDirectories file.1.dropLast = some made ∧
      made.get file.1 = tree.get file.1 ∧
      Between [file] tree.get made.get ∧
      made.writeFile file.1 file.2 = some written ∧
      Overlay [file] tree.get written.get := by
  have self := List.mem_singleton_self file
  have notRoot := compatible.notRoot file self
  have named := compatible.named file self
  rcases conflicts_eq_false_iff.mp fits with ⟨notDirectory, free⟩
  have names : ∀ name ∈ file.1.dropLast, isName name = true :=
    fun name member => named name (List.dropLast_subset _ member)
  have freeAbove : ∀ parent, parent <+: file.1.dropLast → ∀ entry,
      tree.get parent = some entry → entry = .directory := by
    intro parent before entry found
    apply free parent _ entry found
    rw [above_iff_dropLast notRoot]
    exact ⟨Folder.ne_nil_of_get found, before⟩
  rcases Folder.exists_makeDirectories names freeAbove with ⟨made, makes⟩
  have get := Folder.get_makeDirectories makes
  have found : made.get file.1 = tree.get file.1 := by
    rw [get, if_neg]
    rintro ⟨-, before⟩
    have shorter := before.length_le
    rw [List.length_dropLast] at shorter
    have positive := List.length_pos_iff.mpr notRoot
    omega
  have can : made.CanPut file.1 := by
    constructor
    · exact notRoot
    · exact named
    · rw [Folder.isDirectory_iff, get]
      by_cases isRoot : file.1.dropLast = []
      · exact Or.inl isRoot
      · exact Or.inr (if_pos ⟨isRoot, List.prefix_refl _⟩)
    · rw [found]
      exact any_isDirectory_eq_false_iff.mpr notDirectory
  refine ⟨made, made.put file.1 (.file file.2) can, makes, found, ?_,
    dif_pos can, ?_⟩
  · intro path
    rw [get]
    split
    · next above =>
        exact Or.inr (Or.inr
          ⟨⟨file, self, (above_iff_dropLast notRoot).mpr above⟩, rfl⟩)
    · exact Or.inl rfl
  · constructor
    · intro other member
      rw [List.mem_singleton.mp member, Folder.get_put, if_pos rfl]
    · intro other member path above
      rw [List.mem_singleton.mp member] at above
      rw [Folder.get_put, if_neg above.2.2, get,
        if_pos ((above_iff_dropLast notRoot).mp above)]
    · intro path outside
      rcases outside file self with ⟨other, notAbove⟩
      rw [Folder.get_put, if_neg other, get, if_neg]
      exact fun above => notAbove ((above_iff_dropLast notRoot).mpr above)

/-- The file can be made, and its directory synchronized. -/
def Disk.copies (disk : Disk) (path : Path) : Prop :=
  disk.holds path = true ∧ disk.syncs path = true

/-- A file which fits is copied if the file system does its part. -/
theorem ends_atomicCopy
    {disk : Disk} {tree : Folder ByteArray} {file : StagedFile}
    (compatible : Compatible [file])
    (fits : conflicts tree file.1 = false) :
    Ends (atomicCopy disk file) tree
      (fun _ after => disk.copies file.1 ∧ Overlay [file] tree.get after.get)
      fun failure after => failure = .osError ∧ ¬ disk.copies file.1 ∧
        Between [file] tree.get after.get := by
  rcases exists_writeFile compatible fits with
    ⟨made, written, makes, -, between, writes, overlay⟩
  rw [Ends]
  unfold atomicCopy
  simp only [bind, EStateM.bind, get, getThe, MonadStateOf.get, EStateM.get,
    makes, set, EStateM.set]
  cases isHeld : disk.holds file.1 with
  | true =>
      rw [if_pos rfl, writes]
      cases isSynced : disk.syncs file.1 with
      | true => exact ⟨⟨isHeld, isSynced⟩, overlay⟩
      | false =>
          refine ⟨rfl, fun copies => ?_, overlay.between⟩
          rw [copies.2] at isSynced
          cases isSynced
  | false =>
      rw [if_neg Bool.false_ne_true]
      refine ⟨rfl, fun copies => ?_, between⟩
      rw [copies.1] at isHeld
      cases isHeld

/-- Copied files leave room for the other ones. -/
theorem Overlay.conflicts_eq_false
    {tree after : Folder ByteArray} {file other : StagedFile}
    (compatible : Compatible [file, other])
    (overlay : Overlay [file] tree.get after.get)
    (fits : conflicts tree other.1 = false) :
    conflicts after other.1 = false := by
  rcases conflicts_eq_false_iff.mp fits with ⟨notDirectory, free⟩
  have first : file ∈ [file, other] := List.mem_cons_self
  have second : other ∈ [file, other] :=
    List.mem_cons_of_mem _ (List.mem_singleton_self other)
  rw [conflicts_eq_false_iff]
  constructor
  · intro found
    rw [overlay.other] at found
    · exact notDirectory found
    · intro same member
      rw [List.mem_singleton.mp member]
      constructor
      · intro samePath
        have distinct := (List.nodup_cons.mp compatible.distinct).1
        exact distinct (by simp [samePath])
      · exact compatible.leaves other second file first
  · intro parent above entry found
    by_cases isAbove : Above parent file.1
    · rw [overlay.above file (List.mem_singleton_self file) parent isAbove,
        Option.some.injEq] at found
      exact found.symm
    · rw [overlay.other] at found
      · exact free parent above entry found
      · intro same member
        rw [List.mem_singleton.mp member]
        refine ⟨?_, isAbove⟩
        rintro rfl
        exact compatible.leaves file first other second above

theorem Compatible.pair {file other : StagedFile} {files : List StagedFile}
    (compatible : Compatible (file :: files)) (member : other ∈ files) :
    Compatible [file, other] :=
  compatible.sublist ((List.singleton_sublist.mpr member).cons_cons file)

theorem Compatible.head {file : StagedFile} {files : List StagedFile}
    (compatible : Compatible (file :: files)) : Compatible [file] :=
  compatible.sublist (List.singleton_sublist.mpr List.mem_cons_self)

/-- Files which fit are laid over the tree, or the file system gives up. -/
theorem ends_copyFiles
    {disk : Disk} {files : List StagedFile}
    {tree : Folder ByteArray} (compatible : Compatible files)
    (fits : ∀ file ∈ files, conflicts tree file.1 = false) :
    Ends (copyFiles disk files) tree
      (fun _ after => (∀ file ∈ files, disk.copies file.1) ∧
        Overlay files tree.get after.get)
      fun failure after => failure = .osError ∧
        (¬ ∀ file ∈ files, disk.copies file.1) ∧
        Between files tree.get after.get := by
  induction files generalizing tree with
  | nil =>
      rw [copyFiles, ends_pure]
      refine ⟨fun _ member => absurd member List.not_mem_nil, ?_⟩
      constructor
      · exact fun _ member => absurd member List.not_mem_nil
      · exact fun _ member => absurd member List.not_mem_nil
      · exact fun _ _ => rfl
  | cons file rest induction =>
      rw [copyFiles, ends_bind]
      refine (ends_atomicCopy compatible.head
        (fits file List.mem_cons_self)).mono ?_ ?_
      · rintro _ middle ⟨copiesFirst, first⟩
        have begun : Between (file :: rest) tree.get middle.get :=
          first.between.mono fun other member =>
            List.mem_singleton.mp member ▸ List.mem_cons_self
        have restFits : ∀ other ∈ rest, conflicts middle other.1 = false :=
          fun other member => first.conflicts_eq_false
            (compatible.pair member)
            (fits other (List.mem_cons_of_mem _ member))
        refine (induction compatible.tail restFits).mono ?_ ?_
        · rintro _ after ⟨copiesRest, overlay⟩
          exact ⟨List.forall_mem_cons.mpr ⟨copiesFirst, copiesRest⟩,
            Overlay.cons compatible first overlay⟩
        · rintro failure after ⟨isError, copiesNot, between⟩
          refine ⟨isError, fun all =>
            copiesNot (List.forall_mem_cons.mp all).2, ?_⟩
          exact begun.trans (between.mono fun other member =>
            List.mem_cons_of_mem _ member)
      · rintro failure after ⟨isError, copiesNot, between⟩
        refine ⟨isError, fun all =>
          copiesNot (List.forall_mem_cons.mp all).1, ?_⟩
        exact between.mono fun other member =>
          List.mem_singleton.mp member ▸ List.mem_cons_self

/-! ## Removing the rest -/

/-- What the overlay of files on nothing has at a path lies there. -/
def Includes (files : List StagedFile) (tree : Folder ByteArray) : Prop :=
  (∀ file ∈ files, tree.get file.1 = some (.file file.2)) ∧
    ∀ file ∈ files, ∀ path, Above path file.1 →
      tree.get path = some .directory

/-- The path is that of a file, or above one. -/
def Kept (files : List StagedFile) (path : Path) : Prop :=
  ∃ file ∈ files, path = file.1 ∨ Above path file.1

instance (files : List StagedFile) (path : Path) :
    Decidable (Kept files path) :=
  inferInstanceAs (Decidable (∃ file ∈ files, _))

theorem Kept.of_above {files : List StagedFile} {path other : Path}
    (kept : Kept files other) (above : Above path other) :
    Kept files path := by
  rcases kept with ⟨file, member, rfl | aboveFile⟩
  · exact ⟨file, member, Or.inr above⟩
  · exact ⟨file, member, Or.inr (above.trans aboveFile)⟩

/-- Laid files change nothing beside them. -/
theorem Overlay.beside
    {files : List StagedFile} {before after : Path → Option (Entry ByteArray)}
    (overlay : Overlay files before after) {path : Path}
    (notKept : ¬ Kept files path) : after path = before path :=
  overlay.other path fun file member =>
    ⟨fun same => notKept ⟨file, member, Or.inl same⟩,
      fun above => notKept ⟨file, member, Or.inr above⟩⟩

/-- A directory which the file system keeps lies at the path or below it. -/
def Stays (disk : Disk) (files : List StagedFile) (tree : Folder ByteArray)
    (path : Path) : Prop :=
  ∃ below ∈ tree.paths, (path = below ∨ Above path below) ∧
    (tree.get below).any Entry.isDirectory = true ∧ ¬ Kept files below ∧
    disk.removes below = false

instance (disk : Disk) (files : List StagedFile) (tree : Folder ByteArray)
    (path : Path) : Decidable (Stays disk files tree path) :=
  inferInstanceAs (Decidable (∃ below ∈ tree.paths, _))

/-- An entry which is no directory is kept or can be removed. -/
def CanGo (disk : Disk) (files : List StagedFile) (tree : Folder ByteArray)
    (path : Path) : Prop :=
  ∀ entry, tree.get path = some entry → entry.isDirectory = false →
    Kept files path ∨ disk.removes path = true

/-- The rest can be removed. -/
structure Clears (disk : Disk) (files : List StagedFile)
    (tree : Folder ByteArray) : Prop where
  canGo : ∀ path, CanGo disk files tree path
  syncs : disk.syncs [] = true

/-- Some of what lies beside the files is not there any more. -/
def Thinned (files : List StagedFile)
    (before after : Path → Option (Entry ByteArray)) : Prop :=
  ∀ path, after path = before path ∨ (¬ Kept files path ∧ after path = none)

section Removing

variable {disk : Disk} {files : List StagedFile}
  {tree other : Folder ByteArray} {path : Path}

theorem stays_iff :
    Stays disk files tree path ↔ ∃ below,
      (path = below ∨ Above path below) ∧
        tree.get below = some .directory ∧ ¬ Kept files below ∧
        disk.removes below = false := by
  simp only [Stays, any_isDirectory_iff]
  constructor
  · rintro ⟨below, -, stays⟩
    exact ⟨below, stays⟩
  · rintro ⟨below, isBelow, found, stays⟩
    exact ⟨below, Folder.mem_paths_iff.mpr ⟨_, found⟩, isBelow, found, stays⟩

/-- What stays is a directory. -/
theorem Stays.get (stays : Stays disk files tree path) :
    tree.get path = some .directory := by
  rcases stays_iff.mp stays with ⟨below, rfl | above, found, -⟩
  · exact found
  · exact Folder.directory_of_above found above

/-- It is decided by what lies beside the files. -/
theorem Stays.of_beside
    (stays : Stays disk files tree path)
    (beside : ∀ below, ¬ Kept files below →
      tree.get below = some .directory → disk.removes below = false →
      other.get below = some .directory) :
    Stays disk files other path := by
  rcases stays_iff.mp stays with
    ⟨below, isBelow, found, notKept, isRefused⟩
  exact stays_iff.mpr
    ⟨below, isBelow, beside below notKept found isRefused, notKept, isRefused⟩

theorem CanGo.of_beside
    (canGo : CanGo disk files tree path)
    (beside : ¬ Kept files path → ∀ entry, other.get path = some entry →
      tree.get path = some entry) : CanGo disk files other path := by
  intro entry found notDirectory
  by_cases kept : Kept files path
  · exact Or.inl kept
  · exact canGo entry (beside kept entry found) notDirectory

/-- An entry is removed if the file system lets it. -/
theorem ends_unlinkEntry
    {entry : Entry ByteArray} (found : tree.get path = some entry)
    (notDirectory : entry.isDirectory = false) :
    Ends (unlinkEntry disk path) tree
      (fun _ after => disk.removes path = true ∧ ∀ other,
        after.get other = if other = path then none else tree.get other)
      (fun failure after => failure = .osError ∧
        disk.removes path = false ∧ after = tree) := by
  rcases Folder.get_unlink found notDirectory with ⟨after, unlinks, isAfter⟩
  rw [unlinkEntry, ends_bind, ends_get, unlinks]
  dsimp only
  rw [ends_ite]
  split
  · next removes => exact ⟨removes, isAfter⟩
  · next refused => exact ⟨rfl, Bool.not_eq_true _ ▸ refused, rfl⟩

/-- The tree after a round: an entry which is neither kept nor stays is gone. -/
def AfterRound (disk : Disk) (files : List StagedFile)
    (tree : Folder ByteArray) (path : Path) (after : Folder ByteArray) :
    Prop :=
  ∀ other, after.get other =
    if other = path ∧ ¬ Kept files path ∧ ¬ Stays disk files tree path then
      none
    else tree.get other

/-- Nothing is removed where nothing is, or where the entry is left. -/
theorem afterRound_self
    (isLeft : tree.get path = none ∨ Kept files path ∨
      Stays disk files tree path) :
    AfterRound disk files tree path tree := by
  intro other
  split
  · next removed =>
      rcases isLeft with missing | kept | stays
      · rw [removed.1, missing]
      · exact absurd kept removed.2.1
      · exact absurd stays removed.2.2
  · rfl

theorem afterRound_removed
    {after : Folder ByteArray} (notKept : ¬ Kept files path)
    (goes : ¬ Stays disk files tree path)
    (isAfter : ∀ other, after.get other =
      if other = path then none else tree.get other) :
    AfterRound disk files tree path after := by
  intro other
  rw [isAfter]
  simp only [notKept, goes, not_false_eq_true, and_true]

/-- The files and the directories above them are all that is kept. -/
theorem Includes.get_of_kept
    (includes : Includes files tree) (kept : Kept files path) :
    tree.get path = some .directory ∨
      ∃ file ∈ files, file.1 = path ∧ tree.get path = some (.file file.2) := by
  rcases kept with ⟨file, member, rfl | above⟩
  · exact Or.inr ⟨file, member, rfl, includes.1 file member⟩
  · exact Or.inl (includes.2 file member path above)

/-- A directory which can be removed goes if nothing is left in it. -/
theorem afterRound_rmdir
    (includes : Includes files tree)
    (deeper : ∀ below entry, tree.get below = some entry →
      Above path below → Kept files below ∨ Stays disk files tree below)
    (found : tree.get path = some .directory)
    (removes : disk.removes path = true) :
    AfterRound disk files tree path ((tree.rmdir path).getD tree) := by
  by_cases hasEntry : ∃ below entry,
      tree.get below = some entry ∧ Above path below
  · rcases hasEntry with ⟨below, entry, foundBelow, above⟩
    rw [Folder.rmdir_of_above foundBelow above]
    apply afterRound_self
    rcases deeper below entry foundBelow above with kept | stays
    · exact Or.inr (Or.inl (kept.of_above above))
    · rcases stays_iff.mp stays with ⟨deep, isBelow, refused⟩
      refine Or.inr (Or.inr (stays_iff.mpr ⟨deep, Or.inr ?_, refused⟩))
      rcases isBelow with rfl | further
      · exact above
      · exact above.trans further
  · push Not at hasEntry
    rcases Folder.get_rmdir found hasEntry with ⟨after, removed, isAfter⟩
    rw [removed]
    refine afterRound_removed ?_ ?_ isAfter
    · rintro ⟨file, member, rfl | above⟩
      · rw [includes.1 file member] at found
        cases found
      · exact hasEntry _ _ (includes.1 file member) above
    · intro stays
      rcases stays_iff.mp stays with
        ⟨below, rfl | above, foundBelow, -, refused⟩
      · rw [removes] at refused
        cases refused
      · exact hasEntry below _ foundBelow above

/-- A round for an entry which is neither a directory nor kept. -/
theorem ends_unlinkEntry_round
    {entry : Entry ByteArray} (found : tree.get path = some entry)
    (notDirectory : entry.isDirectory = false)
    (notKept : ¬ Kept files path) :
    Ends (unlinkEntry disk path) tree
      (fun _ after => CanGo disk files tree path ∧
        AfterRound disk files tree path after)
      (fun failure after => failure = .osError ∧
        ¬ CanGo disk files tree path ∧ after = tree) := by
  refine (ends_unlinkEntry found notDirectory).mono ?_ ?_
  · rintro _ after ⟨removes, isAfter⟩
    refine ⟨fun _ _ _ => Or.inr removes,
      afterRound_removed notKept ?_ isAfter⟩
    intro stays
    rw [stays.get, Option.some.injEq] at found
    rw [← found] at notDirectory
    cases notDirectory
  · rintro failure after ⟨rfl, refused, rfl⟩
    refine ⟨rfl, fun canGo => ?_, rfl⟩
    rcases canGo entry found notDirectory with kept | removes
    · exact notKept kept
    · rw [refused] at removes
      cases removes

/-- A directory can always go, as far as an exception is concerned. -/
theorem canGo_directory (found : tree.get path = some .directory) :
    CanGo disk files tree path := by
  intro entry isEntry notDirectory
  rw [found, Option.some.injEq] at isEntry
  rw [← isEntry] at notDirectory
  cases notDirectory

/-- One round of the loop. -/
theorem ends_removeUnstaged
    (includes : Includes files tree)
    (deeper : ∀ below entry, tree.get below = some entry →
      Above path below → Kept files below ∨ Stays disk files tree below) :
    Ends (removeUnstaged disk files path) tree
      (fun _ after => CanGo disk files tree path ∧
        AfterRound disk files tree path after)
      (fun failure after => failure = .osError ∧
        ¬ CanGo disk files tree path ∧ after = tree) := by
  rw [removeUnstaged, ends_bind, ends_get]
  split
  · next leadsToDirectory found =>
      apply ends_unlinkEntry_round found rfl
      intro kept
      rcases includes.get_of_kept kept with isDirectory | ⟨_, -, -, isFile⟩
      · rw [found] at isDirectory
        cases isDirectory
      · rw [found] at isFile
        cases isFile
  · next content found =>
      rw [ends_ite]
      split
      · next isStaged =>
          rcases List.any_eq_true.mp isStaged with ⟨file, member, same⟩
          have kept : Kept files path :=
            ⟨file, member, Or.inl (beq_iff_eq.mp same).symm⟩
          exact ⟨fun _ _ _ => Or.inl kept,
            afterRound_self (Or.inr (Or.inl kept))⟩
      · next notStaged =>
          apply ends_unlinkEntry_round found rfl
          intro kept
          rcases includes.get_of_kept kept with
            isDirectory | ⟨file, member, same, -⟩
          · rw [found] at isDirectory
            cases isDirectory
          · exact notStaged (List.any_eq_true.mpr
              ⟨file, member, beq_iff_eq.mpr same⟩)
  · next found =>
      rw [ends_ite]
      split
      · next removes =>
          exact ⟨canGo_directory found,
            afterRound_rmdir includes deeper found removes⟩
      · next refused =>
          rw [Bool.not_eq_true] at refused
          refine ⟨canGo_directory found, afterRound_self (Or.inr ?_)⟩
          by_cases kept : Kept files path
          · exact Or.inl kept
          · exact Or.inr (stays_iff.mpr
              ⟨path, Or.inl rfl, found, kept, refused⟩)
  · next missing =>
      refine ⟨?_, afterRound_self (Or.inl missing)⟩
      intro entry found
      rw [missing] at found
      cases found

section Round

variable {after : Folder ByteArray}

/-- Nothing is added. -/
theorem AfterRound.get_of_get
    (round : AfterRound disk files tree path after) {other : Path}
    {entry : Entry ByteArray} (found : after.get other = some entry) :
    tree.get other = some entry := by
  rw [round] at found
  split at found
  · cases found
  · exact found

/-- What is left stays as it is. -/
theorem AfterRound.get_of_left
    (round : AfterRound disk files tree path after) {other : Path}
    (isLeft : Kept files other ∨ Stays disk files tree other) :
    after.get other = tree.get other := by
  rw [round, if_neg]
  rintro ⟨rfl, notKept, goes⟩
  exact isLeft.elim notKept goes

theorem AfterRound.stays_iff
    (round : AfterRound disk files tree path after) {other : Path} :
    Stays disk files after other ↔ Stays disk files tree other := by
  constructor
  · intro stays
    exact stays.of_beside fun below _ found _ => round.get_of_get found
  · intro stays
    refine stays.of_beside fun below notKept found refused => ?_
    rw [round.get_of_left (Or.inr (Backup.stays_iff.mpr
      ⟨below, Or.inl rfl, found, notKept, refused⟩)), found]

theorem AfterRound.includes
    (round : AfterRound disk files tree path after)
    (includes : Includes files tree) : Includes files after := by
  constructor
  · intro file member
    rw [round.get_of_left (Or.inl ⟨file, member, Or.inl rfl⟩)]
    exact includes.1 file member
  · intro file member other above
    rw [round.get_of_left (Or.inl ⟨file, member, Or.inr above⟩)]
    exact includes.2 file member other above

theorem AfterRound.thinned
    (round : AfterRound disk files tree path after) :
    Thinned files tree.get after.get := by
  intro other
  rw [round]
  split
  · next removed =>
      exact Or.inr ⟨removed.1 ▸ removed.2.1, rfl⟩
  · exact Or.inl rfl

/-- What is left after the round is of the others, is kept or stays. -/
theorem AfterRound.rest
    {others : List Path} (round : AfterRound disk files tree path after)
    (rest : ∀ other entry, tree.get other = some entry →
      other ∈ path :: others ∨ Kept files other ∨ Stays disk files tree other)
    (other : Path) (entry : Entry ByteArray)
    (found : after.get other = some entry) :
    other ∈ others ∨ Kept files other ∨ Stays disk files after other := by
  rw [round.stays_iff]
  rcases rest other entry (round.get_of_get found) with member | isLeft
  · rcases List.mem_cons.mp member with rfl | member
    · rw [round] at found
      by_contra none
      push Not at none
      rw [if_pos ⟨rfl, none.2⟩] at found
      cases found
    · exact Or.inl member
  · exact Or.inr isLeft

end Round

/-- Below the longest path lies only what is kept or stays. -/
theorem left_of_above_head
    {others : List Path}
    (sorted : ∀ other ∈ others, other.length ≤ path.length)
    (rest : ∀ other entry, tree.get other = some entry →
      other ∈ path :: others ∨ Kept files other ∨ Stays disk files tree other)
    (below : Path) (entry : Entry ByteArray)
    (found : tree.get below = some entry) (above : Above path below) :
    Kept files below ∨ Stays disk files tree below := by
  rcases rest below entry found with member | isLeft
  · rcases List.mem_cons.mp member with rfl | member
    · exact absurd rfl above.2.2
    · exact absurd above.length_lt (not_lt_of_ge (sorted below member))
  · exact isLeft

theorem Thinned.trans
    {before middle after : Path → Option (Entry ByteArray)}
    (first : Thinned files before middle)
    (second : Thinned files middle after) : Thinned files before after := by
  intro path
  rcases second path with same | gone
  · rw [same]
    exact first path
  · exact Or.inr gone

/-- The rounds leave what is kept and the directories which stay, or an entry
cannot go. -/
theorem ends_removeFiles
    {paths : List Path} (includes : Includes files tree)
    (sorted : paths.Pairwise fun left right => right.length ≤ left.length)
    (rest : ∀ path entry, tree.get path = some entry →
      path ∈ paths ∨ Kept files path ∨ Stays disk files tree path) :
    Ends (removeFiles disk files paths) tree
      (fun _ after => (∀ path ∈ paths, CanGo disk files tree path) ∧
        ∀ path, after.get path =
          if Kept files path ∨ Stays disk files tree path then tree.get path
          else none)
      (fun failure after => failure = .osError ∧
        (∃ path ∈ paths, ¬ CanGo disk files tree path) ∧
        Thinned files tree.get after.get) := by
  induction paths generalizing tree with
  | nil =>
      rw [removeFiles, ends_pure]
      refine ⟨fun _ impossible => absurd impossible List.not_mem_nil, ?_⟩
      intro path
      split
      · rfl
      · next notLeft =>
          cases found : tree.get path with
          | none => rfl
          | some entry =>
              rcases rest path entry found with member | isLeft
              · exact absurd member List.not_mem_nil
              · exact absurd isLeft notLeft
  | cons first others induction =>
      rw [List.pairwise_cons] at sorted
      rw [removeFiles, ends_bind]
      refine (ends_removeUnstaged includes
        (left_of_above_head sorted.1 rest)).mono ?_ ?_
      · rintro _ middle ⟨firstGoes, round⟩
        have canGo : ∀ path, CanGo disk files tree path →
            CanGo disk files middle path := fun path goes =>
          goes.of_beside fun _ _ found => round.get_of_get found
        refine (induction (round.includes includes) sorted.2
          (round.rest rest)).mono ?_ ?_
        · rintro _ after ⟨othersGo, isAfter⟩
          constructor
          · refine List.forall_mem_cons.mpr ⟨firstGoes, ?_⟩
            intro path member
            by_cases same : path = first
            · exact same ▸ firstGoes
            · refine (othersGo path member).of_beside fun _ entry found => ?_
              rw [round, if_neg fun removed => same removed.1]
              exact found
          · intro path
            rw [isAfter]
            simp only [round.stays_iff]
            split
            · next isLeft => exact round.get_of_left isLeft
            · rfl
        · rintro failure after ⟨isError, ⟨path, member, stuck⟩, thinned⟩
          exact ⟨isError, ⟨path, List.mem_cons_of_mem _ member,
            fun goes => stuck (canGo path goes)⟩,
            round.thinned.trans thinned⟩
      · rintro failure after ⟨isError, stuck, rfl⟩
        exact ⟨isError, ⟨first, List.mem_cons_self, stuck⟩,
          fun _ => Or.inl rfl⟩

/-- The directories which the file system keeps. -/
def leftOver (disk : Disk) (files : List StagedFile)
    (tree : Folder ByteArray) (path : Path) : Option (Entry ByteArray) :=
  if Stays disk files tree path then some .directory else none

/-- Where everything can be removed nothing is left. -/
theorem leftOver_of_removes (removes : ∀ path, disk.removes path = true) :
    leftOver disk files tree = fun _ => none := by
  funext path
  rw [leftOver, if_neg]
  intro stays
  rcases stays_iff.mp stays with ⟨below, -, -, -, refused⟩
  rw [removes] at refused
  cases refused

/-- The files are laid over what the file system keeps. -/
theorem overlay_leftOver
    {after : Folder ByteArray} (includes : Includes files tree)
    (isAfter : ∀ path, after.get path =
      if Kept files path ∨ Stays disk files tree path then tree.get path
      else none) :
    Overlay files (leftOver disk files tree) after.get := by
  constructor
  · intro file member
    rw [isAfter, if_pos (Or.inl ⟨file, member, Or.inl rfl⟩)]
    exact includes.1 file member
  · intro file member path above
    rw [isAfter, if_pos (Or.inl ⟨file, member, Or.inr above⟩)]
    exact includes.2 file member path above
  · intro path outside
    have notKept : ¬ Kept files path := by
      rintro ⟨file, member, same | above⟩
      · exact (outside file member).1 same
      · exact (outside file member).2 above
    rw [isAfter, leftOver]
    simp only [notKept, false_or]
    split
    · next stays => exact stays.get
    · rfl

theorem thinned_of_left
    {after : Folder ByteArray}
    (isAfter : ∀ path, after.get path =
      if Kept files path ∨ Stays disk files tree path then tree.get path
      else none) :
    Thinned files tree.get after.get := by
  intro path
  rw [isAfter]
  split
  · exact Or.inl rfl
  · next gone => exact Or.inr ⟨fun kept => gone (Or.inl kept), rfl⟩

/-- After the removal there are the files and the directories above them, and
the directories which the file system keeps. -/
theorem ends_removeRest (includes : Includes files tree) :
    Ends (removeRest disk files) tree
      (fun _ after => Clears disk files tree ∧
        Overlay files (leftOver disk files tree) after.get)
      (fun failure after => failure = .osError ∧
        ¬ Clears disk files tree ∧ Thinned files tree.get after.get) := by
  have sorted : (deepestFirst tree).Pairwise
      fun left right => right.length ≤ left.length :=
    List.pairwise_insertionSort _ _
  have all : ∀ path entry, tree.get path = some entry →
      path ∈ deepestFirst tree := by
    intro path entry found
    exact (List.perm_insertionSort _ _).mem_iff.mpr
      (Folder.mem_paths_iff.mpr ⟨entry, found⟩)
  rw [removeRest, ends_bind, ends_get, ends_bind]
  refine (ends_removeFiles includes sorted
    fun path entry found => Or.inl (all path entry found)).mono ?_ ?_
  · rintro _ after ⟨goes, isAfter⟩
    have canGo : ∀ path, CanGo disk files tree path :=
      fun path entry found =>
        goes path (all path entry found) entry found
    rw [ends_raiseIf]
    cases syncs : disk.syncs [] with
    | true => exact ⟨⟨canGo, syncs⟩, overlay_leftOver includes isAfter⟩
    | false =>
        refine ⟨rfl, fun clears => ?_, thinned_of_left isAfter⟩
        rw [clears.syncs] at syncs
        cases syncs
  · rintro failure after ⟨isError, ⟨path, -, stuck⟩, thinned⟩
    exact ⟨isError, fun clears => stuck (clears.canGo path), thinned⟩

theorem Clears.of_beside
    (clears : Clears disk files tree)
    (beside : ∀ path, ¬ Kept files path → other.get path = tree.get path) :
    Clears disk files other where
  canGo path := (clears.canGo path).of_beside fun notKept _ found =>
    beside path notKept ▸ found
  syncs := clears.syncs

/-- What can go is decided by what lies beside the files. -/
theorem clears_iff_of_beside
    (beside : ∀ path, ¬ Kept files path → other.get path = tree.get path) :
    Clears disk files other ↔ Clears disk files tree := by
  constructor
  · intro clears
    exact clears.of_beside fun path notKept => (beside path notKept).symm
  · intro clears
    exact clears.of_beside beside

theorem leftOver_eq_of_beside
    (beside : ∀ path, ¬ Kept files path → other.get path = tree.get path) :
    leftOver disk files other = leftOver disk files tree := by
  have same : ∀ path, Stays disk files other path ↔
      Stays disk files tree path := by
    intro path
    constructor
    · intro stays
      exact stays.of_beside fun below notKept found _ =>
        (beside below notKept).symm.trans found
    · intro stays
      exact stays.of_beside fun below notKept found _ =>
        (beside below notKept).trans found
  funext path
  rw [leftOver, leftOver]
  simp only [same]

end Removing

/-! ## One tree -/

/-- What lies in a tree before the files are laid over it; of what was there
before, an exact restore leaves directories only. -/
def baseOf (disk : Disk) (files : List StagedFile) (exact : Bool)
    (tree : Folder ByteArray) : Path → Option (Entry ByteArray) :=
  if exact then leftOver disk files tree else tree.get

/-- The files of a tree fit, and the file system does its part. -/
structure Fits (disk : Disk) (files : List StagedFile) (exact : Bool)
    (tree : Folder ByteArray) : Prop where
  free : ∀ file ∈ files, conflicts tree file.1 = false
  copies : ∀ file ∈ files, disk.copies file.1
  clears : exact = true → Clears disk files tree

/-- Some of the files have been laid over a tree, and then some of the rest
may have been removed. -/
def Partly (files : List StagedFile) (exact : Bool)
    (before after : Path → Option (Entry ByteArray)) : Prop :=
  ∃ copied, Between files before copied ∧
    if exact then Thinned files copied after else after = copied

theorem Between.partly {files : List StagedFile} {exact : Bool}
    {before after : Path → Option (Entry ByteArray)}
    (between : Between files before after) :
    Partly files exact before after := by
  refine ⟨after, between, ?_⟩
  split
  · exact fun _ => Or.inl rfl
  · rfl

/-- A restore into a directory, up to what the file system lets be done. -/
theorem ends_restoreFiles
    {disk : Disk} {files : List StagedFile} {exact : Bool}
    {tree : Folder ByteArray} (compatible : Compatible files) :
    Ends (restoreFiles disk files exact) tree
      (fun count after => count = files.length ∧
        Fits disk files exact tree ∧
        Overlay files (baseOf disk files exact tree) after.get)
      (fun failure after =>
        (failure.isBackupError = true ∧ after = tree ∧
          ∃ file ∈ files, conflicts tree file.1 = true) ∨
        (failure = .osError ∧
          (∀ file ∈ files, conflicts tree file.1 = false) ∧
          ¬ Fits disk files exact tree ∧
          Partly files exact tree.get after.get)) := by
  rw [restoreFiles, ends_bind, ends_get]
  by_cases hasConflict : files.any (fun file => conflicts tree file.1) = true
  · rw [if_pos hasConflict, ends_bind, ends_throw]
    rcases List.any_eq_true.mp hasConflict with ⟨file, member, isConflict⟩
    exact Or.inl ⟨rfl, rfl, file, member, isConflict⟩
  rw [if_neg hasConflict, ends_bind]
  have fits : ∀ file ∈ files, conflicts tree file.1 = false := by
    intro file member
    rw [← Bool.not_eq_true]
    exact fun isConflict => hasConflict
      (List.any_eq_true.mpr ⟨file, member, isConflict⟩)
  have perm := List.perm_insertionSort (fun left right : StagedFile =>
    String.intercalate "/" left.1 ≤ String.intercalate "/" right.1) files
  refine (ends_copyFiles (compatible.perm perm.symm)
    fun file member => fits file (perm.mem_iff.mp member)).mono ?_ ?_
  · rintro _ copied ⟨areCopied, overlay⟩
    have copiesAll : ∀ file ∈ files, disk.copies file.1 :=
      fun file member => areCopied file (perm.mem_iff.mpr member)
    have laid := overlay.perm perm
    cases exact with
    | false =>
        have notExact : false = true → Clears disk files tree := by
          intro impossible
          cases impossible
        exact ⟨rfl, ⟨fits, copiesAll, notExact⟩, laid⟩
    | true =>
        have beside : ∀ path, ¬ Kept files path →
            copied.get path = tree.get path := fun _ => laid.beside
        rw [if_pos rfl, ends_bind]
        refine (ends_removeRest ⟨laid.file, laid.above⟩).mono ?_ ?_
        · rintro _ after ⟨clears, left⟩
          rw [leftOver_eq_of_beside beside] at left
          rw [clears_iff_of_beside beside] at clears
          exact ⟨rfl, ⟨fits, copiesAll, fun _ => clears⟩, left⟩
        · rintro failure after ⟨isError, stuck, thinned⟩
          rw [clears_iff_of_beside beside] at stuck
          exact Or.inr ⟨isError, fits, fun all => stuck (all.clears rfl),
            copied.get, laid.between, thinned⟩
  · rintro failure after ⟨isError, notCopied, between⟩
    refine Or.inr ⟨isError, fits, fun all => notCopied fun file member =>
      all.copies file (perm.mem_iff.mp member), ?_⟩
    exact (between.mono fun file member => perm.mem_iff.mp member).partly

/-- The staged files of a kind can lie in one tree. -/
theorem mem_stagedFiles_iff
    {staging : Folder ByteArray} {kind : String} {file : StagedFile} :
    file ∈ stagedFiles staging kind ↔
      file.1 ≠ [] ∧ staging.get (kind :: file.1) = some (.file file.2) := by
  rw [stagedFiles, List.mem_filterMap]
  constructor
  · rintro ⟨⟨path, entry⟩, member, isFile⟩
    have found : staging.get path = some entry :=
      AList.mem_lookup_iff.mpr member
    dsimp only at isFile
    split at isFile
    · next first name rest content =>
        split at isFile
        · next same =>
            cases isFile
            subst same
            exact ⟨List.cons_ne_nil _ _, found⟩
        · cases isFile
    · cases isFile
  · rintro ⟨notRoot, found⟩
    rcases file with ⟨path, content⟩
    cases path with
    | nil => exact absurd rfl notRoot
    | cons name rest =>
        exact ⟨⟨kind :: name :: rest, .file content⟩,
          AList.mem_lookup_iff.mp found, if_pos rfl⟩

/-- The paths are those of entries without their first name. -/
theorem stagedPaths_sublist (staging : Folder ByteArray) (kind : String) :
    ((stagedFiles staging kind).map fun file => kind :: file.1).Sublist
      staging.paths := by
  rw [stagedFiles, Folder.paths, AList.keys, List.keys]
  induction staging.entries.entries with
  | nil => exact List.Sublist.slnil
  | cons entry rest induction =>
      rw [List.map_cons, List.filterMap_cons]
      split
      · exact induction.cons _
      · next file isFile =>
          rw [List.map_cons]
          split at isFile
          · next first name more content isPath isEntry =>
              split at isFile
              · next same =>
                  cases isFile
                  rw [isPath, same]
                  exact induction.cons_cons _
              · cases isFile
          · cases isFile

theorem compatible_stagedFiles (staging : Folder ByteArray) (kind : String) :
    Compatible (stagedFiles staging kind) := by
  constructor
  · have distinct :=
      staging.nodup_paths.sublist (stagedPaths_sublist staging kind)
    have both : (stagedFiles staging kind).map (fun file => kind :: file.1) =
        ((stagedFiles staging kind).map Prod.fst).map (kind :: ·) := by
      rw [List.map_map]
      rfl
    rw [both] at distinct
    exact distinct.of_map _
  · intro file member other member' above
    have found := (mem_stagedFiles_iff.mp member).2
    have below := (mem_stagedFiles_iff.mp member').2
    rw [Folder.directory_of_above below] at found
    · cases found
    · exact ⟨List.cons_ne_nil _ _, (List.prefix_cons_inj kind).mpr above.2.1,
        fun same => above.2.2 (List.cons.inj same).2⟩
  · exact fun file member => (mem_stagedFiles_iff.mp member).1
  · intro file member name isName
    have found := (mem_stagedFiles_iff.mp member).2
    exact (staging.named _ (Folder.mem_of_get found)).2 name
      (List.mem_cons_of_mem _ isName)

end Sluicery.Backup
