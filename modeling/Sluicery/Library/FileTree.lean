import Mathlib.Data.List.AList
import Mathlib.Data.List.Infix

/-!
# Trees of files

The entries below a root by their paths.  A tree carries its own shape: every
entry has a name which a directory can hold, and lies in a directory.  An
operation which would break this fails, as the call of the system does.
-/

namespace Sluicery.Library.FileTree

universe u

variable {Content : Type u}

/-- A path below the root, by its names. -/
abbrev Path := List String

/-! ## Directories above a path -/

/-- The path is a directory above the other one, and not the root. -/
def Above (path other : Path) : Prop :=
  path ≠ [] ∧ path <+: other ∧ path ≠ other

instance (path other : Path) : Decidable (Above path other) :=
  inferInstanceAs (Decidable (_ ∧ _ ∧ _))

theorem Above.length_lt {path other : Path} (above : Above path other) :
    path.length < other.length := by
  apply lt_of_le_of_ne above.2.1.length_le
  intro same
  exact above.2.2 (above.2.1.eq_of_length same)

theorem Above.trans {path middle other : Path} (first : Above path middle)
    (second : Above middle other) : Above path other := by
  refine ⟨first.1, first.2.1.trans second.2.1, ?_⟩
  rintro rfl
  exact absurd (first.length_lt.trans second.length_lt) (lt_irrefl _)

/-- What is above a path is its directory or above its directory. -/
theorem above_concat_iff {path parent : Path} {name : String} :
    Above path (parent ++ [name]) ↔ path ≠ [] ∧ path <+: parent := by
  rw [Above, List.prefix_concat_iff]
  constructor
  · rintro ⟨notNil, rfl | before, other⟩
    · exact absurd rfl other
    · exact ⟨notNil, before⟩
  · rintro ⟨notNil, before⟩
    refine ⟨notNil, Or.inr before, ?_⟩
    rintro rfl
    have shorter := before.length_le
    rw [List.length_append] at shorter
    exact absurd shorter (by simp)

/-! ## Entries -/

/-- What lies at a path. -/
inductive Entry (Content : Type u) where
  | file (content : Content)
  | directory
  /-- A link, which may lead to a directory, or a special file. -/
  | special (leadsToDirectory : Bool)
deriving DecidableEq, Repr

def Entry.isDirectory : Entry Content → Bool
  | .directory => true
  | _ => false

def Entry.isFile : Entry Content → Bool
  | .file _ => true
  | _ => false

theorem Entry.isDirectory_iff {entry : Entry Content} :
    entry.isDirectory = true ↔ entry = .directory := by
  cases entry <;> simp [Entry.isDirectory]

theorem any_isDirectory_iff {found : Option (Entry Content)} :
    found.any Entry.isDirectory = true ↔ found = some .directory := by
  cases found with
  | none => simp
  | some entry => simp [Entry.isDirectory_iff]

theorem any_isDirectory_eq_false_iff {found : Option (Entry Content)} :
    found.any Entry.isDirectory = false ↔ found ≠ some .directory := by
  rw [← Bool.not_eq_true, any_isDirectory_iff]

/-- A name which a directory can hold. -/
def isName (name : String) : Bool :=
  name != "" && name != "." && name != ".." &&
    name.toList.all fun char => char != '/' && char != '\x00'

abbrev Entries (Content : Type u) := AList fun _ : Path => Entry Content

/-- The path is the root or a directory. -/
def isDirectoryIn (entries : Entries Content) (path : Path) : Bool :=
  path.isEmpty || (entries.lookup path).any Entry.isDirectory

structure Folder (Content : Type u) where
  entries : Entries Content
  named : ∀ path ∈ entries, path ≠ [] ∧ ∀ name ∈ path, isName name = true
  rooted : ∀ path ∈ entries, isDirectoryIn entries path.dropLast = true

namespace Folder

/-- Nothing lies below the root. -/
def empty : Folder Content where
  entries := ∅
  named := fun _ member => absurd member (AList.notMem_empty _)
  rooted := fun _ member => absurd member (AList.notMem_empty _)

def get (tree : Folder Content) (path : Path) : Option (Entry Content) :=
  tree.entries.lookup path

def isDirectory (tree : Folder Content) (path : Path) : Bool :=
  isDirectoryIn tree.entries path

/-- All paths. -/
def paths (tree : Folder Content) : List Path := tree.entries.keys

@[simp]
theorem get_empty (path : Path) : (empty : Folder Content).get path = none :=
  AList.lookup_empty path

theorem mem_of_get {tree : Folder Content} {path : Path} {entry : Entry Content}
    (found : tree.get path = some entry) : path ∈ tree.entries :=
  AList.lookup_isSome.mp (Option.isSome_of_eq_some found)

theorem mem_paths_iff {tree : Folder Content} {path : Path} :
    path ∈ tree.paths ↔ ∃ entry, tree.get path = some entry := by
  rw [paths, ← AList.mem_keys, ← AList.lookup_isSome,
    Option.isSome_iff_exists, get]

theorem nodup_paths (tree : Folder Content) : tree.paths.Nodup :=
  tree.entries.keys_nodup

theorem ne_nil_of_get
    {tree : Folder Content} {path : Path} {entry : Entry Content}
    (found : tree.get path = some entry) : path ≠ [] :=
  (tree.named path (mem_of_get found)).1

@[simp]
theorem get_nil (tree : Folder Content) : tree.get [] = none := by
  cases found : tree.get [] with
  | none => rfl
  | some entry => exact absurd rfl (ne_nil_of_get found)

theorem isDirectory_iff {tree : Folder Content} {path : Path} :
    tree.isDirectory path = true ↔
      path = [] ∨ tree.get path = some .directory := by
  rw [isDirectory, isDirectoryIn, Bool.or_eq_true, List.isEmpty_iff,
    any_isDirectory_iff, get]

/-- Every entry lies in directories up to the root. -/
theorem directory_of_above
    {tree : Folder Content} {path other : Path} {entry : Entry Content}
    (found : tree.get other = some entry) (above : Above path other) :
    tree.get path = some .directory := by
  induction other using List.reverseRecOn generalizing entry with
  | nil => exact absurd (List.prefix_nil.mp above.2.1) above.1
  | append_singleton parent name induction =>
      have isDirectory := tree.rooted _ (mem_of_get found)
      rw [List.dropLast_concat] at isDirectory
      have cases := isDirectory_iff.mp isDirectory
      rcases above_concat_iff.mp above with ⟨notNil, before⟩
      rcases cases with rfl | directory
      · exact absurd (List.prefix_nil.mp before) notNil
      · by_cases same : path = parent
        · rw [same]
          exact directory
        · exact induction directory ⟨notNil, before, same⟩

/-! ## Calls -/

/-- An entry can be put at the path. -/
structure CanPut (tree : Folder Content) (path : Path) : Prop where
  notRoot : path ≠ []
  named : ∀ name ∈ path, isName name = true
  rooted : tree.isDirectory path.dropLast = true
  free : (tree.get path).any Entry.isDirectory = false

instance (tree : Folder Content) (path : Path) :
    Decidable (tree.CanPut path) :=
  decidable_of_iff
    (path ≠ [] ∧ (∀ name ∈ path, isName name = true) ∧
      tree.isDirectory path.dropLast = true ∧
      (tree.get path).any Entry.isDirectory = false)
    ⟨fun ⟨notRoot, named, rooted, free⟩ => ⟨notRoot, named, rooted, free⟩,
      fun can => ⟨can.notRoot, can.named, can.rooted, can.free⟩⟩

theorem isDirectoryIn_insert
    {entries : Entries Content} {path : Path} (entry : Entry Content)
    {parent : Path} (isDirectory : isDirectoryIn entries parent = true)
    (free : (entries.lookup path).any Entry.isDirectory = false) :
    isDirectoryIn (entries.insert path entry) parent = true := by
  rw [isDirectoryIn, Bool.or_eq_true] at isDirectory ⊢
  apply isDirectory.imp_right
  intro directory
  by_cases same : parent = path
  · subst same
    rw [directory] at free
    cases free
  · rw [AList.lookup_insert_ne same]
    exact directory

/-- The tree with this entry at the path. -/
def put (tree : Folder Content) (path : Path) (entry : Entry Content)
    (can : tree.CanPut path) : Folder Content where
  entries := tree.entries.insert path entry
  named := by
    intro other member
    rcases (AList.mem_insert _).mp member with rfl | member
    · exact ⟨can.notRoot, can.named⟩
    · exact tree.named other member
  rooted := by
    intro other member
    apply isDirectoryIn_insert entry _ can.free
    rcases (AList.mem_insert _).mp member with rfl | member
    · exact can.rooted
    · exact tree.rooted other member

theorem get_put
    {tree : Folder Content} {path : Path} (entry : Entry Content)
    (can : tree.CanPut path) (other : Path) :
    (tree.put path entry can).get other =
      if other = path then some entry else tree.get other := by
  split
  · next same =>
      subst same
      exact AList.lookup_insert _
  · next different => exact AList.lookup_insert_ne different

/-- The entry at the path can be removed. -/
structure CanRemove (tree : Folder Content) (path : Path) : Prop where
  alone : ∀ other ∈ tree.paths, other.dropLast ≠ path
  notRoot : path ≠ []

instance (tree : Folder Content) (path : Path) :
    Decidable (tree.CanRemove path) :=
  decidable_of_iff
    ((∀ other ∈ tree.paths, other.dropLast ≠ path) ∧ path ≠ [])
    ⟨fun ⟨alone, notRoot⟩ => ⟨alone, notRoot⟩,
      fun can => ⟨can.alone, can.notRoot⟩⟩

/-- The tree without the entry at the path. -/
def remove (tree : Folder Content) (path : Path) (can : tree.CanRemove path) :
    Folder Content where
  entries := tree.entries.erase path
  named := fun other member =>
    tree.named other (AList.mem_erase.mp member).2
  rooted := by
    intro other member
    have found := (AList.mem_erase.mp member).2
    have isDirectory := tree.rooted other found
    rw [isDirectoryIn, Bool.or_eq_true] at isDirectory ⊢
    rw [AList.lookup_erase_ne (can.alone other found)]
    exact isDirectory

theorem get_remove
    {tree : Folder Content} {path : Path} (can : tree.CanRemove path)
    (other : Path) :
    (tree.remove path can).get other =
      if other = path then none else tree.get other := by
  split
  · next same =>
      subst same
      exact AList.lookup_erase _ _
  · next different => exact AList.lookup_erase_ne different

/-- `mkdir` with `exist_ok=True`. -/
def makeDirectory (tree : Folder Content) (path : Path) :
    Option (Folder Content) :=
  if tree.isDirectory path then some tree
  else if (tree.get path).isSome then none
  else if can : tree.CanPut path then some (tree.put path .directory can)
  else none

/-- `mkdir` with `parents=True`, too. -/
def makeDirectories (tree : Folder Content) (path : Path) :
    Option (Folder Content) :=
  path.inits.foldlM makeDirectory tree

/-- A new file takes the place of what lies at the path. -/
def writeFile (tree : Folder Content) (path : Path) (content : Content) :
    Option (Folder Content) :=
  if can : tree.CanPut path then some (tree.put path (.file content) can)
  else none

/-- `unlink`. -/
def unlink (tree : Folder Content) (path : Path) : Option (Folder Content) :=
  match tree.get path with
  | none | some .directory => none
  | some _ =>
      if can : tree.CanRemove path then some (tree.remove path can) else none

/-- `rmdir`. -/
def rmdir (tree : Folder Content) (path : Path) : Option (Folder Content) :=
  if (tree.get path).any Entry.isDirectory then
    if can : tree.CanRemove path then some (tree.remove path can) else none
  else none

/-! ## What the calls do -/

theorem get_makeDirectory
    {tree made : Folder Content} {path : Path}
    (makes : tree.makeDirectory path = some made) (other : Path) :
    made.get other =
      if other = path ∧ path ≠ [] then some .directory
      else tree.get other := by
  unfold makeDirectory at makes
  split at makes
  · next isDirectory =>
      cases makes
      split
      · next same =>
          rw [same.1]
          exact (isDirectory_iff.mp isDirectory).resolve_left same.2
      · rfl
  · split at makes
    · cases makes
    · split at makes
      · next can =>
          cases makes
          rw [get_put]
          simp only [can.notRoot, ne_eq, not_false_eq_true, and_true]
      · cases makes

theorem get_foldlM_makeDirectory
    {paths : List Path} {tree made : Folder Content}
    (makes : paths.foldlM makeDirectory tree = some made) (other : Path) :
    made.get other =
      if other ∈ paths ∧ other ≠ [] then some .directory
      else tree.get other := by
  induction paths generalizing tree with
  | nil =>
      cases makes
      simp
  | cons path rest induction =>
      rw [List.foldlM_cons, Option.bind_eq_bind,
        Option.bind_eq_some_iff] at makes
      rcases makes with ⟨middle, first, others⟩
      rw [induction others, get_makeDirectory first]
      by_cases isRoot : other = []
      · simp [isRoot]
      · by_cases isPath : other = path
        · subst isPath
          simp [isRoot]
        · simp [isPath]

/-- The directories up to the path are there, and the rest is as before. -/
theorem get_makeDirectories
    {tree made : Folder Content} {path : Path}
    (makes : tree.makeDirectories path = some made) (other : Path) :
    made.get other =
      if other ≠ [] ∧ other <+: path then some .directory
      else tree.get other := by
  rw [get_foldlM_makeDirectory makes]
  simp only [List.mem_inits, and_comm]

/-- Where no file is in the way the directories can be made. -/
theorem exists_makeDirectories
    {tree : Folder Content} {path : Path}
    (named : ∀ name ∈ path, isName name = true)
    (free : ∀ parent, parent <+: path → ∀ entry,
      tree.get parent = some entry → entry = .directory) :
    ∃ made, tree.makeDirectories path = some made := by
  induction path using List.reverseRecOn with
  | nil => exact ⟨tree, rfl⟩
  | append_singleton parent name induction =>
      rcases induction
        (fun other member => named other (List.mem_append_left _ member))
        (fun other before => free other (before.trans (List.prefix_append _ _)))
        with ⟨made, makes⟩
      have inits : (parent ++ [name]).inits =
          parent.inits ++ [parent ++ [name]] := by
        simp [List.inits_append]
      have foundBefore : made.get (parent ++ [name]) =
          tree.get (parent ++ [name]) := by
        rw [get_makeDirectories makes, if_neg]
        rintro ⟨-, before⟩
        exact absurd before.length_le (by simp)
      rw [makeDirectories, inits, List.foldlM_append]
      show ∃ last, (tree.makeDirectories parent).bind
        (fun tree => [parent ++ [name]].foldlM makeDirectory tree) = some last
      rw [makes, Option.bind_some]
      simp only [List.foldlM_cons, List.foldlM_nil, bind_pure]
      unfold makeDirectory
      split
      · exact ⟨made, rfl⟩
      next notDirectory =>
      have isFree : made.get (parent ++ [name]) = none := by
        cases found : tree.get (parent ++ [name]) with
        | none => exact foundBefore.trans found
        | some entry =>
            have directory := free _ (List.prefix_refl _) entry found
            rw [directory] at found
            exact absurd (isDirectory_iff.mpr
              (Or.inr (foundBefore.trans found))) notDirectory
      rw [isFree]
      have can : made.CanPut (parent ++ [name]) := by
        constructor
        · exact List.concat_ne_nil name parent
        · exact named
        · rw [List.dropLast_concat, isDirectory_iff,
            get_makeDirectories makes]
          by_cases isRoot : parent = []
          · exact Or.inl isRoot
          · exact Or.inr (if_pos ⟨isRoot, List.prefix_refl _⟩)
        · rw [isFree]
          rfl
      rw [dif_pos can]
      exact ⟨_, rfl⟩

theorem writeFile_eq_some_iff
    {tree written : Folder Content} {path : Path} {content : Content} :
    tree.writeFile path content = some written ↔
      ∃ can : tree.CanPut path, tree.put path (.file content) can = written := by
  unfold writeFile
  split
  · next can =>
      rw [Option.some.injEq]
      exact ⟨fun same => ⟨can, same⟩, fun ⟨_, same⟩ => same⟩
  · next cannot =>
      exact iff_of_false (fun impossible => by cases impossible)
        fun ⟨can, _⟩ => cannot can

/-- An entry with nothing below it can be removed. -/
theorem canRemove_of_leaf
    {tree : Folder Content} {path : Path} (notRoot : path ≠ [])
    (leaf : ∀ other entry, tree.get other = some entry →
      ¬ Above path other) : tree.CanRemove path := by
  refine ⟨?_, notRoot⟩
  intro other member same
  rcases mem_paths_iff.mp member with ⟨entry, found⟩
  refine leaf other entry found ⟨notRoot, ?_, ?_⟩
  · rw [← same]
    exact List.dropLast_prefix other
  · rw [← same]
    intro unchanged
    have shorter := congrArg List.length unchanged
    rw [List.length_dropLast] at shorter
    have positive := List.length_pos_iff.mpr (ne_nil_of_get found)
    omega

/-- Nothing but directories has something below it. -/
theorem canRemove_of_not_directory
    {tree : Folder Content} {path : Path} {entry : Entry Content}
    (found : tree.get path = some entry)
    (notDirectory : entry.isDirectory = false) : tree.CanRemove path := by
  apply canRemove_of_leaf (ne_nil_of_get found)
  intro other below foundBelow above
  rw [directory_of_above foundBelow above, Option.some.injEq] at found
  rw [← found] at notDirectory
  cases notDirectory

/-- `unlink` removes what is no directory. -/
theorem get_unlink
    {tree : Folder Content} {path : Path} {entry : Entry Content}
    (found : tree.get path = some entry)
    (notDirectory : entry.isDirectory = false) :
    ∃ removed, tree.unlink path = some removed ∧ ∀ other,
      removed.get other = if other = path then none else tree.get other := by
  have can := canRemove_of_not_directory found notDirectory
  refine ⟨tree.remove path can, ?_, get_remove can⟩
  unfold unlink
  rw [found]
  cases entry with
  | directory => cases notDirectory
  | file | special => exact dif_pos can

/-- `rmdir` removes a directory with nothing below it. -/
theorem get_rmdir
    {tree : Folder Content} {path : Path}
    (found : tree.get path = some .directory)
    (leaf : ∀ other entry, tree.get other = some entry →
      ¬ Above path other) :
    ∃ removed, tree.rmdir path = some removed ∧ ∀ other,
      removed.get other = if other = path then none else tree.get other := by
  have can := canRemove_of_leaf (ne_nil_of_get found) leaf
  refine ⟨tree.remove path can, ?_, get_remove can⟩
  rw [rmdir, found]
  exact dif_pos can

/-- A directory with something in it stays. -/
theorem rmdir_of_above
    {tree : Folder Content} {path other : Path} {entry : Entry Content}
    (found : tree.get other = some entry) (above : Above path other) :
    tree.rmdir path = none := by
  unfold rmdir
  split
  · apply dif_neg
    intro can
    -- The first name below the directory is an entry of it.
    rcases above.2.1 with ⟨more, rfl⟩
    cases more with
    | nil => exact above.2.2 (List.append_nil path).symm
    | cons name rest =>
        have isEntry : ∃ child, tree.get (path ++ [name]) = some child := by
          cases rest with
          | nil => exact ⟨entry, found⟩
          | cons next rest =>
              refine ⟨.directory, directory_of_above found ⟨?_, ?_, ?_⟩⟩
              · exact List.concat_ne_nil name path
              · exact ⟨next :: rest, by simp⟩
              · simp
        apply can.alone _ (mem_paths_iff.mpr isEntry)
        exact List.dropLast_concat
  · rfl

end Folder

end Sluicery.Library.FileTree
