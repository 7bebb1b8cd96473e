import Sluicery.Library.PosixPath
import Sluicery.Library.Raising
import Sluicery.Library.Returning
import Mathlib.Logic.Function.Basic

/-!
# A file system which others use at the same time

The entries of a file system by their places, and the calls of one process.
Before a call takes effect others may change entries, and a call may fail with
any error number.  `Intact` says what is left of the entries when the others
only create new ones: all that was there and all that they have created, and
besides it only what the process has made itself.
-/

namespace Sluicery.Library.FileSystem

open Sluicery.Library.Raising

/-! ## Entries -/

/-- An error number. -/
inductive Errno where
  | eacces
  | ebadf
  | edquot
  | eexist
  | einval
  | eisdir
  | eloop
  | enoent
  | enospc
  | enosys
  | enotdir
  | eopnotsupp
  | eperm
  | erofs
  | exdev
  | other (number : Nat)
deriving DecidableEq, Repr

/-- A path by its names from the root on. -/
abbrev Path := List String

/-- What an entry leads to. -/
inductive Node where
  | regular (bytes : List UInt8)
  | symlink (target : PurePosixPath)
  | directory
  | special
deriving DecidableEq, Repr

/-- What `stat` tells; the size counts for what is not a regular file. -/
structure Stamp where
  device : Nat := 0
  inode : Nat := 0
  modifiedNs : Int := 0
  otherSize : Nat := 0
deriving DecidableEq, Repr

/-- An entry of a directory. -/
structure Entry where
  node : Node
  stamp : Stamp := {}
deriving DecidableEq, Repr

/-- `st_size`. -/
def Entry.size (entry : Entry) : Nat :=
  match entry.node with
  | .regular bytes => bytes.length
  | _ => entry.stamp.otherSize

/-- `S_ISREG`. -/
def Entry.isRegular (entry : Entry) : Bool :=
  match entry.node with
  | .regular _ => true
  | _ => false

/-- The entries by their places, which are paths without links. -/
abbrev Entries := Path → Option Entry

/-- There is a directory at the place. -/
def isDirectory (files : Entries) (place : Path) : Bool :=
  (files place).any fun entry => entry.node == .directory

/-! ## Reading -/

/--
Follow a path from a place on, within a limit of steps.  A strict walk fails
where there is nothing, and goes through directories only.
-/
def walk (files : Entries) (strict : Bool) :
    Nat → Path → Path → Except Errno Path
  | _, place, [] => .ok place
  | 0, _, _ :: _ => .error .eloop
  | limit + 1, place, name :: rest =>
      if name = ".." then walk files strict limit place.dropLast rest
      else
        match files (place ++ [name]) with
        | none =>
            if strict then .error .enoent
            else walk files strict limit (place ++ [name]) rest
        | some { node := .symlink target, .. } =>
            walk files strict limit
              (if target.root = "" then place else []) (target.parts ++ rest)
        | some { node := .directory, .. } =>
            walk files strict limit (place ++ [name]) rest
        | some _ =>
            if strict && !rest.isEmpty then .error .enotdir
            else walk files strict limit (place ++ [name]) rest

/-- A last name is an entry of its directory, or leads to the parent. -/
def below (parent : Path) (name : String) : Path :=
  if name = ".." then parent.dropLast else parent ++ [name]

/-- The place of a path whose last name is not followed. -/
def locate (files : Entries) (limit : Nat) (path : Path) :
    Except Errno Path :=
  match path.getLast? with
  | none => .ok []
  | some name => do
      let parent ← walk files true limit [] path.dropLast
      if isDirectory files parent then .ok (below parent name)
      else .error .enotdir

/-- The entry at a place. -/
def entryAt (files : Entries) (place : Path) : Except Errno Entry :=
  match files place with
  | none => .error .enoent
  | some entry => .ok entry

/-- `lstat`. -/
def lstat (files : Entries) (limit : Nat) (path : Path) :
    Except Errno Entry := do
  entryAt files (← locate files limit path)

/-- `stat`. -/
def stat (files : Entries) (limit : Nat) (path : Path) :
    Except Errno Entry := do
  entryAt files (← walk files true limit [] path)

/-- What reading an open entry gives. -/
def Entry.read (entry : Entry) : Except Errno (List UInt8) :=
  match entry.node with
  | .regular bytes => .ok bytes
  | .directory => .error .eisdir
  | _ => .error .einval

/-- The bytes of the file at a path. -/
def readFile (files : Entries) (limit : Nat) (path : Path) :
    Except Errno (List UInt8) := do
  (← stat files limit path).read

/-- The last name of the path is a symbolic link. -/
def IsSymlink (files : Entries) (limit : Nat) (path : Path) : Prop :=
  ∃ entry target, lstat files limit path = .ok entry ∧
    entry.node = .symlink target

/-- `open` with `O_NOFOLLOW`. -/
def openNoFollow (files : Entries) (limit : Nat) (path : Path) :
    Except Errno Entry := do
  let entry ← lstat files limit path
  match entry.node with
  | .symlink _ => .error .eloop
  | _ => .ok entry

/-! ## Changing -/

/-- What a process has done to entries which were there. -/
inductive Act where
  | moved (source destination : Path) (entry : Entry)
      (overwritten : Option Entry)
  | removed (place : Path) (entry : Entry)
deriving DecidableEq, Repr

/-- A new entry, where there is none. -/
def create (files : Entries) (limit : Nat) (path : Path) (entry : Entry) :
    Except Errno Entries := do
  let place ← locate files limit path
  match files place with
  | some _ => .error .eexist
  | none => .ok (Function.update files place (some entry))

/-- `link`: another entry for a file; a symbolic link is not followed. -/
def link (files : Entries) (limit : Nat) (source destination : Path) :
    Except Errno Entries := do
  let entry ← lstat files limit source
  if entry.node = .directory then .error .eperm
  else create files limit destination entry

/-- A directory goes to another place with everything below it. -/
def moveTree (files : Entries) (source destination : Path) : Entries :=
  fun place =>
    if destination <+: place then
      files (source ++ place.drop destination.length)
    else if source <+: place then none
    else files place

/-- `renameat2` with `RENAME_NOREPLACE`. -/
def renameNoReplace (files : Entries) (limit : Nat)
    (source destination : Path) : Except Errno (Entries × Act) := do
  let start ← locate files limit source
  let entry ← entryAt files start
  let finish ← locate files limit destination
  match files finish with
  | some _ => .error .eexist
  | none =>
      if entry.node = .directory then
        if start <+: finish then .error .einval
        else .ok (moveTree files start finish,
          .moved start finish entry none)
      else
        .ok (Function.update (Function.update files start none) finish
          (some entry), .moved start finish entry none)

/-- `rename` of what is not a directory. -/
def rename (files : Entries) (limit : Nat) (source destination : Path) :
    Except Errno (Entries × Act) := do
  let start ← locate files limit source
  let entry ← entryAt files start
  let finish ← locate files limit destination
  if isDirectory files finish then .error .eisdir
  else
    .ok (Function.update (Function.update files start none) finish
      (some entry), .moved start finish entry (files finish))

/-- `unlink`. -/
def unlink (files : Entries) (limit : Nat) (path : Path) :
    Except Errno (Entries × Act) := do
  let place ← locate files limit path
  let entry ← entryAt files place
  if entry.node = .directory then .error .eisdir
  else .ok (Function.update files place none, .removed place entry)

/-! ## Calls -/

/-- What others do to an entry. -/
inductive Change where
  | create (place : Path) (entry : Entry)
  | put (place : Path) (entry : Option Entry)
deriving DecidableEq, Repr

/-- What happens at a call: what others do before it, and how it fails. -/
structure Event where
  changes : List Change := []
  fault : Option Errno := none
  /-- What a copy has written when it fails, unless it could not begin. -/
  written : Option (List UInt8) := none
  /-- What `stat` tells of a new entry. -/
  stamp : Stamp := {}
deriving DecidableEq, Repr

/-- The entries; what others have created, and what the process has done. -/
structure World where
  files : Entries
  created : List (Path × Entry) := []
  acts : List Act := []

/-- Others change an entry. -/
def World.change (world : World) : Change → World
  | .create place entry =>
      match world.files place with
      | some _ => world
      | none =>
          { world with
            files := Function.update world.files place (some entry)
            created := world.created ++ [(place, entry)] }
  | .put place entry =>
      { world with files := Function.update world.files place entry }

/-- Others change entries. -/
def World.interfere (world : World) (changes : List Change) : World :=
  changes.foldl World.change world

variable {Failure Value : Type}

/-- A call which reads. -/
def query (fail : Errno → Failure) (event : Event)
    (read : Entries → Except Errno Value) :
    EStateM Failure World Value := fun world =>
  let seen := world.interfere event.changes
  match event.fault with
  | some errno => .error (fail errno) seen
  | none =>
      match read seen.files with
      | .error errno => .error (fail errno) seen
      | .ok value => .ok value seen

/-- A call which makes an entry. -/
def make (fail : Errno → Failure) (event : Event)
    (act : Entries → Except Errno Entries) :
    EStateM Failure World PUnit := fun world =>
  let seen := world.interfere event.changes
  match event.fault with
  | some errno => .error (fail errno) seen
  | none =>
      match act seen.files with
      | .error errno => .error (fail errno) seen
      | .ok files => .ok ⟨⟩ { seen with files }

/-- A call which does something to an entry. -/
def perform (fail : Errno → Failure) (event : Event)
    (act : Entries → Except Errno (Entries × Act)) :
    EStateM Failure World PUnit := fun world =>
  let seen := world.interfere event.changes
  match event.fault with
  | some errno => .error (fail errno) seen
  | none =>
      match act seen.files with
      | .error errno => .error (fail errno) seen
      | .ok (files, done) =>
          .ok ⟨⟩ { seen with files, acts := seen.acts ++ [done] }

/-- The bytes of a file go to a new one, which is left when that fails. -/
def copyFile (fail : Errno → Failure) (event : Event) (limit : Nat)
    (source destination : Path) : EStateM Failure World PUnit := fun world =>
  let seen := world.interfere event.changes
  match readFile seen.files limit source with
  | .error errno => .error (fail errno) seen
  | .ok bytes =>
      match event.fault, event.written with
      | some errno, none => .error (fail errno) seen
      | fault, written =>
          match create seen.files limit destination
              { node := .regular (if fault = none then bytes
                  else written.getD []), stamp := event.stamp } with
          | .error errno => .error (fail errno) seen
          | .ok files =>
              match fault with
              | some errno => .error (fail errno) { seen with files }
              | none => .ok ⟨⟩ { seen with files }

/-! ## Extending -/

/-- Every entry is still there. -/
def Extends (files more : Entries) : Prop :=
  ∀ place entry, files place = some entry → more place = some entry

section Extends

variable {files more : Entries} {limit : Nat} {path place : Path}

theorem Extends.refl : Extends files files :=
  fun _ _ found => found

theorem Extends.trans {most : Entries}
    (first : Extends files more) (second : Extends more most) :
    Extends files most :=
  fun place entry found => second place entry (first place entry found)

theorem extends_update (free : files place = none) (entry : Entry) :
    Extends files (Function.update files place (some entry)) := by
  intro other found isThere
  rw [Function.update_of_ne]
  · exact isThere
  · rintro rfl
    rw [free] at isThere
    cases isThere

theorem update_eq_some
    {entry found : Entry} {other : Path}
    (isThere : Function.update files place (some entry) other = some found) :
    (other = place ∧ found = entry) ∨ files other = some found := by
  by_cases same : other = place
  · rw [same, Function.update_self, Option.some.injEq] at isThere
    exact Or.inl ⟨same, isThere.symm⟩
  · rw [Function.update_of_ne same] at isThere
    exact Or.inr isThere

section Move

variable {source : Path} {entry found : Entry} {other : Path}

/-- What is not moved stays where an entry goes to a free place. -/
theorem move_elsewhere
    (free : files place = none) (isThere : files other = some found)
    (notSource : other ≠ source) :
    Function.update (Function.update files source none) place (some entry)
      other = some found := by
  rw [Function.update_of_ne, Function.update_of_ne notSource, isThere]
  rintro rfl
  rw [free] at isThere
  cases isThere

/-- After a move there are the moved entry and what was there. -/
theorem move_eq_some
    (isThere : Function.update (Function.update files source none) place
      (some entry) other = some found) :
    (other = place ∧ found = entry) ∨ files other = some found := by
  rcases update_eq_some isThere with isMoved | before
  · exact Or.inl isMoved
  · by_cases here : other = source
    · rw [here, Function.update_self] at before
      cases before
    · rw [Function.update_of_ne here] at before
      exact Or.inr before

end Move

theorem Extends.isDirectory
    (extension : Extends files more) (found : isDirectory files place = true) :
    isDirectory more place = true := by
  rcases Option.any_eq_true _ _ |>.1 found with ⟨entry, isThere, isOne⟩
  rw [FileSystem.isDirectory, extension place entry isThere]
  exact isOne

/-- A strict walk uses no regular file but the one where it ends. -/
theorem walk_of_kept
    {names finish : Path}
    (kept : ∀ place entry, files place = some entry →
      entry.isRegular = false ∨ place = finish → more place = some entry)
    (walked : walk files true limit place names = .ok finish) :
    walk more true limit place names = .ok finish := by
  induction limit generalizing place names with
  | zero =>
      cases names with
      | nil => exact walked
      | cons name rest => cases walked
  | succ limit induction =>
      cases names with
      | nil => exact walked
      | cons name rest =>
          rw [walk] at walked ⊢
          split
          · next isParent =>
              rw [if_pos isParent] at walked
              exact induction walked
          · next notParent =>
              rw [if_neg notParent] at walked
              cases found : files (place ++ [name]) with
              | none =>
                  rw [found] at walked
                  cases walked
              | some entry =>
                  rw [found] at walked
                  rcases entry with ⟨node, stamp⟩
                  cases node with
                  | symlink target =>
                      rw [kept _ _ found (Or.inl rfl)]
                      exact induction walked
                  | directory =>
                      rw [kept _ _ found (Or.inl rfl)]
                      exact induction walked
                  | special =>
                      rw [kept _ _ found (Or.inl rfl)]
                      dsimp only at walked ⊢
                      split at walked
                      · cases walked
                      · next goesOn =>
                          rw [if_neg goesOn]
                          exact induction walked
                  | regular bytes =>
                      cases rest with
                      | cons next rest => cases walked
                      | nil =>
                          have same : place ++ [name] = finish := by
                            simpa [walk] using walked
                          rw [kept _ _ found (Or.inr same)]
                          exact induction walked

/-- A strict walk uses only entries that are there. -/
theorem Extends.walk
    (extension : Extends files more) {names finish : Path}
    (walked : walk files true limit place names = .ok finish) :
    walk more true limit place names = .ok finish :=
  walk_of_kept (fun other entry found _ => extension other entry found) walked

theorem locate_eq_ok_iff :
    locate files limit path = .ok place ↔
      (path = [] ∧ place = []) ∨
        ∃ parent name, path.getLast? = some name ∧
          walk files true limit [] path.dropLast = .ok parent ∧
          isDirectory files parent = true ∧ place = below parent name := by
  rw [locate]
  cases last : path.getLast? with
  | none =>
      rw [List.getLast?_eq_none_iff] at last
      subst last
      constructor
      · rintro ⟨⟩
        exact Or.inl ⟨rfl, rfl⟩
      · rintro (⟨-, rfl⟩ | ⟨parent, name, impossible, -⟩)
        · rfl
        · cases impossible
  | some name =>
      have notEmpty : path ≠ [] := by
        rintro rfl
        cases last
      simp only [bind_eq_ok_iff, notEmpty, false_and, false_or,
        Option.some.injEq]
      constructor
      · rintro ⟨parent, walked, located⟩
        split at located
        · next isParent =>
            cases located
            exact ⟨parent, name, rfl, walked, isParent, rfl⟩
        · cases located
      · rintro ⟨parent, _, rfl, walked, isParent, rfl⟩
        exact ⟨parent, walked, if_pos isParent⟩

/-- The place of a path depends on no regular file. -/
theorem locate_of_kept
    (kept : ∀ place entry, files place = some entry →
      entry.isRegular = false → more place = some entry)
    (located : locate files limit path = .ok place) :
    locate more limit path = .ok place := by
  rw [locate_eq_ok_iff] at located ⊢
  rcases located with both | ⟨parent, name, last, walked, isParent, same⟩
  · exact Or.inl both
  · rcases Option.any_eq_true _ _ |>.1 isParent with ⟨entry, isThere, isOne⟩
    have notRegular : entry.isRegular = false := by
      rw [Entry.isRegular, of_decide_eq_true isOne]
    refine Or.inr ⟨parent, name, last, ?_, ?_, same⟩
    · apply walk_of_kept _ walked
      rintro other found isFound (isOther | rfl)
      · exact kept other found isFound isOther
      · rw [isThere] at isFound
        cases isFound
        exact kept other entry isThere notRegular
    · rw [isDirectory, kept parent entry isThere notRegular]
      exact isOne

theorem Extends.locate
    (extension : Extends files more)
    (located : locate files limit path = .ok place) :
    locate more limit path = .ok place :=
  locate_of_kept (fun other entry found _ => extension other entry found)
    located

/-- A place ends in the last name of its path. -/
theorem getLast?_of_locate
    (located : locate files limit path = .ok place)
    (notParent : path.getLast? ≠ some "..") :
    place.getLast? = path.getLast? := by
  rcases locate_eq_ok_iff.1 located with
    ⟨rfl, rfl⟩ | ⟨parent, name, last, -, -, rfl⟩
  · rfl
  · have isEntry : name ≠ ".." := by
      rintro rfl
      exact notParent last
    rw [last, below, if_neg isEntry, List.getLast?_append,
      List.getLast?_singleton, Option.some_or]

/-- Another name in the same directory has a place, too. -/
theorem locate_beside {other : Path}
    (located : locate files limit path = .ok place)
    (beside : other.dropLast = path.dropLast) (notEmpty : path ≠ [])
    (otherNotEmpty : other ≠ []) :
    ∃ there, locate files limit other = .ok there := by
  rcases locate_eq_ok_iff.1 located with
    ⟨isEmpty, -⟩ | ⟨parent, name, -, walked, isParent, -⟩
  · exact absurd isEmpty notEmpty
  · have last := List.getLast?_eq_some_getLast otherNotEmpty
    exact ⟨_, locate_eq_ok_iff.2 (Or.inr
      ⟨parent, _, last, beside ▸ walked, isParent, rfl⟩)⟩

/-- A walk never stays at a name which leads to the parent. -/
theorem notParent_of_walk
    {strict : Bool} {names finish : Path} (start : ".." ∉ place)
    (walked : walk files strict limit place names = .ok finish) :
    ".." ∉ finish := by
  induction limit generalizing place names with
  | zero =>
      cases names with
      | nil =>
          cases walked
          exact start
      | cons name rest => cases walked
  | succ limit induction =>
      cases names with
      | nil =>
          cases walked
          exact start
      | cons name rest =>
          rw [walk] at walked
          split at walked
          · exact induction (fun member =>
              start (List.mem_of_mem_dropLast member)) walked
          · next isEntry =>
              have further : ".." ∉ place ++ [name] := by
                rw [List.mem_append, List.mem_singleton, not_or]
                exact ⟨start, fun same => isEntry same.symm⟩
              split at walked
              · split at walked
                · cases walked
                · exact induction further walked
              · apply induction _ walked
                split
                · exact start
                · exact List.not_mem_nil
              · exact induction further walked
              · split at walked
                · cases walked
                · exact induction further walked

/-- The last step of a strict walk, where it is no symbolic link. -/
theorem walk_concat
    {names parent finish : Path} {name : String}
    (walked : walk files true limit place names = .ok parent)
    (notLink : ∀ entry, files (below parent name) = some entry →
      ∀ target, entry.node ≠ .symlink target)
    (whole : walk files true limit place (names ++ [name]) = .ok finish) :
    finish = below parent name := by
  induction limit generalizing place names with
  | zero => cases names <;> cases whole
  | succ limit induction =>
      cases names with
      | nil =>
          cases walked
          rw [List.nil_append, walk] at whole
          split at whole
          · next isParent =>
              rw [below, if_pos isParent]
              cases limit <;> exact (Except.ok.inj whole).symm
          · next isEntry =>
              rw [below, if_neg isEntry] at notLink ⊢
              split at whole
              · cases whole
              · next target stamp found =>
                  exact absurd rfl (notLink _ found target)
              · cases limit <;> exact (Except.ok.inj whole).symm
              · cases limit <;> exact (Except.ok.inj whole).symm
      | cons first rest =>
          rw [walk] at walked
          rw [List.cons_append, walk] at whole
          split at walked
          · next isParent =>
              rw [if_pos isParent] at whole
              exact induction walked whole
          · next isEntry =>
              rw [if_neg isEntry] at whole
              split at walked
              · cases walked
              · next found =>
                  rw [found] at whole
                  dsimp only at whole
                  rw [← List.append_assoc] at whole
                  exact induction walked whole
              · next found =>
                  rw [found] at whole
                  exact induction walked whole
              · next other notSymlink notTree found =>
                  rw [found] at whole
                  -- Only a directory lets the walk go on to the last name.
                  rcases other with ⟨node, stamp⟩
                  cases node with
                  | symlink target => exact absurd rfl (notSymlink _ _)
                  | directory => exact absurd rfl (notTree _)
                  | regular bytes => simp at whole
                  | special => simp at whole

theorem entryAt_eq_ok_iff {entry : Entry} :
    entryAt files place = .ok entry ↔ files place = some entry := by
  rw [entryAt]
  cases files place with
  | none => simp
  | some found => simp

theorem stat_eq_ok_iff {entry : Entry} :
    stat files limit path = .ok entry ↔
      ∃ place, walk files true limit [] path = .ok place ∧
        files place = some entry := by
  simp only [stat, bind_eq_ok_iff, entryAt_eq_ok_iff]

theorem lstat_eq_ok_iff {entry : Entry} :
    lstat files limit path = .ok entry ↔
      ∃ place, locate files limit path = .ok place ∧
        files place = some entry := by
  simp only [lstat, bind_eq_ok_iff, entryAt_eq_ok_iff]

/-- Where the last name is no symbolic link, `lstat` is `stat`. -/
theorem eq_of_lstat {entry found : Entry}
    (looked : lstat files limit path = .ok entry)
    (notLink : ∀ target, entry.node ≠ .symlink target)
    (followed : stat files limit path = .ok found) : found = entry := by
  rcases lstat_eq_ok_iff.1 looked with ⟨place, located, isThere⟩
  rcases stat_eq_ok_iff.1 followed with ⟨finish, walked, isFound⟩
  have same : finish = place := by
    rcases locate_eq_ok_iff.1 located with
      ⟨rfl, rfl⟩ | ⟨parent, name, last, toParent, -, rfl⟩
    · cases limit <;> exact (Except.ok.inj walked).symm
    · rw [← List.dropLast_append_getLast? name last] at walked
      apply walk_concat toParent _ walked
      intro other isOther
      rw [isThere, Option.some.injEq] at isOther
      exact isOther ▸ notLink
  rw [same, isThere, Option.some.injEq] at isFound
  exact isFound.symm

theorem read_eq_ok_iff {entry : Entry} {bytes : List UInt8} :
    entry.read = .ok bytes ↔ entry.node = .regular bytes := by
  rw [Entry.read]
  cases entry.node with
  | regular other => simp
  | symlink target => simp
  | directory => simp
  | special => simp

theorem readFile_eq_ok_iff {bytes : List UInt8} :
    readFile files limit path = .ok bytes ↔
      ∃ entry, stat files limit path = .ok entry ∧
        entry.node = .regular bytes := by
  simp only [readFile, bind_eq_ok_iff, read_eq_ok_iff]

theorem Extends.stat {entry : Entry}
    (extension : Extends files more)
    (found : stat files limit path = .ok entry) :
    stat more limit path = .ok entry := by
  rw [stat_eq_ok_iff] at found ⊢
  rcases found with ⟨place, walked, isThere⟩
  exact ⟨place, extension.walk walked, extension place entry isThere⟩

theorem Extends.readFile {bytes : List UInt8}
    (extension : Extends files more)
    (isRead : readFile files limit path = .ok bytes) :
    readFile more limit path = .ok bytes := by
  rw [readFile_eq_ok_iff] at isRead ⊢
  rcases isRead with ⟨entry, found, isRegular⟩
  exact ⟨entry, extension.stat found, isRegular⟩

theorem create_eq_ok_iff {entry : Entry} {next : Entries} :
    create files limit path entry = .ok next ↔
      ∃ place, locate files limit path = .ok place ∧ files place = none ∧
        next = Function.update files place (some entry) := by
  simp only [create, bind_eq_ok_iff]
  constructor
  · rintro ⟨place, located, made⟩
    split at made
    · cases made
    · next free =>
        cases made
        exact ⟨place, located, free, rfl⟩
  · rintro ⟨place, located, free, rfl⟩
    exists place
    rw [free]
    exact ⟨located, rfl⟩

/-- The errors of a walk. -/
theorem errno_of_walk
    {strict : Bool} {names : Path} {errno : Errno}
    (fails : walk files strict limit place names = .error errno) :
    errno = .eloop ∨ errno = .enoent ∨ errno = .enotdir := by
  induction limit generalizing place names with
  | zero =>
      cases names with
      | nil => cases fails
      | cons name rest =>
          cases fails
          exact Or.inl rfl
  | succ limit induction =>
      cases names with
      | nil => cases fails
      | cons name rest =>
          rw [walk] at fails
          split at fails
          · exact induction fails
          · split at fails
            · split at fails
              · cases fails
                exact Or.inr (Or.inl rfl)
              · exact induction fails
            · exact induction fails
            · exact induction fails
            · split at fails
              · cases fails
                exact Or.inr (Or.inr rfl)
              · exact induction fails

theorem errno_of_locate {errno : Errno}
    (fails : locate files limit path = .error errno) :
    errno = .eloop ∨ errno = .enoent ∨ errno = .enotdir := by
  rw [locate] at fails
  split at fails
  · cases fails
  · cases walked : walk files true limit [] path.dropLast with
    | error other =>
        rw [walked] at fails
        cases fails
        exact errno_of_walk walked
    | ok parent =>
        rw [walked] at fails
        dsimp only [bind, Except.bind] at fails
        split at fails
        · cases fails
        · cases fails
          exact Or.inr (Or.inr rfl)

theorem errno_of_create {entry : Entry} {errno : Errno}
    (fails : create files limit path entry = .error errno) :
    errno = .eloop ∨ errno = .enoent ∨ errno = .enotdir ∨
      errno = .eexist := by
  rw [create] at fails
  cases located : locate files limit path with
  | error other =>
      rw [located] at fails
      cases fails
      rcases errno_of_locate located with rfl | rfl | rfl
      · exact Or.inl rfl
      · exact Or.inr (Or.inl rfl)
      · exact Or.inr (Or.inr (Or.inl rfl))
  | ok place =>
      rw [located] at fails
      dsimp only [bind, Except.bind] at fails
      split at fails
      · cases fails
        exact Or.inr (Or.inr (Or.inr rfl))
      · cases fails

/-- A link to what is no directory fails as a creation does. -/
theorem link_of_lstat
    {source : Path} {entry : Entry}
    (looked : lstat files limit source = .ok entry)
    (notTree : entry.node ≠ .directory) :
    link files limit source path = create files limit path entry := by
  rw [link, looked]
  exact if_neg notTree

theorem renameNoReplace_eq_ok
    {source destination : Path} {next : Entries} {done : Act}
    (renamed : renameNoReplace files limit source destination =
      .ok (next, done)) :
    ∃ start entry finish, locate files limit source = .ok start ∧
      files start = some entry ∧ locate files limit destination = .ok finish ∧
      files finish = none ∧ done = .moved start finish entry none ∧
      (entry.node ≠ .directory → next =
        Function.update (Function.update files start none) finish
          (some entry)) := by
  simp only [renameNoReplace, bind_eq_ok_iff, entryAt_eq_ok_iff] at renamed
  rcases renamed with ⟨start, isStart, entry, isThere, finish, isFinish,
    result⟩
  split at result
  · cases result
  · next free =>
      split at result
      · next isTree =>
          split at result
          · cases result
          · cases result
            exact ⟨start, entry, finish, isStart, isThere, isFinish, free, rfl,
              fun notTree => absurd isTree notTree⟩
      · cases result
        exact ⟨start, entry, finish, isStart, isThere, isFinish, free, rfl,
          fun _ => rfl⟩

end Extends

/-! ## Others who only create -/

/-- Only new entries are created. -/
def OnlyCreates (changes : List Change) : Prop :=
  ∀ change ∈ changes, ∃ place entry, change = .create place entry

/-- What does not depend on what others create. -/
def Stable (holds : World → Prop) : Prop :=
  ∀ world changes, OnlyCreates changes → holds world →
    holds (world.interfere changes)

/-- It is enough to look at a single entry which others create. -/
theorem stable_of_create {holds : World → Prop}
    (one : ∀ world place entry, holds world → world.files place = none →
      holds
        { world with
          files := Function.update world.files place (some entry)
          created := world.created ++ [(place, entry)] }) :
    Stable holds := by
  intro world changes creates isHeld
  rw [World.interfere]
  induction changes generalizing world with
  | nil => exact isHeld
  | cons change rest induction =>
      rcases creates change List.mem_cons_self with ⟨place, entry, rfl⟩
      have later : OnlyCreates rest := fun later member =>
        creates later (List.mem_cons_of_mem _ member)
      apply induction _ later
      rw [World.change]
      split
      · exact isHeld
      · next free => exact one world place entry isHeld free

/--
Everything that was there and that others have created is there; whatever
else is there is the process's own.
-/
structure Intact (first : Entries) (own : Path → Entry → Prop)
    (world : World) : Prop where
  kept : Extends first world.files
  created : ∀ made ∈ world.created, world.files made.1 = some made.2
  accounted : ∀ place entry, world.files place = some entry →
    first place = some entry ∨ (place, entry) ∈ world.created ∨
      own place entry

section Intact

variable {first : Entries} {own : Path → Entry → Prop} {world start : World}
  {changes : List Change} {event : Event} {fail : Errno → Failure}

theorem intact_start (files : Entries) :
    Intact files own { files } where
  kept := Extends.refl
  created _ member := nomatch member
  accounted _ _ found := Or.inl found

theorem Intact.weaken {owned : Path → Entry → Prop}
    (intact : Intact first own world)
    (weaker : ∀ place entry, own place entry → owned place entry) :
    Intact first owned world where
  kept := intact.kept
  created := intact.created
  accounted place entry found := by
    rcases intact.accounted place entry found with wasThere | isMade | isOwn
    · exact Or.inl wasThere
    · exact Or.inr (Or.inl isMade)
    · exact Or.inr (Or.inr (weaker place entry isOwn))

/-- An own entry is made where there is none. -/
theorem Intact.update {place : Path} {entry : Entry}
    (intact : Intact first own world) (free : world.files place = none)
    (isOwn : own place entry) :
    Intact first own
      { world with
        files := Function.update world.files place (some entry) } where
  kept := intact.kept.trans (extends_update free entry)
  created made member :=
    extends_update free entry _ _ (intact.created made member)
  accounted other found isThere := by
    rcases update_eq_some isThere with ⟨rfl, rfl⟩ | before
    · exact Or.inr (Or.inr isOwn)
    · exact intact.accounted other found before

/-- Where nothing is, nothing was, nor did others create anything. -/
theorem Intact.wasFree {place : Path}
    (intact : Intact first own world) (free : world.files place = none) :
    first place = none ∧ ∀ made ∈ world.created, made.1 ≠ place := by
  constructor
  · cases wasThere : first place with
    | none => rfl
    | some entry =>
        have isKept := intact.kept place entry wasThere
        rw [free] at isKept
        cases isKept
  · intro made member same
    have isMade := intact.created made member
    rw [same, free] at isMade
    cases isMade

/-- Others create an entry. -/
theorem Intact.createOther {place : Path}
    (intact : Intact first own world) (free : world.files place = none)
    (entry : Entry) :
    Intact first own
      { world with
        files := Function.update world.files place (some entry)
        created := world.created ++ [(place, entry)] } := by
  constructor
  · exact intact.kept.trans (extends_update free entry)
  · intro made member
    rcases List.mem_append.1 member with earlier | new
    · exact extends_update free entry _ _ (intact.created made earlier)
    · rw [List.mem_singleton.1 new]
      exact Function.update_self _ _ _
  · intro other found isThere
    rcases update_eq_some isThere with ⟨rfl, rfl⟩ | before
    · exact Or.inr (Or.inl (List.mem_append_right _
        (List.mem_singleton.2 rfl)))
    · rcases intact.accounted other found before with
        wasThere | isMade | isOwn
      · exact Or.inl wasThere
      · exact Or.inr (Or.inl (List.mem_append_left _ isMade))
      · exact Or.inr (Or.inr isOwn)

theorem stable_intact (first : Entries) (own : Path → Entry → Prop) :
    Stable (Intact first own) :=
  stable_of_create fun _ _ entry intact free => intact.createOther free entry

theorem Intact.interfere
    (intact : Intact first own world) (creates : OnlyCreates changes) :
    Intact first own (world.interfere changes) :=
  stable_intact first own world changes creates intact

theorem stable_extends (files : Entries) :
    Stable fun world => Extends files world.files := by
  apply stable_of_create
  intro world place entry extension free
  exact extension.trans (extends_update free entry)

theorem extends_interfere (creates : OnlyCreates changes) :
    Extends world.files (world.interfere changes).files :=
  stable_extends world.files world changes creates Extends.refl

/-! ## Rules -/

variable {raised : Failure → World → Prop}

theorem ends_query
    {returned : Value → World → Prop} {read : Entries → Except Errno Value}
    (raises : ∀ errno, raised (fail errno) (start.interfere event.changes))
    (returns : ∀ value,
      read (start.interfere event.changes).files = .ok value →
        returned value (start.interfere event.changes)) :
    Ends (query fail event read) start returned raised := by
  rw [Ends, query]
  cases event.fault with
  | some errno => exact raises errno
  | none =>
      cases found : read (start.interfere event.changes).files with
      | error errno => exact raises errno
      | ok value => exact returns value found

theorem ends_make
    {returned : PUnit → World → Prop} {act : Entries → Except Errno Entries}
    (raises : ∀ errno, event.fault = some errno ∨
        event.fault = none ∧
          act (start.interfere event.changes).files = .error errno →
      raised (fail errno) (start.interfere event.changes))
    (returns : ∀ files, event.fault = none →
      act (start.interfere event.changes).files = .ok files →
        returned ⟨⟩ { start.interfere event.changes with files }) :
    Ends (make fail event act) start returned raised := by
  rw [Ends, make]
  cases isFault : event.fault with
  | some errno => exact raises errno (Or.inl isFault)
  | none =>
      cases made : act (start.interfere event.changes).files with
      | error errno => exact raises errno (Or.inr ⟨isFault, made⟩)
      | ok files => exact returns files isFault made

theorem ends_perform
    {returned : PUnit → World → Prop}
    {act : Entries → Except Errno (Entries × Act)}
    (raises : ∀ errno, raised (fail errno) (start.interfere event.changes))
    (returns : ∀ files done,
      act (start.interfere event.changes).files = .ok (files, done) →
        returned ⟨⟩
          { start.interfere event.changes with
            files, acts := (start.interfere event.changes).acts ++ [done] }) :
    Ends (perform fail event act) start returned raised := by
  rw [Ends, perform]
  cases event.fault with
  | some errno => exact raises errno
  | none =>
      cases made : act (start.interfere event.changes).files with
      | error errno => exact raises errno
      | ok result => exact returns result.1 result.2 made

/-- A copy which fails has made nothing, or some file. -/
theorem ends_copyFile
    {limit : Nat} {source destination : Path}
    {returned : PUnit → World → Prop}
    (raises : ∀ errno, raised (fail errno) (start.interfere event.changes))
    (leaves : ∀ errno bytes files,
      create (start.interfere event.changes).files limit destination
          { node := .regular bytes, stamp := event.stamp } = .ok files →
        raised (fail errno) { start.interfere event.changes with files })
    (returns : ∀ bytes files,
      readFile (start.interfere event.changes).files limit source =
          .ok bytes →
        create (start.interfere event.changes).files limit destination
            { node := .regular bytes, stamp := event.stamp } = .ok files →
          returned ⟨⟩ { start.interfere event.changes with files }) :
    Ends (copyFile fail event limit source destination) start returned
      raised := by
  rw [Ends, copyFile]
  cases isRead : readFile (start.interfere event.changes).files limit
      source with
  | error errno => exact raises errno
  | ok bytes =>
      cases event.fault with
      | none =>
          cases made : create (start.interfere event.changes).files limit
              destination { node := .regular bytes, stamp := event.stamp } with
          | error errno =>
              simp only [made, if_true]
              exact raises errno
          | ok files =>
              simp only [made, if_true]
              exact returns bytes files isRead made
      | some fault =>
          cases event.written with
          | none => exact raises fault
          | some written =>
              cases made : create (start.interfere event.changes).files limit
                  destination
                  { node := .regular written, stamp := event.stamp } with
              | error errno =>
                  simp only [reduceCtorEq, if_false, Option.getD_some, made]
                  exact raises errno
              | ok files =>
                  simp only [reduceCtorEq, if_false, Option.getD_some, made]
                  exact leaves fault written files made

end Intact

/-! ## What calls keep -/

section Stable

variable {holds kept : World → Prop} {start : World} {event : Event}
  {fail : Errno → Failure}

theorem Stable.and (first : Stable holds) (second : Stable kept) :
    Stable fun world => holds world ∧ kept world :=
  fun world changes creates both =>
    ⟨first world changes creates both.1, second world changes creates both.2⟩

/-- What a call has read is still there. -/
theorem ends_query_stable
    {read : Entries → Except Errno Value} (stable : Stable holds)
    (creates : OnlyCreates event.changes) (isHeld : holds start) :
    Ends (query fail event read) start
      (fun value after => holds after ∧ read after.files = .ok value)
      (fun _ after => holds after) := by
  apply ends_query
  · intro errno
    exact stable _ _ creates isHeld
  · intro value found
    exact ⟨stable _ _ creates isHeld, found⟩

theorem keeps_query
    {read : Entries → Except Errno Value} (stable : Stable holds)
    (creates : OnlyCreates event.changes) :
    Keeps holds (query fail event read) := by
  intro start isHeld
  exact (ends_query_stable stable creates isHeld).mono
    (fun _ _ both => both.1) fun _ _ later => later

theorem keeps_make_create
    {limit : Nat} {path : Path} {entry : Entry} (stable : Stable holds)
    (creates : OnlyCreates event.changes)
    (makes : ∀ world place, holds world → world.files place = none →
      holds { world with
        files := Function.update world.files place (some entry) }) :
    Keeps holds
      (make fail event fun files => create files limit path entry) := by
  intro start isHeld
  apply ends_make
  · intro errno _
    exact stable _ _ creates isHeld
  · intro files _ made
    rcases create_eq_ok_iff.1 made with ⟨place, -, free, rfl⟩
    exact makes _ place (stable _ _ creates isHeld) free

end Stable

end Sluicery.Library.FileSystem
