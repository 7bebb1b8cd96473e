import Sluicery.Storage.Local

/-!
# Local operations never overwrite

While others create files between the calls, `publish`, `move` and
`hardlink_from` leave every entry that they have not made themselves.  The
entry of a destination is the whole file, or it is not theirs; only a publish
whose source is a symbolic link puts the link there instead of the file.
-/

namespace Sluicery.Storage.Local

open Sluicery.Library Sluicery.Library.Raising Sluicery.Library.FileSystem

/-! ## Calls which only read -/

section Reading

variable {adapter : LocalStorageAdapter} {holds : World → Prop}
  {event : Event} {path : Path}

theorem keeps_statPath
    (stable : Stable holds) (creates : OnlyCreates event.changes) :
    Keeps holds (statPath adapter event path) :=
  keeps_query stable creates

theorem keeps_lstatPath
    (stable : Stable holds) (creates : OnlyCreates event.changes) :
    Keeps holds (lstatPath adapter event path) :=
  keeps_query stable creates

/-- A handler of an `OSError` raises every other exception again. -/
theorem keeps_onOs
    {handler : Errno → Operation Value}
    (caught : ∀ errno, Keeps holds (handler errno)) (failure : Failure) :
    Keeps holds
      (match failure with
      | .os errno => handler errno
      | _ => throw failure) := by
  cases failure with
  | os errno => exact caught errno
  | operation error => exact keeps_throw _
  | path message => exact keeps_throw _
  | value => exact keeps_throw _
  | loop => exact keeps_throw _

theorem keeps_ignoreMissing (failure : Failure) :
    Keeps holds (ignoreMissing failure) :=
  keeps_onOs (fun _ => (keeps_pure _).ite (keeps_throw _)) failure

theorem keeps_pathExists
    (stable : Stable holds) (creates : OnlyCreates event.changes) :
    Keeps holds (pathExists adapter event path) := by
  apply Keeps.tryCatch _ keeps_ignoreMissing
  apply (keeps_statPath stable creates).bind
  intro entry
  exact keeps_pure _

theorem keeps_isFile
    (stable : Stable holds) (creates : OnlyCreates event.changes) :
    Keeps holds (isFile adapter event path) := by
  apply Keeps.tryCatch _ keeps_ignoreMissing
  apply (keeps_statPath stable creates).bind
  intro entry
  exact keeps_pure _

theorem keeps_isDir
    (stable : Stable holds) (creates : OnlyCreates event.changes) :
    Keeps holds (isDir adapter event path) := by
  apply Keeps.tryCatch _ keeps_ignoreMissing
  apply (keeps_statPath stable creates).bind
  intro entry
  exact keeps_pure _

theorem keeps_lexists
    (stable : Stable holds) (creates : OnlyCreates event.changes) :
    Keeps holds (lexists adapter event path) := by
  apply Keeps.tryCatch
  · apply (keeps_lstatPath stable creates).bind
    intro entry
    exact keeps_pure _
  · exact keeps_onOs fun _ => keeps_pure _

theorem keeps_sha256Path
    (stable : Stable holds) (creates : OnlyCreates event.changes) :
    Keeps holds (sha256Path adapter event path) := by
  apply (keeps_query stable creates).bind
  intro bytes
  exact keeps_pure _

/-- The bytes which have been hashed. -/
theorem ends_sha256Path
    {happens : PublishStep → Event} {start : World} (stable : Stable holds)
    (creates : ∀ step, OnlyCreates (happens step).changes)
    (isHeld : holds start) :
    Ends (sha256Path adapter (happens .hashSource) path) start
      (fun hash after =>
        sha256Path adapter (happens .hashSource) path start =
            .ok hash after ∧
          holds after ∧
          ∃ bytes, readFile after.files adapter.limit path = .ok bytes)
      (fun _ after => holds after) := by
  apply Ends.with_eq
  rw [sha256Path, ends_bind]
  apply (ends_query_stable stable (creates _) isHeld).mono
  · rintro bytes after ⟨later, isRead⟩
    exact ⟨later, bytes, isRead⟩
  · exact fun _ _ later => later

theorem keeps_validated (rel : String) (allowEmpty : Bool) :
    Keeps holds (validated rel allowEmpty) := by
  rw [validated]
  split
  · exact keeps_throw _
  · exact keeps_pure _

theorem keeps_path
    (stable : Stable holds) (creates : OnlyCreates event.changes)
    (rel : String) (allowEmpty : Bool) :
    Keeps holds (adapter.path event rel allowEmpty) := by
  apply (keeps_validated rel allowEmpty).bind
  intro normalized
  apply (keeps_query stable creates).bind
  intro path
  exact (keeps_pure _).ite (keeps_throw _)

theorem keeps_noFollowPath
    (stable : Stable holds) (creates : OnlyCreates event.changes)
    (rel : String) :
    Keeps holds (adapter.noFollowPath event rel) := by
  apply (keeps_validated rel false).bind
  intro normalized
  apply Keeps.bind
  · apply (keeps_query stable creates).tryCatch
    exact keeps_onOs fun _ => keeps_throw _
  · intro parent
    exact (keeps_pure _).ite (keeps_throw _)

end Reading

/-! ## Directories -/

/-- New directories change nothing. -/
def AdmitsDirectories (holds : World → Prop) : Prop :=
  ∀ world place entry, entry.node = .directory → world.files place = none →
    holds world →
      holds { world with
        files := Function.update world.files place (some entry) }

section Directories

variable {adapter : LocalStorageAdapter} {holds : World → Prop}

theorem keeps_mkdir
    {event : Event} (stable : Stable holds)
    (admits : AdmitsDirectories holds) (creates : OnlyCreates event.changes)
    (path : Path) :
    Keeps holds (mkdir adapter event path) :=
  keeps_make_create stable creates fun world place isHeld free =>
    admits world place _ rfl free isHeld

theorem keeps_existOk
    {event : Event} (stable : Stable holds)
    (creates : OnlyCreates event.changes) (path : Path) (failure : Failure) :
    Keeps holds (existOk adapter event path failure) := by
  apply keeps_onOs
  intro errno
  apply (keeps_isDir stable creates).bind
  intro isThere
  exact (keeps_pure _).ite (keeps_throw _)

theorem keeps_mkdirParents
    {makes looks : Nat → Bool → Event} (stable : Stable holds)
    (admits : AdmitsDirectories holds)
    (makesCreate : ∀ depth again, OnlyCreates (makes depth again).changes)
    (looksCreate : ∀ depth again, OnlyCreates (looks depth again).changes)
    (depth : Nat) (path : Path) :
    Keeps holds (mkdirParents adapter makes looks depth path) := by
  induction depth generalizing path with
  | zero =>
      apply (keeps_mkdir stable admits (makesCreate _ _) path).tryCatch
      intro failure
      split
      · exact keeps_throw _
      · exact keeps_existOk stable (looksCreate _ _) path failure
  | succ depth induction =>
      apply (keeps_mkdir stable admits (makesCreate _ _) path).tryCatch
      intro failure
      split
      · apply (induction path.dropLast).bind
        intro _
        apply (keeps_mkdir stable admits (makesCreate _ _) path).tryCatch
        intro failure
        split
        · exact keeps_throw _
        · exact keeps_existOk stable (looksCreate _ _) path failure
      · exact keeps_existOk stable (looksCreate _ _) path failure

end Directories

/-! ## Publishing -/

/-- The path which the destination of a publish is resolved to. -/
def IsFinalPath (adapter : LocalStorageAdapter)
    (happens : PublishStep → Event) (first : Entries) (destRel : String)
    (finalPath : Path) : Prop :=
  ∃ normalized middle, validateRelativePath destRel false = .ok normalized ∧
    adapter.path (happens .resolve) normalized false { files := first } =
      .ok finalPath middle

/-- A place with the temporary name of a final path. -/
def IsTemporary (hex : String) (finalPath place : Path) : Prop :=
  ∃ name, finalPath.getLast? = some name ∧
    place.getLast? = some (temporaryName name hex)

/-- What a publish may leave besides the destination. -/
def Aside (hex : String) (finalPath place : Path) (entry : Entry) : Prop :=
  entry.node = .directory ∨ IsTemporary hex finalPath place

/-- `publish` up to the call of `os.link`. -/
def beforeLink (adapter : LocalStorageAdapter) (happens : PublishStep → Event)
    (src : Path) (destRel : String) : Operation PUnit := do
  let normalized ← validated destRel
  let finalPath ← adapter.path (happens .resolve) normalized
  let _ ← isFile adapter (happens .isFile) src
  let _ ← pathExists adapter (happens .existsBefore) finalPath
  mkdirParents adapter (fun depth again => happens (.mkdir depth again))
    (fun depth again => happens (.isDir depth again))
    finalPath.dropLast.length finalPath.dropLast
  let _ ← statPath adapter (happens .statSource) src
  let _ ← sha256Path adapter (happens .hashSource) src
  pure ⟨⟩

/-- `os.link` meets a symbolic link, and no error sends it to the copy. -/
def MeetsLink (adapter : LocalStorageAdapter) (happens : PublishStep → Event)
    (src : Path) (world : World) : Prop :=
  IsSymlink (world.interfere (happens .link).changes).files adapter.limit
      src ∧
    ∀ errno, (happens .link).fault = some errno →
      errno ∉ hardlinkFallbackErrnos

/-- When `publish` calls `os.link`, the source is a symbolic link. -/
def LinksSymlink (adapter : LocalStorageAdapter)
    (happens : PublishStep → Event) (first : Entries) (src : Path)
    (destRel : String) : Prop :=
  ∃ world,
    beforeLink adapter happens src destRel { files := first } =
      .ok ⟨⟩ world ∧ MeetsLink adapter happens src world

/-- The staged entry is at the destination, and the source is kept. -/
structure Placed (adapter : LocalStorageAdapter) (hex : String)
    (first : Entries) (src finalPath place : Path) (entry : Entry)
    (bytes : List UInt8) (after : World) : Prop where
  located : locate after.files adapter.limit finalPath = .ok place
  holds : after.files place = some entry
  source : readFile after.files adapter.limit src = .ok bytes
  /-- Nothing was at the destination, nor did others create anything there. -/
  wasFree : first place = none ∧ ∀ made ∈ after.created, made.1 ≠ place
  intact : Intact first (fun other entry =>
    Aside hex finalPath other entry ∨ other = place) after

/-- The staged file is at its place, and nothing else was ever there. -/
structure Staged (first : Entries) (own : Path → Entry → Prop)
    (moment : Entries) (place : Path) (entry : Entry) (world : World) :
    Prop where
  intact : Intact first own world
  earlier : Extends first moment
  later : Extends moment world.files
  wasFree : moment place = none
  isThere : world.files place = some entry
  notMade : ∀ made ∈ world.created, made.1 ≠ place

theorem stable_staged
    (first : Entries) (own : Path → Entry → Prop) (moment : Entries)
    (place : Path) (entry : Entry) :
    Stable (Staged first own moment place entry) := by
  apply stable_of_create
  intro world other made staged free
  constructor
  · exact staged.intact.createOther free made
  · exact staged.earlier
  · exact staged.later.trans (extends_update free made)
  · exact staged.wasFree
  · exact extends_update free made _ _ staged.isThere
  · intro new member same
    rcases List.mem_append.1 member with earlier | isNew
    · exact staged.notMade new earlier same
    · rw [List.mem_singleton.1 isNew] at same
      have here : other = place := same
      rw [here, staged.isThere] at free
      cases free

section Publish

variable {adapter : LocalStorageAdapter} {happens : PublishStep → Event}
  {first : Entries} {own : Path → Entry → Prop} {start : World}
  {hex : String} {src finalPath tempPath place : Path}
  {bytes : List UInt8}

/-- An own entry is made at a free place. -/
theorem staged_of_create
    {world : World} {entry : Entry} {files : Entries}
    (intact : Intact first own world)
    (isOwn : ∀ place, place.getLast? = tempPath.getLast? → own place entry)
    (notParent : tempPath.getLast? ≠ some "..")
    (made : create world.files adapter.limit tempPath entry = .ok files) :
    ∃ place, locate world.files adapter.limit tempPath = .ok place ∧
      Staged first own world.files place entry { world with files } := by
  rcases create_eq_ok_iff.1 made with ⟨place, located, free, rfl⟩
  exists place
  constructor
  · exact located
  · constructor
    · exact intact.update free
        (isOwn place (getLast?_of_locate located notParent))
    · exact intact.kept
    · exact extends_update free entry
    · exact free
    · exact Function.update_self _ _ _
    · exact (intact.wasFree free).2

/-- What has been staged is the file, unless it is the link which was met. -/
structure StagedFrom (adapter : LocalStorageAdapter)
    (happens : PublishStep → Event) (first : Entries)
    (own : Path → Entry → Prop) (src tempPath : Path) (bytes : List UInt8)
    (start : World) (moment : Entries) (place : Path) (entry : Entry)
    (world : World) : Prop where
  staged : Staged first own moment place entry world
  source : readFile moment adapter.limit src = .ok bytes
  located : locate moment adapter.limit tempPath = .ok place
  notTree : entry.node ≠ .directory
  isFile_iff : entry.node = .regular bytes ↔
    ¬ MeetsLink adapter happens src start

/-- No error of the call itself sends a symbolic link to the copy. -/
theorem notFallback_of_link
    {files : Entries} {destination : Path} {errno : Errno}
    (isSymlink : IsSymlink files adapter.limit src)
    (fails : link files adapter.limit src destination = .error errno) :
    errno ∉ hardlinkFallbackErrnos := by
  rcases isSymlink with ⟨entry, target, looked, isLink⟩
  have notTree : entry.node ≠ .directory := by
    rw [isLink]
    simp
  rw [link_of_lstat looked notTree] at fails
  rcases errno_of_create fails with rfl | rfl | rfl | rfl <;> decide

/-- After staging, there is a second entry for the source, or its file. -/
theorem ends_stage
    (creates : ∀ step, OnlyCreates (happens step).changes)
    (isOwn : ∀ place entry, place.getLast? = tempPath.getLast? →
      own place entry)
    (notParent : tempPath.getLast? ≠ some "..")
    (intact : Intact first own start)
    (isRead : readFile start.files adapter.limit src = .ok bytes) :
    Ends (stageWithoutRemovingSource adapter happens src tempPath) start
      (fun _ after => ∃ moment place entry,
        StagedFrom adapter happens first own src tempPath bytes start moment
          place entry after)
      (fun _ after => Intact first own after) := by
  rw [stageWithoutRemovingSource, ends_tryCatch]
  have linked := intact.interfere (creates .link)
  have stillRead := (extends_interfere (creates .link)).readFile isRead
  apply ends_make
  · intro errno comes
    dsimp only
    rw [ends_ite]
    split
    · next falls =>
        have notMet : ¬ MeetsLink adapter happens src start := by
          rintro ⟨isSymlink, notFallback⟩
          rcases comes with isFault | ⟨-, fails⟩
          · exact notFallback errno isFault falls
          · exact notFallback_of_link isSymlink fails falls
        have copied := linked.interfere (creates .copy)
        have isSource := (extends_interfere (creates .copy)).readFile stillRead
        apply ends_copyFile
        · intro _
          exact copied
        · intro _ written files made
          rcases staged_of_create copied (isOwn · _) notParent made with
            ⟨_, _, staged⟩
          exact staged.intact
        · intro found files isFound made
          rw [isSource] at isFound
          cases isFound
          rcases staged_of_create copied (isOwn · _) notParent made with
            ⟨place, located, staged⟩
          exact ⟨_, place, _, staged, isSource, located,
            Node.noConfusion, iff_of_true rfl notMet⟩
    · exact linked
  · intro files noFault made
    simp only [link, bind_eq_ok_iff] at made
    rcases made with ⟨entry, looked, result⟩
    split at result
    · cases result
    · next notTree =>
        rcases staged_of_create linked (isOwn · _) notParent result with
          ⟨place, located, staged⟩
        refine ⟨_, place, entry, staged, stillRead, located, notTree, ?_⟩
        constructor
        · rintro isRegular ⟨⟨other, target, again, isLink⟩, -⟩
          rw [looked] at again
          cases again
          rw [isRegular] at isLink
          cases isLink
        · intro notMet
          rcases readFile_eq_ok_iff.1 stillRead with
            ⟨source, followed, isRegular⟩
          have notLink : ∀ target, entry.node ≠ .symlink target := by
            intro target isLink
            refine notMet ⟨⟨entry, target, looked, isLink⟩, ?_⟩
            intro errno isFault
            rw [noFault] at isFault
            cases isFault
          rw [← eq_of_lstat looked notLink followed]
          exact isRegular

/-- What a publish comes to, if `met` says that it has met a link. -/
def Comes (adapter : LocalStorageAdapter) (hex : String) (first : Entries)
    (src finalPath : Path) (met : Prop) (result : PublishResult)
    (after : World) : Prop :=
  if result.success then
    ∃ place entry bytes,
      Placed adapter hex first src finalPath place entry bytes after ∧
        (entry.node = .regular bytes ↔ ¬ met)
  else Intact first (Aside hex finalPath) after

/-- The staged entry takes the place of the destination, which is free. -/
theorem placed_of_rename
    {moment next : Entries} {world : World} {entry : Entry} {done : Act}
    (isTemp : temporaryPath finalPath hex = some tempPath)
    (staged : Staged first (Aside hex finalPath) moment place entry world)
    (isSource : readFile moment adapter.limit src = .ok bytes)
    (located : locate moment adapter.limit tempPath = .ok place)
    (notTree : entry.node ≠ .directory)
    (renamed : renameNoReplace world.files adapter.limit tempPath finalPath =
      .ok (next, done)) :
    ∃ place, Placed adapter hex first src finalPath place entry bytes
      { world with files := next, acts := world.acts ++ [done] } := by
  rcases renameNoReplace_eq_ok renamed with
    ⟨start, found, finish, isStart, isThere, isFinish, free, -, result⟩
  rw [staged.later.locate located] at isStart
  cases isStart
  rw [staged.isThere] at isThere
  cases isThere
  have same := result notTree
  subst same
  have extension : Extends moment
      (Function.update (Function.update world.files place none) finish
        (some entry)) := by
    intro other found isFound
    apply move_elsewhere free (staged.later other found isFound)
    rintro rfl
    rw [staged.wasFree] at isFound
    cases isFound
  exists finish
  constructor
  · -- The directory of the destination was there before the staged entry.
    rcases Option.map_eq_some_iff.1 isTemp with ⟨name, isName, rfl⟩
    have beside : finalPath.dropLast =
        (finalPath.dropLast ++ [temporaryName name hex]).dropLast := by
      rw [List.dropLast_concat]
    have notEmpty : finalPath ≠ [] := by
      rintro rfl
      cases isName
    rcases locate_beside located beside (by simp) notEmpty with
      ⟨there, isPlace⟩
    have again := staged.later.locate isPlace
    rw [isFinish] at again
    cases again
    exact extension.locate isPlace
  · exact Function.update_self _ _ _
  · exact extension.readFile isSource
  · exact staged.intact.wasFree free
  · constructor
    · exact staged.earlier.trans extension
    · intro made member
      exact move_elsewhere free (staged.intact.created made member)
        (staged.notMade made member)
    · intro other found isFound
      rcases move_eq_some isFound with ⟨rfl, rfl⟩ | before
      · exact Or.inr (Or.inr (Or.inr rfl))
      · rcases staged.intact.accounted other found before with
          wasFirst | isMade | isOwn
        · exact Or.inl wasFirst
        · exact Or.inr (Or.inl isMade)
        · exact Or.inr (Or.inr (Or.inl isOwn))

theorem ends_finalize
    {moment : Entries} {entry : Entry} {met : Prop}
    (creates : ∀ step, OnlyCreates (happens step).changes)
    (isTemp : temporaryPath finalPath hex = some tempPath)
    (staged : Staged first (Aside hex finalPath) moment place entry start)
    (isSource : readFile moment adapter.limit src = .ok bytes)
    (located : locate moment adapter.limit tempPath = .ok place)
    (notTree : entry.node ≠ .directory)
    (isFile_iff : entry.node = .regular bytes ↔ ¬ met)
    (normalized tempRel : String) (sourceSize : Nat) (sourceHash : String) :
    Ends (finalize adapter happens tempPath finalPath normalized tempRel
        sourceSize sourceHash false) start
      (Comes adapter hex first src finalPath met)
      (fun _ after => Intact first (Aside hex finalPath) after) := by
  have waiting := stable_staged _ _ _ _ _ _ _ (creates .rename) staged
  simp only [finalize, ends_tryCatch, Bool.false_eq_true, if_false, ends_bind]
  apply ends_perform
  · intro errno
    split
    · exact waiting.intact
    · exact waiting.intact
  · intro next done renamed
    rcases placed_of_rename isTemp waiting isSource located notTree
      renamed with ⟨finish, placed⟩
    exact ⟨finish, entry, bytes, placed, isFile_iff⟩

theorem keeps_isVerified
    {holds : World → Prop} (stable : Stable holds)
    (creates : ∀ step, OnlyCreates (happens step).changes)
    (tempPath : Path) (sourceSize : Nat) (sourceHash : String) :
    Keeps holds
      (isVerified adapter happens tempPath sourceSize sourceHash) := by
  apply (keeps_statPath stable (creates _)).bind
  intro staged
  apply Keeps.ite
  · apply (keeps_sha256Path stable (creates _)).bind
    intro hash
    exact keeps_pure _
  · exact keeps_pure _

theorem temporaryName_ne (name hex : String) :
    temporaryName name hex ≠ name := by
  intro same
  have lengths := congrArg String.length same
  have mark : ".sluicery-tmp-".length = 14 := by decide
  rw [temporaryName, String.length_append, String.length_append, mark]
    at lengths
  omega

/-- The temporary name does not lead to the parent. -/
theorem temporaryName_ne_parent (name hex : String) :
    temporaryName name hex ≠ ".." := by
  intro same
  have lengths := congrArg String.length same
  have mark : ".sluicery-tmp-".length = 14 := by decide
  have parent : "..".length = 2 := by decide
  rw [temporaryName, String.length_append, String.length_append, mark,
    parent] at lengths
  omega

theorem isTemporary_of_temporaryPath
    (isTemp : temporaryPath finalPath hex = some tempPath) :
    IsTemporary hex finalPath tempPath ∧ tempPath.getLast? ≠ some ".." := by
  rcases Option.map_eq_some_iff.1 isTemp with ⟨name, isName, rfl⟩
  have last : (finalPath.dropLast ++ [temporaryName name hex]).getLast? =
      some (temporaryName name hex) := by
    rw [List.getLast?_append, List.getLast?_singleton, Option.some_or]
  constructor
  · exact ⟨name, isName, last⟩
  · rw [last]
    exact fun same =>
      temporaryName_ne_parent name hex (Option.some.inj same)

theorem ends_publishStaged
    (creates : ∀ step, OnlyCreates (happens step).changes)
    (isTemp : temporaryPath finalPath hex = some tempPath)
    (intact : Intact first (Aside hex finalPath) start)
    (isRead : readFile start.files adapter.limit src = .ok bytes)
    (normalized tempRel : String) (sourceSize : Nat) (sourceHash : String) :
    Ends (publishStaged adapter happens src tempPath finalPath normalized
        tempRel sourceSize sourceHash false) start
      (Comes adapter hex first src finalPath
        (MeetsLink adapter happens src start))
      (fun _ after => Intact first (Aside hex finalPath) after) := by
  rcases isTemporary_of_temporaryPath isTemp with ⟨isTemporary, notParent⟩
  have isOwn : ∀ place entry, place.getLast? = tempPath.getLast? →
      Aside hex finalPath place entry := by
    intro place entry same
    rcases isTemporary with ⟨name, isName, isLast⟩
    exact Or.inr ⟨name, isName, same.trans isLast⟩
  rw [publishStaged, ends_bind]
  apply (ends_stage creates isOwn notParent intact isRead).mono _
    fun _ _ left => left
  rintro - middle ⟨moment, place, entry, stagedFrom⟩
  have stable := stable_staged first (Aside hex finalPath) moment place entry
  apply (keeps_isVerified stable creates _ _ _).ends_bind stagedFrom.staged
  · intro verified later isStaged
    rw [ends_ite]
    split
    · apply (keeps_pathExists stable (creates _)).ends_bind isStaged
      · intro isTaken last isLast
        rw [ends_ite]
        split
        · exact isLast.intact
        · exact ends_finalize creates isTemp isLast stagedFrom.source
            stagedFrom.located stagedFrom.notTree stagedFrom.isFile_iff
            _ _ _ _
      · exact fun _ _ failed => failed.intact
    · apply (keeps_statPath stable (creates _)).ends_bind isStaged
      · exact fun _ _ unverified => unverified.intact
      · exact fun _ _ failed => failed.intact
  · exact fun _ _ failed => failed.intact

theorem ends_publishFailed
    {met : Prop} (creates : ∀ step, OnlyCreates (happens step).changes)
    (intact : Intact first (Aside hex finalPath) start)
    (tempPath : Path) (normalized tempRel : String) (failure : Failure) :
    Ends (publishFailed adapter happens tempPath normalized tempRel failure)
      start (Comes adapter hex first src finalPath met)
      (fun _ after => Intact first (Aside hex finalPath) after) := by
  have stable := stable_intact first (Aside hex finalPath)
  have named : ∀ (size : Option Nat) (errno : Errno) (middle : World),
      Intact first (Aside hex finalPath) middle →
        Ends (do
            let isNamed ←
              pathExists adapter (happens .namesFailed) tempPath
            pure
              { success := false
                destRel := normalized
                size
                classification := classificationForOsError errno
                reasonCode := "publish_failed"
                message :=
                  "publish に失敗しました。一時ファイルがあれば自動削除していません"
                temporaryRel := if isNamed then some tempRel else none })
          middle (Comes adapter hex first src finalPath met)
          (fun _ after => Intact first (Aside hex finalPath) after) := by
    intro size errno middle isIntact
    exact (keeps_pathExists stable (creates _)).ends_bind isIntact
      (fun _ _ later => later) fun _ _ later => later
  cases failure with
  | os errno =>
      apply (keeps_pathExists stable (creates _)).ends_bind intact
      · intro isStaged middle isIntact
        dsimp only
        rw [ends_ite]
        split
        · apply (keeps_statPath stable (creates _)).ends_bind isIntact
          · intro staged later laterIntact
            exact named _ errno later laterIntact
          · exact fun _ _ later => later
        · exact named none errno middle isIntact
      · exact fun _ _ later => later
  | operation error => exact intact
  | path message => exact intact
  | value => exact intact
  | loop => exact intact

theorem admitsDirectories_aside :
    AdmitsDirectories (Intact first (Aside hex finalPath)) := by
  intro world place entry isTree free intact
  exact intact.update free (Or.inl isTree)

theorem ends_publishThrough
    {met : Prop} (creates : ∀ step, OnlyCreates (happens step).changes)
    (isTemp : temporaryPath finalPath hex = some tempPath)
    (intact : Intact first (Aside hex finalPath) start)
    (meets : ∀ source measured hash staging,
      statPath adapter (happens .statSource) src start =
          .ok source measured →
        sha256Path adapter (happens .hashSource) src measured =
          .ok hash staging →
        (MeetsLink adapter happens src staging ↔ met))
    (normalized tempRel : String) :
    Ends (publishThrough adapter happens src tempPath finalPath normalized
        tempRel false) start
      (Comes adapter hex first src finalPath met)
      (fun _ after => Intact first (Aside hex finalPath) after) := by
  have stable := stable_intact first (Aside hex finalPath)
  have fails : ∀ (failure : Failure) (middle : World),
      Intact first (Aside hex finalPath) middle →
        Intact first (Aside hex finalPath) middle := fun _ _ later => later
  rw [publishThrough, ends_bind]
  apply ((keeps_statPath stable (creates _)).ends_eq intact).mono _ fails
  rintro source measured ⟨isMeasured, isIntact⟩
  rw [ends_bind]
  apply (ends_sha256Path stable creates isIntact).mono _ fails
  rintro hash staging ⟨isHashed, stagingIntact, bytes, isRead⟩
  rw [ends_tryCatch]
  apply (ends_publishStaged creates isTemp stagingIntact isRead _ _ _ _).mono
  · intro result after comes
    rwa [propext (meets source measured hash staging isMeasured isHashed)]
      at comes
  · intro failure last lastIntact
    exact ends_publishFailed creates lastIntact _ _ _ failure

theorem ends_publishTo
    (creates : ∀ step, OnlyCreates (happens step).changes)
    {normalized destRel : String}
    (isNormal : validateRelativePath destRel false = .ok normalized)
    (resolved : adapter.path (happens .resolve) normalized false
      { files := first } = .ok finalPath start)
    (intact : Intact first (Aside hex finalPath) start) :
    Ends (publishTo adapter happens hex src finalPath normalized false) start
      (Comes adapter hex first src finalPath
        (LinksSymlink adapter happens first src destRel))
      (fun _ after => Intact first (Aside hex finalPath) after) := by
  have stable := stable_intact first (Aside hex finalPath)
  have fails : ∀ (failure : Failure) (middle : World),
      Intact first (Aside hex finalPath) middle →
        Intact first (Aside hex finalPath) middle := fun _ _ later => later
  rw [publishTo, ends_bind]
  apply ((keeps_isFile stable (creates _)).ends_eq intact).mono _ fails
  rintro isSource looked ⟨isLooked, isIntact⟩
  rw [ends_ite]
  split
  · rw [ends_bind]
    apply ((keeps_pathExists stable (creates _)).ends_eq isIntact).mono _
      fails
    rintro isTaken taken ⟨isFree, takenIntact⟩
    rw [ends_ite]
    split
    · exact (keeps_statPath stable (creates _)).ends_bind takenIntact
        (fun _ _ later => later) fails
    · rw [ends_bind]
      apply ((keeps_mkdirParents stable admitsDirectories_aside
        (fun _ _ => creates _) (fun _ _ => creates _) _ _).ends_eq
        takenIntact).mono _ fails
      rintro ⟨⟩ made ⟨isMade, madeIntact⟩
      split
      · exact madeIntact
      · next tempPath isTemp =>
          rw [ends_ite]
          split
          · apply ends_publishThrough creates isTemp madeIntact
            intro source measured hash staging isMeasured isHashed
            have reached : beforeLink adapter happens src destRel
                { files := first } = .ok ⟨⟩ staging := by
              simp only [beforeLink, validated, isNormal, bind, EStateM.bind,
                pure, EStateM.pure, resolved, isLooked, isFree, isMade,
                isMeasured, isHashed]
            constructor
            · exact fun met => ⟨staging, reached, met⟩
            · rintro ⟨other, again, met⟩
              rw [reached] at again
              cases again
              exact met
          · exact madeIntact
  · exact isIntact

/-- The directories that have been made. -/
def IsTree (_place : Path) (entry : Entry) : Prop :=
  entry.node = .directory

theorem admitsDirectories_isTree :
    AdmitsDirectories (Intact first IsTree) := by
  intro world place entry isTree free intact
  exact intact.update free isTree

/-- What has the name of the destination is not the temporary file. -/
theorem notTemporary_of_locate
    {files : Entries} (notParent : finalPath.getLast? ≠ some "..")
    (located : locate files adapter.limit finalPath = .ok place) :
    ¬ IsTemporary hex finalPath place := by
  rintro ⟨name, isName, isLast⟩
  rw [getLast?_of_locate located notParent, isName, Option.some.injEq]
    at isLast
  exact temporaryName_ne name hex isLast.symm

/-- A failed publish leaves nothing of its own at the destination. -/
structure Unpublished (adapter : LocalStorageAdapter)
    (happens : PublishStep → Event) (hex : String) (first : Entries)
    (destRel : String) (after : World) : Prop where
  intact : Intact first (fun place entry =>
    entry.node = .directory ∨
      ∃ finalPath, IsFinalPath adapter happens first destRel finalPath ∧
        IsTemporary hex finalPath place) after
  destination : ∀ finalPath place entry,
    IsFinalPath adapter happens first destRel finalPath →
      locate after.files adapter.limit finalPath = .ok place →
      after.files place = some entry →
        entry.node = .directory ∨ first place = some entry ∨
          (place, entry) ∈ after.created

theorem IsFinalPath.unique
    {destRel : String} {one other : Path}
    (isOne : IsFinalPath adapter happens first destRel one)
    (isOther : IsFinalPath adapter happens first destRel other) :
    one = other := by
  rcases isOne with ⟨normalized, middle, isNormal, resolved⟩
  rcases isOther with ⟨again, later, isAgain, resolvedAgain⟩
  rw [isNormal] at isAgain
  cases isAgain
  rw [resolved] at resolvedAgain
  cases resolvedAgain
  rfl

/-- A final path has been resolved. -/
theorem IsFinalPath.notParent
    {destRel : String}
    (isFinal : IsFinalPath adapter happens first destRel finalPath) :
    finalPath.getLast? ≠ some ".." := by
  rcases isFinal with ⟨normalized, middle, isNormal, resolved⟩
  intro last
  have member := List.mem_of_getLast? last
  have ends : Ends (adapter.path (happens .resolve) normalized false)
      { files := first } (fun path _ => ".." ∉ path) (fun _ _ => True) := by
    rw [LocalStorageAdapter.path, ends_bind, validated]
    split
    · exact trivial
    · rw [ends_pure, ends_bind]
      apply ends_query
      · exact fun _ => trivial
      · intro path walked
        rw [ends_ite]
        split
        · exact notParent_of_walk List.not_mem_nil walked
        · exact trivial
  rw [Ends, resolved] at ends
  exact ends member

theorem unpublished_of_intact
    {destRel : String} {after : World}
    (isFinal : IsFinalPath adapter happens first destRel finalPath)
    (intact : Intact first (Aside hex finalPath) after) :
    Unpublished adapter happens hex first destRel after where
  intact := intact.weaken fun place entry aside =>
    aside.imp_right fun isTemporary => ⟨finalPath, isFinal, isTemporary⟩
  destination other place entry isOther located isThere := by
    cases isFinal.unique isOther
    rcases intact.accounted place entry isThere with
      wasThere | isMade | isTree | isTemporary
    · exact Or.inr (Or.inl wasThere)
    · exact Or.inr (Or.inr isMade)
    · exact Or.inl isTree
    · exact absurd isTemporary
        (notTemporary_of_locate isFinal.notParent located)

theorem unpublished_of_isTree
    {destRel : String} {after : World} (intact : Intact first IsTree after) :
    Unpublished adapter happens hex first destRel after where
  intact := intact.weaken fun _ _ isTree => Or.inl isTree
  destination other place entry _ _ isThere := by
    rcases intact.accounted place entry isThere with
      wasThere | isMade | isTree
    · exact Or.inr (Or.inl wasThere)
    · exact Or.inr (Or.inr isMade)
    · exact Or.inl isTree

theorem ends_publish
    (creates : ∀ step, OnlyCreates (happens step).changes)
    (destRel : String) :
    Ends (publish adapter happens hex src destRel false) { files := first }
      (fun result after =>
        if result.success then
          ∃ finalPath place entry bytes,
            IsFinalPath adapter happens first destRel finalPath ∧
              Placed adapter hex first src finalPath place entry bytes after ∧
              (entry.node = .regular bytes ↔
                ¬ LinksSymlink adapter happens first src destRel)
        else Unpublished adapter happens hex first destRel after)
      (fun _ after => Unpublished adapter happens hex first destRel after) := by
  have intact : Intact first IsTree { files := first } := intact_start first
  rw [publish, ends_bind, validated]
  split
  · exact unpublished_of_isTree intact
  · next normalized isNormal =>
      rw [ends_pure, ends_bind]
      apply ((keeps_path (stable_intact first IsTree) (creates _) normalized
        false).ends_eq intact).mono
      · rintro finalPath middle ⟨resolved, isIntact⟩
        have isFinal : IsFinalPath adapter happens first destRel finalPath :=
          ⟨normalized, middle, isNormal, resolved⟩
        apply (ends_publishTo creates isNormal resolved
          (isIntact.weaken fun _ _ isTree => Or.inl isTree)).mono
        · intro result after comes
          rw [Comes] at comes
          split
          · next success =>
              rw [if_pos success] at comes
              rcases comes with ⟨place, entry, bytes, placed, isFile_iff⟩
              exact ⟨finalPath, place, entry, bytes, isFinal, placed,
                isFile_iff⟩
          · next failed =>
              rw [if_neg failed] at comes
              exact unpublished_of_intact isFinal comes
        · intro _ after isLeft
          exact unpublished_of_intact isFinal isLeft
      · exact fun _ _ later => unpublished_of_isTree later

end Publish

/-! ## Moving -/

/-- The paths between which a file is moved. -/
def IsMovePath (adapter : LocalStorageAdapter) (happens : MoveStep → Event)
    (first : Entries) (srcRel destRel : String) (src dest : Path) : Prop :=
  ∃ middle later,
    adapter.noFollowPath (happens .resolveSource) srcRel { files := first } =
        .ok src middle ∧
      prepareDestination adapter happens destRel middle = .ok dest later

/-- The file has gone from the source to the destination. -/
structure Moved (adapter : LocalStorageAdapter) (first : Entries)
    (src dest source destination : Path) (entry : Entry) (after : World) :
    Prop where
  fromSource : locate after.files adapter.limit src = .ok source
  toDestination : locate after.files adapter.limit dest = .ok destination
  isRegular : entry.isRegular = true
  /-- The file of the source was there, or others have created it. -/
  wasThere : first source = some entry ∨ (source, entry) ∈ after.created
  /-- Nothing was at the destination, nor did others create anything there. -/
  wasFree : first destination = none ∧
    ∀ made ∈ after.created, made.1 ≠ destination
  gone : after.files source = none
  holds : after.files destination = some entry
  kept : ∀ place found, place ≠ source →
    first place = some found ∨ (place, found) ∈ after.created →
      after.files place = some found
  accounted : ∀ place found, after.files place = some found →
    first place = some found ∨ (place, found) ∈ after.created ∨
      found.node = .directory ∨ place = destination

section Move

variable {adapter : LocalStorageAdapter} {happens : MoveStep → Event}
  {first : Entries} {start : World} {src dest : Path}

/-- A reported failure is raised. -/
theorem ends_reported
    {returned : Value → World → Prop} {raised : Failure → World → Prop}
    (fails : ∀ failure, raised failure start) (message reasonCode : String)
    (failure : Failure) :
    Ends (reported message reasonCode failure) start returned raised := by
  cases failure with
  | os errno => exact fails _
  | operation error => exact fails _
  | path message => exact fails _
  | value => exact fails _
  | loop => exact fails _

theorem keeps_reported
    {holds : World → Prop} (message reasonCode : String)
    (failure : Failure) :
    Keeps holds (reported message reasonCode failure : Operation Value) :=
  fun _ isHeld => ends_reported (fun _ => isHeld) message reasonCode failure

theorem keeps_prepareDestination
    {holds : World → Prop} (stable : Stable holds)
    (admits : AdmitsDirectories holds)
    (creates : ∀ step, OnlyCreates (happens step).changes)
    (destRel : String) :
    Keeps holds (prepareDestination adapter happens destRel) := by
  apply (keeps_path stable (creates _) destRel false).bind
  intro candidate
  apply Keeps.tryCatch _ fun failure => keeps_reported _ _ failure
  apply (keeps_mkdirParents stable admits (fun _ _ => creates _)
    (fun _ _ => creates _) _ _).bind
  intro _
  exact keeps_noFollowPath stable (creates _) destRel

/-- The source that has been checked is a regular file. -/
theorem ends_checkSource
    (creates : ∀ step, OnlyCreates (happens step).changes)
    (intact : Intact first IsTree start) :
    Ends (checkSource adapter happens src) start
      (fun _ after => Intact first IsTree after ∧ ∃ entry,
        lstat after.files adapter.limit src = .ok entry ∧
          entry.isRegular = true)
      (fun _ after => Intact first IsTree after) := by
  have stable := stable_intact first IsTree
  apply (keeps_lexists stable (creates _)).ends_bind intact
  · intro isThere middle isIntact
    rw [ends_ite]
    split
    · rw [ends_tryCatch, ends_bind]
      apply (ends_query_stable stable (creates _) isIntact).mono
      · rintro entry later ⟨laterIntact, found⟩
        rw [ends_ite]
        split
        · next isRegular => exact ⟨laterIntact, entry, found, isRegular⟩
        · exact laterIntact
      · intro failure later laterIntact
        exact ends_reported (fun _ => laterIntact) _ _ failure
    · exact isIntact
  · exact fun _ _ later => later

/-- The file of the source takes the place of the destination. -/
theorem moved_of_rename
    {next : Entries} {world : World} {entry : Entry} {done : Act}
    (intact : Intact first IsTree world)
    (found : lstat world.files adapter.limit src = .ok entry)
    (isRegular : entry.isRegular = true)
    (renamed : renameNoReplace world.files adapter.limit src dest =
      .ok (next, done)) :
    ∃ source destination, Moved adapter first src dest source destination
      entry { world with files := next, acts := world.acts ++ [done] } := by
  rcases renameNoReplace_eq_ok renamed with
    ⟨source, moving, destination, isSource, isThere, isDestination, free, -,
      result⟩
  rcases lstat_eq_ok_iff.1 found with ⟨place, located, atPlace⟩
  rw [isSource] at located
  cases located
  rw [isThere] at atPlace
  cases atPlace
  have notTree : entry.node ≠ .directory := by
    intro isTree
    rw [Entry.isRegular, isTree] at isRegular
    cases isRegular
  have same := result notTree
  subst same
  have notThere : source ≠ destination := by
    rintro rfl
    rw [isThere] at free
    cases free
  have notRegular : ∀ other kept, world.files other = some kept →
      kept.isRegular = false → Function.update
        (Function.update world.files source none) destination (some entry)
        other = some kept := by
    intro other kept isKept isOther
    apply move_elsewhere free isKept
    rintro rfl
    rw [isThere] at isKept
    cases isKept
    rw [isRegular] at isOther
    cases isOther
  exists source, destination
  constructor
  · exact locate_of_kept notRegular isSource
  · exact locate_of_kept notRegular isDestination
  · exact isRegular
  · rcases intact.accounted source entry isThere with
      wasThere | isMade | isTree
    · exact Or.inl wasThere
    · exact Or.inr isMade
    · exact absurd isTree notTree
  · exact intact.wasFree free
  · show Function.update (Function.update world.files source none)
      destination (some entry) source = none
    rw [Function.update_of_ne notThere, Function.update_self]
  · exact Function.update_self _ _ _
  · rintro other kept notSource (wasThere | isMade)
    · exact move_elsewhere free (intact.kept other kept wasThere) notSource
    · exact move_elsewhere free (intact.created _ isMade) notSource
  · intro other kept isKept
    rcases move_eq_some isKept with ⟨rfl, rfl⟩ | before
    · exact Or.inr (Or.inr (Or.inr rfl))
    · rcases intact.accounted other kept before with
        wasThere | isMade | isTree
      · exact Or.inl wasThere
      · exact Or.inr (Or.inl isMade)
      · exact Or.inr (Or.inr (Or.inl isTree))

theorem ends_move
    (creates : ∀ step, OnlyCreates (happens step).changes)
    (srcRel destRel : String) :
    Ends (move adapter happens srcRel destRel) { files := first }
      (fun _ after => ∃ src dest source destination entry,
        IsMovePath adapter happens first srcRel destRel src dest ∧
          Moved adapter first src dest source destination entry after)
      (fun _ after => Intact first IsTree after) := by
  have intact : Intact first IsTree { files := first } := intact_start first
  have stable := stable_intact first IsTree
  rw [move, ends_bind]
  apply ((keeps_noFollowPath stable (creates _) srcRel).ends_eq intact).mono
    _ fun _ _ later => later
  rintro src middle ⟨isSrc, isIntact⟩
  rw [ends_bind]
  apply ((keeps_prepareDestination stable admitsDirectories_isTree creates
    destRel).ends_eq isIntact).mono _ fun _ _ later => later
  rintro dest later ⟨isDest, laterIntact⟩
  rw [ends_bind]
  apply (ends_checkSource creates laterIntact).mono _ fun _ _ later => later
  rintro - checked ⟨checkedIntact, entry, found, isRegular⟩
  have both := stable.and (stable_extends checked.files)
  apply (keeps_lexists both (creates _)).ends_bind
    ⟨checkedIntact, Extends.refl⟩ _ fun _ _ looked => looked.1
  intro isTaken looked isLooked
  rw [ends_ite]
  split
  · exact isLooked.1
  · have waiting := both _ _ (creates .rename) isLooked
    rw [ends_tryCatch]
    apply ends_perform
    · intro errno
      exact ends_reported (fun _ => waiting.1) _ _ _
    · intro next done renamed
      rcases lstat_eq_ok_iff.1 found with ⟨place, located, isThere⟩
      have stillFound := lstat_eq_ok_iff.2
        ⟨place, waiting.2.locate located, waiting.2 place entry isThere⟩
      rcases moved_of_rename waiting.1 stillFound isRegular renamed with
        ⟨source, destination, moved⟩
      exact ⟨src, dest, source, destination, entry,
        ⟨middle, later, isSrc, isDest⟩, moved⟩

end Move

/-! ## Linking -/

/-- A whole file with the expected identity. -/
def IsExpected (adapter : LocalStorageAdapter) (expected : RemoteFile)
    (entry : Entry) : Prop :=
  ∃ bytes, entry.node = .regular bytes ∧
    expected.fileId = some (fileId entry) ∧
    expected.size = some (bytes.length : Int) ∧
    expected.hashes.lookup "sha256" = some (adapter.sha256 bytes)

/-- The paths between which a file is linked. -/
def IsLinkPath (adapter sourceAdapter : LocalStorageAdapter)
    (happens : HardlinkStep → Event) (first : Entries)
    (srcRel destRel : String) (source destination : Path) : Prop :=
  ∃ resolved candidate found made later last,
    sourceAdapter.noFollowPath (happens .resolveSource) srcRel
        { files := first } = .ok source resolved ∧
      adapter.path (happens .resolve) destRel false resolved =
        .ok candidate found ∧
      mkdirParents adapter (fun depth again => happens (.mkdir depth again))
          (fun depth again => happens (.isDir depth again))
          candidate.dropLast.length candidate.dropLast found =
        .ok made later ∧
      adapter.noFollowPath (happens .resolveDestination) destRel later =
        .ok destination last

/-- A directory, or a whole file with the expected identity. -/
def IsWhole (adapter : LocalStorageAdapter) (expected : RemoteFile)
    (_place : Path) (entry : Entry) : Prop :=
  entry.node = .directory ∨ IsExpected adapter expected entry

/-- The expected file is at the source, and at the destination, too. -/
structure Linked (adapter : LocalStorageAdapter) (first : Entries)
    (expected : RemoteFile) (source destination place : Path)
    (entry : Entry) (after : World) : Prop where
  fromSource : lstat after.files adapter.limit source = .ok entry
  toDestination : locate after.files adapter.limit destination = .ok place
  isExpected : IsExpected adapter expected entry
  /-- Nothing was at the destination, nor did others create anything there. -/
  wasFree : first place = none ∧ ∀ made ∈ after.created, made.1 ≠ place
  holds : after.files place = some entry
  intact : Intact first
    (fun other found => found.node = .directory ∨ other = place) after

section Hardlink

variable {adapter : LocalStorageAdapter} {happens : HardlinkStep → Event}
  {first : Entries} {start : World} {source destination : Path}
  {expected : RemoteFile} {entry : Entry}

theorem ends_isExpected
    {holds : World → Prop} (stable : Stable holds)
    (creates : ∀ step, OnlyCreates (happens step).changes)
    (isHeld : holds start) :
    Ends (isExpected adapter happens entry expected) start
      (fun same after => holds after ∧
        (same = true → IsExpected adapter expected entry))
      (fun _ after => holds after) := by
  rw [Local.isExpected]
  split
  · next expectedId expectedHash isId isHash =>
      rw [ends_ite]
      split
      · next identity =>
          rw [ends_bind]
          apply (ends_query_stable stable (creates _) isHeld).mono
          · rintro bytes after ⟨laterHeld, isRead⟩
            constructor
            · exact laterHeld
            · intro same
              have isRegular := read_eq_ok_iff.1 isRead
              have hashes : expectedHash = adapter.sha256 bytes :=
                eq_of_beq same
              constructor
              constructor
              · exact isRegular
              · rw [isId, identity.1, isHash, hashes, identity.2, Entry.size,
                  isRegular]
                exact ⟨rfl, rfl, rfl⟩
          · exact fun _ _ later => later
      · exact ⟨isHeld, fun impossible => nomatch impossible⟩
  · exact ⟨isHeld, fun impossible => nomatch impossible⟩

/-- The link that has been made is the whole file of the source. -/
theorem linked_of_create
    {world : World} {files : Entries}
    (intact : Intact first IsTree world)
    (found : lstat world.files adapter.limit source = .ok entry)
    (isExpected : IsExpected adapter expected entry)
    (made : create world.files adapter.limit destination entry =
      .ok files) :
    ∃ place,
      Linked adapter first expected source destination place entry
        { world with files } := by
  rcases create_eq_ok_iff.1 made with ⟨place, located, free, rfl⟩
  have extension := extends_update free entry
  exists place
  constructor
  · rcases lstat_eq_ok_iff.1 found with ⟨other, isSource, isThere⟩
    exact lstat_eq_ok_iff.2
      ⟨other, extension.locate isSource, extension other entry isThere⟩
  · exact extension.locate located
  · exact isExpected
  · exact intact.wasFree free
  · exact Function.update_self _ _ _
  · exact (intact.weaken fun _ _ isTree => Or.inl isTree).update free
      (Or.inr rfl)

theorem stable_linked (place : Path) :
    Stable (Linked adapter first expected source destination place entry) := by
  apply stable_of_create
  intro world other made linked free
  have extension := extends_update free made
  constructor
  · rcases lstat_eq_ok_iff.1 linked.fromSource with ⟨there, isSource, isThere⟩
    exact lstat_eq_ok_iff.2
      ⟨there, extension.locate isSource, extension there entry isThere⟩
  · exact extension.locate linked.toDestination
  · exact linked.isExpected
  · constructor
    · exact linked.wasFree.1
    · intro new member here
      rcases List.mem_append.1 member with earlier | isNew
      · exact linked.wasFree.2 new earlier here
      · rw [List.mem_singleton.1 isNew] at here
        have same : other = place := here
        rw [same, linked.holds] at free
        cases free
  · exact extension _ _ linked.holds
  · exact linked.intact.createOther free made

theorem Linked.whole {place : Path} {after : World}
    (linked : Linked adapter first expected source destination place entry
      after) :
    Intact first (IsWhole adapter expected) after where
  kept := linked.intact.kept
  created := linked.intact.created
  accounted other found isThere := by
    rcases linked.intact.accounted other found isThere with
      wasThere | isMade | isTree | rfl
    · exact Or.inl wasThere
    · exact Or.inr (Or.inl isMade)
    · exact Or.inr (Or.inr (Or.inl isTree))
    · rw [linked.holds] at isThere
      cases isThere
      exact Or.inr (Or.inr (Or.inr linked.isExpected))

theorem Intact.whole {world : World} (intact : Intact first IsTree world) :
    Intact first (IsWhole adapter expected) world :=
  intact.weaken fun _ _ isTree => Or.inl isTree

theorem ends_linkOpened
    (creates : ∀ step, OnlyCreates (happens step).changes)
    (intact : Intact first IsTree start) :
    Ends (linkOpened adapter happens source destination expected) start
      (fun success after =>
        if success then ∃ place entry,
          Linked adapter first expected source destination place entry after
        else Intact first (IsWhole adapter expected) after)
      (fun _ after => Intact first (IsWhole adapter expected) after) := by
  have stable := stable_intact first IsTree
  rw [linkOpened, ends_bind]
  apply (ends_query_stable stable (creates _) intact).mono _
    fun _ _ later => Intact.whole later
  rintro opened middle ⟨isIntact, isOpen⟩
  simp only [openNoFollow, bind_eq_ok_iff] at isOpen
  rcases isOpen with ⟨found, isFound, notLink⟩
  have same : found = opened := by
    split at notLink
    · cases notLink
    · exact Except.ok.inj notLink
  subst same
  have both := stable.and (stable_extends middle.files)
  have fails : ∀ (failure : Failure) (after : World),
      (Intact first IsTree after ∧ Extends middle.files after.files) →
        Intact first (IsWhole adapter expected) after :=
    fun _ _ later => Intact.whole later.1
  rw [ends_bind]
  apply (ends_query_stable both (creates _)
    ⟨isIntact, Extends.refl⟩).mono _ fails
  rintro entry later ⟨laterHeld, isStat⟩
  cases isStat
  rw [ends_ite]
  split
  · rw [ends_bind]
    apply (ends_isExpected both creates laterHeld).mono _ fails
    rintro isSame checked ⟨checkedHeld, expects⟩
    rw [ends_ite]
    split
    · next isOne =>
        have waiting := both _ _ (creates .link) checkedHeld
        rw [ends_bind]
        apply ends_make
        · exact fun _ _ => Intact.whole waiting.1
        · intro files _ made
          rcases lstat_eq_ok_iff.1 isFound with ⟨there, isSource, isThere⟩
          have stillFound := lstat_eq_ok_iff.2
            ⟨there, waiting.2.locate isSource, waiting.2 there _ isThere⟩
          rcases linked_of_create waiting.1 stillFound (expects isOne) made
            with ⟨place, linked⟩
          apply (keeps_lstatPath (stable_linked place)
            (creates _)).ends_bind linked
          · intro made last isLast
            rw [ends_ite]
            split
            · exact ⟨place, _, isLast⟩
            · exact isLast.whole
          · exact fun _ _ isLast => isLast.whole
    · exact Intact.whole checkedHeld.1
  · exact Intact.whole laterHeld.1

theorem ends_linkFailed
    (whole : Intact first (IsWhole adapter expected) start)
    (failure : Failure) :
    Ends (linkFailed failure) start
      (fun success after => success = false ∧
        Intact first (IsWhole adapter expected) after)
      (fun _ after => Intact first (IsWhole adapter expected) after) := by
  cases failure with
  | os errno =>
      by_cases isThere : errno = .eexist
      · subst isThere
        exact whole
      · rw [linkFailed, ends_ite]
        · split
          · exact ⟨rfl, whole⟩
          · exact whole
        · rintro ⟨⟩
          exact isThere rfl
  | operation error => exact whole
  | path message => exact whole
  | value => exact whole
  | loop => exact whole

theorem ends_hardlinkFrom
    (creates : ∀ step, OnlyCreates (happens step).changes)
    (sourceAdapter : Option LocalStorageAdapter)
    (srcRel destRel : String) :
    Ends (hardlinkFrom adapter happens sourceAdapter srcRel destRel expected)
      { files := first }
      (fun success after =>
        if success then ∃ other source destination place entry,
          sourceAdapter = some other ∧
            IsLinkPath adapter other happens first srcRel destRel source
              destination ∧
            Linked adapter first expected source destination place entry after
        else Intact first (IsWhole adapter expected) after)
      (fun _ after => Intact first (IsWhole adapter expected) after) := by
  have intact : Intact first IsTree { files := first } := intact_start first
  have stable := stable_intact first IsTree
  have fails : ∀ (failure : Failure) (after : World),
      Intact first IsTree after →
        Intact first (IsWhole adapter expected) after :=
    fun _ _ later => Intact.whole later
  cases sourceAdapter with
  | none => exact Intact.whole intact
  | some other =>
      rw [hardlinkFrom, ends_bind]
      apply ((keeps_noFollowPath stable (creates _) srcRel).ends_eq
        intact).mono _ fails
      rintro source resolved ⟨isSource, resolvedIntact⟩
      rw [ends_bind]
      apply ((keeps_path stable (creates _) destRel false).ends_eq
        resolvedIntact).mono _ fails
      rintro candidate found ⟨isCandidate, foundIntact⟩
      rw [ends_bind]
      apply ((keeps_mkdirParents stable admitsDirectories_isTree
        (fun _ _ => creates _) (fun _ _ => creates _) _ _).ends_eq
        foundIntact).mono _ fails
      rintro made later ⟨isMade, laterIntact⟩
      rw [ends_bind]
      apply ((keeps_noFollowPath stable (creates _) destRel).ends_eq
        laterIntact).mono _ fails
      rintro destination last ⟨isDestination, lastIntact⟩
      rw [ends_tryCatch]
      apply (ends_linkOpened creates lastIntact).mono
      · intro success after comes
        cases success with
        | false => exact comes
        | true =>
            rcases comes with ⟨place, entry, linked⟩
            exact ⟨other, source, destination, place, entry, rfl,
              ⟨resolved, candidate, found, made, later, last, isSource,
                isCandidate, isMade, isDestination⟩, linked⟩
      · intro failure after whole
        apply (ends_linkFailed whole failure).mono
        · rintro success ended ⟨rfl, isWhole⟩
          exact isWhole
        · exact fun _ _ isWhole => isWhole

end Hardlink

/--
While others only create entries, a publish without overwriting, a move and a
hardlink put the whole file of the source at a free destination, or leave
everything that they have not made, and nothing of their own at the
destination but a whole file.
-/
theorem noOverwrite
    (adapter : LocalStorageAdapter) (first : Entries) :
    (∀ (happens : PublishStep → Event) (hex : String) (src : Path)
        (destRel : String),
      (∀ step, OnlyCreates (happens step).changes) →
        Ends (publish adapter happens hex src destRel false)
          { files := first }
          (fun result after =>
            if result.success then
              ∃ finalPath place entry bytes,
                IsFinalPath adapter happens first destRel finalPath ∧
                  Placed adapter hex first src finalPath place entry bytes
                    after ∧
                  (entry.node = .regular bytes ↔
                    ¬ LinksSymlink adapter happens first src destRel)
            else Unpublished adapter happens hex first destRel after)
          (fun _ after =>
            Unpublished adapter happens hex first destRel after)) ∧
      (∀ (happens : MoveStep → Event) (srcRel destRel : String),
        (∀ step, OnlyCreates (happens step).changes) →
          Ends (move adapter happens srcRel destRel) { files := first }
            (fun _ after => ∃ src dest source destination entry,
              IsMovePath adapter happens first srcRel destRel src dest ∧
                Moved adapter first src dest source destination entry after)
            (fun _ after => Intact first IsTree after)) ∧
      ∀ (happens : HardlinkStep → Event)
        (sourceAdapter : Option LocalStorageAdapter)
        (srcRel destRel : String) (expected : RemoteFile),
        (∀ step, OnlyCreates (happens step).changes) →
          Ends (hardlinkFrom adapter happens sourceAdapter srcRel destRel
              expected) { files := first }
            (fun success after =>
              if success then ∃ other source destination place entry,
                sourceAdapter = some other ∧
                  IsLinkPath adapter other happens first srcRel destRel
                    source destination ∧
                  Linked adapter first expected source destination place
                    entry after
              else Intact first (IsWhole adapter expected) after)
            (fun _ after =>
              Intact first (IsWhole adapter expected) after) := by
  constructor
  · intro happens hex src destRel creates
    exact ends_publish creates destRel
  constructor
  · intro happens srcRel destRel creates
    exact ends_move creates srcRel destRel
  · intro happens sourceAdapter srcRel destRel expected creates
    exact ends_hardlinkFrom creates sourceAdapter srcRel destRel

/-- An adapter for `/mnt/media`. -/
def mediaAdapter : LocalStorageAdapter where
  root := ["mnt", "media"]
  sha256 bytes := toString bytes
  limit := 40

/-- A file in `/mnt/media`. -/
def oneFile : Entries := fun place =>
  if place = ["mnt"] ∨ place = ["mnt", "media"] then some { node := .directory }
  else if place = ["mnt", "media", "old"] then some { node := .regular [7] }
  else none

/-- Another file is created at the destination before it is taken. -/
def createdBefore : MoveStep → Event
  | .rename =>
      { changes := [.create ["mnt", "media", "new"] { node := .regular [8] }] }
  | _ => {}

theorem noOverwrite_createdBefore :
    Ends (move mediaAdapter createdBefore "old" "new") { files := oneFile }
      (fun _ after => ∃ src dest source destination entry,
        IsMovePath mediaAdapter createdBefore oneFile "old" "new" src dest ∧
          Moved mediaAdapter oneFile src dest source destination entry after)
      (fun _ after => Intact oneFile IsTree after) := by
  apply (noOverwrite mediaAdapter oneFile).2.1
  intro step
  cases step <;> simp [createdBefore, OnlyCreates]

/-- A file outside of the storage, and a symbolic link which leads to it. -/
def linkedSource : Entries := fun place =>
  if place ∈ [["srv"], ["mnt"], ["mnt", "media"]] then
    some { node := .directory }
  else if place = ["srv", "file"] then some { node := .regular [7] }
  else if place = ["srv", "clip"] then
    some { node := .symlink { root := "/", parts := ["srv", "file"] } }
  else none

theorem path_linkedSource :
    validateRelativePath "new" false = .ok "new" ∧
      mediaAdapter.path {} "new" false { files := linkedSource } =
        .ok ["mnt", "media", "new"] { files := linkedSource } := by
  have isNormal : validateRelativePath "new" false = .ok "new" := by
    apply @validateRelativePath_intercalate ["new"]
    · intro part member
      rw [List.mem_singleton.1 member]
      exact ⟨⟨by decide, by decide, by decide⟩, by decide, by decide,
        by decide⟩
    · simp
  have joined : mediaAdapter.joined "new" = ["mnt", "media", "new"] := by
    rw [LocalStorageAdapter.joined, PurePosixPath.parts_ofString]
    decide
  apply And.intro isNormal
  rw [LocalStorageAdapter.path, validated, isNormal]
  simp only [pure_bind, joined]
  rfl

/-- A publish of a symbolic link succeeds, and no file is published. -/
theorem noOverwrite_linkedSource :
    ∃ result after,
      publish mediaAdapter (fun _ => {}) "00" ["srv", "clip"] "new" false
          { files := linkedSource } = .ok result after ∧
        result.success = true ∧
        ¬ ∃ finalPath place entry bytes,
          IsFinalPath mediaAdapter (fun _ => {}) linkedSource "new"
              finalPath ∧
            Placed mediaAdapter "00" linkedSource ["srv", "clip"] finalPath
              place entry bytes after ∧
            entry.node = .regular bytes := by
  rcases path_linkedSource with ⟨isNormal, resolved⟩
  simp only [publish, validated, isNormal, bind, EStateM.bind, pure,
    EStateM.pure, resolved]
  refine ⟨_, _, rfl, rfl, ?_⟩
  rintro ⟨finalPath, place, entry, bytes, ⟨normalized, middle, isSame, again⟩,
    placed, isRegular⟩
  rw [isNormal] at isSame
  cases isSame
  rw [resolved] at again
  cases again
  have located := placed.located
  cases located
  have holds := placed.holds
  cases holds
  cases isRegular

end Sluicery.Storage.Local
