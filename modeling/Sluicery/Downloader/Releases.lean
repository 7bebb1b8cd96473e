import Sluicery.Downloader.Version
import Sluicery.Library.UniqueColumn

/-!
# The releases, the directories and the link

`remove`, and what the operations on versions keep.  Whatever raises, at most
one release is active and `current` leads to a release which is not removed.
As long as no exception comes between a change of the disk and the change of
the rows, a release which is not removed has its directory, and `current`
leads to a version if and only if its release is active.  A directory without
such a release is one which a pruning could not delete, or which an
installation that raises has left.
-/

namespace Sluicery.Downloader

open Sluicery.Library Sluicery.Library.Raising Sluicery.Db

/-! ## Removing -/

/-- What the commands raise besides the operations they call. -/
inductive CommandFailure where
  | currentVersionRemoval
  | ytdlpRollback
  | failure (failure : Failure)
deriving DecidableEq, Repr

/-- What happens in `remove`. -/
structure Removing where
  lockRaises : Bool := false
  /-- `rmtree` raises and leaves this there. -/
  deleteRaises : Option (Option Venv) := none
  commitRaises : Bool := false

/-- The rows without a version. -/
def releaseRemoved (releases : Table YtdlpReleaseRow) (version : String) :
    Table YtdlpReleaseRow :=
  match getByVersion releases version with
  | none => releases
  | some release =>
      releases.modify release.1 fun row => { row with status := .removed }

/-- `remove`. -/
def remove (happens : Removing) (version : String) :
    EStateM CommandFailure World PUnit := do
  raiseIf happens.lockRaises (.failure .raised)
  let world ← get
  if world.current = some version then throw .currentVersionRemoval
  else if (world.venvs version).isNone then
    throw (.failure .unknownVersion)
  else
    match happens.deleteRaises with
    | some left =>
        modify fun world =>
          { world with venvs := Function.update world.venvs version left }
        throw (.failure .raised)
    | none =>
        modify fun world =>
          { world with venvs := Function.update world.venvs version none }
        raiseIf happens.commitRaises (.failure .raised)
        modify fun world =>
          { world with releases := releaseRemoved world.releases version }

/-! ## What holds between the operations -/

/-- The version has an active release. -/
def isActive (releases : Table YtdlpReleaseRow) (version : String) : Bool :=
  (getByVersion releases version).any fun release =>
    release.2.status == .active

/-- Versions are unique. -/
abbrev UniqueVersions (releases : Table YtdlpReleaseRow) : Prop :=
  releases.UniqueBy YtdlpReleaseRow.version

/-- What holds whatever raises. -/
structure Sound (world : World) : Prop where
  unique : UniqueVersions world.releases
  /-- At most one release is active. -/
  active : ∀ left right leftRow rightRow,
    world.releases.get left = some leftRow →
      world.releases.get right = some rightRow →
        leftRow.status = .active → rightRow.status = .active → left = right
  /-- `current` leads to a release which is not removed. -/
  linked : ∀ version, world.current = some version →
    isListed world.releases version = true

/-- The disk and the rows agree, but for the directories left behind. -/
structure Consistent (left : String → Prop) (world : World) : Prop where
  kept : ∀ version, isListed world.releases version = true →
    (world.venvs version).isSome = true
  disk : ∀ version, (world.venvs version).isSome = true →
    isListed world.releases version = true ∨ left version
  link : ∀ version, world.current = some version ↔
    isActive world.releases version = true

/-- What holds whatever raises, and what holds in whole operations. -/
structure Agrees (whole : Prop) (left : String → Prop) (world : World) :
    Prop where
  sound : Sound world
  consistent : whole → Consistent left world

/-! ## Rows by version -/

/-- A row is found by its version. -/
theorem getByVersion_of_get
    {releases : Table YtdlpReleaseRow} (unique : UniqueVersions releases)
    {key : Nat} {row : YtdlpReleaseRow} (found : releases.get key = some row) :
    getByVersion releases row.version = some (key, row) := by
  cases first : getByVersion releases row.version with
  | none =>
      rw [getByVersion, List.head?_eq_none_iff] at first
      have member : (key, row) ∈ releases.select fun _ other =>
          other.version == row.version :=
        (Table.mem_select_iff _ _ _ _).mpr ⟨found, beq_self_eq_true _⟩
      rw [first] at member
      cases member
  | some release =>
      rcases getByVersion_eq_some first with ⟨foundFirst, sameVersion⟩
      have sameKey : release.1 = key :=
        unique _ _ _ _ foundFirst found sameVersion
      rw [sameKey, found] at foundFirst
      rw [← sameKey, Option.some.inj foundFirst]

/-- The active row is found by its version. -/
theorem isActive_of_get
    {releases : Table YtdlpReleaseRow} (unique : UniqueVersions releases)
    {key : Nat} {row : YtdlpReleaseRow} (found : releases.get key = some row)
    (active : row.status = .active) :
    isActive releases row.version = true := by
  rw [isActive, getByVersion_of_get unique found, Option.any_some,
    beq_iff_eq]
  exact active

theorem exists_of_isActive
    {releases : Table YtdlpReleaseRow} {version : String}
    (active : isActive releases version = true) :
    ∃ key row, getByVersion releases version = some (key, row) ∧
      row.status = .active := by
  rw [isActive, Option.any_eq_true] at active
  rcases active with ⟨⟨key, row⟩, found, isActive⟩
  exact ⟨key, row, found, beq_iff_eq.mp isActive⟩

theorem isActive_iff
    {releases : Table YtdlpReleaseRow} (unique : UniqueVersions releases)
    (version : String) :
    isActive releases version = true ↔
      ∃ key row, releases.get key = some row ∧ row.version = version ∧
        row.status = .active := by
  constructor
  · intro active
    rcases exists_of_isActive active with ⟨key, row, found, isActive⟩
    rcases getByVersion_eq_some found with ⟨foundRow, isVersion⟩
    exact ⟨key, row, foundRow, isVersion, isActive⟩
  · rintro ⟨key, row, found, rfl, active⟩
    exact isActive_of_get unique found active

theorem isListed_iff
    {releases : Table YtdlpReleaseRow} (unique : UniqueVersions releases)
    (version : String) :
    isListed releases version = true ↔
      ∃ key row, releases.get key = some row ∧ row.version = version ∧
        row.status ≠ .removed := by
  constructor
  · intro listed
    rw [isListed, Option.any_eq_true] at listed
    rcases listed with ⟨⟨key, row⟩, found, isListed⟩
    rcases getByVersion_eq_some found with ⟨foundRow, isVersion⟩
    exact ⟨key, row, foundRow, isVersion, bne_iff_ne.mp isListed⟩
  · rintro ⟨key, row, found, rfl, listed⟩
    rw [isListed, getByVersion_of_get unique found, Option.any_some]
    exact bne_iff_ne.mpr listed

/-- An update which changes no status to or from active. -/
theorem isActive_modify
    (releases : Table YtdlpReleaseRow) (key : Nat)
    {change : YtdlpReleaseRow → YtdlpReleaseRow} {version : String}
    (keeps : ∀ row, (change row).version = row.version)
    (activates : ∀ row, releases.get key = some row →
      row.version = version →
        ((change row).status = .active ↔ row.status = .active)) :
    isActive (releases.modify key change) version =
      isActive releases version := by
  rw [isActive, isActive, getByVersion_modify releases key keeps]
  cases found : getByVersion releases version with
  | none => rfl
  | some release =>
      rcases getByVersion_eq_some found with ⟨row, sameVersion⟩
      simp only [Option.map_some, Option.any_some]
      split
      · next isKey =>
          rw [isKey] at row
          rw [Bool.eq_iff_iff, beq_iff_eq, beq_iff_eq]
          exact activates release.2 row sameVersion
      · rfl

/-! ## What one operation keeps -/

/-- The rows after a switch are unique. -/
theorem uniqueVersions_activateRelease
    {releases : Table YtdlpReleaseRow} (unique : UniqueVersions releases)
    (releaseId : Nat) (now : Time) :
    UniqueVersions (activateRelease releases releaseId now) := by
  rw [activateRelease]
  apply Table.UniqueBy.modify_same
  · cases getActive releases with
    | none => exact unique
    | some old =>
        dsimp only
        split
        · exact unique
        · exact unique.modify_same (YtdlpReleaseRow.version_deactivated now)
  · exact YtdlpReleaseRow.version_activated now

theorem getActive_ne_none
    {releases : Table YtdlpReleaseRow} {key : Nat} {row : YtdlpReleaseRow}
    (found : releases.get key = some row) (active : row.status = .active) :
    getActive releases ≠ none := by
  rw [getActive, ne_eq, List.head?_eq_none_iff]
  intro nothing
  have member : (key, row) ∈ releases.select fun _ other =>
      other.status == .active :=
    (Table.mem_select_iff _ _ _ _).mpr ⟨found, beq_iff_eq.mpr active⟩
  rw [nothing] at member
  cases member

/-- After a switch, an active row is the one which was switched to. -/
theorem Sound.key_of_active
    {world : World} (sound : Sound world) {releaseId key : Nat}
    {row : YtdlpReleaseRow} {now : Time}
    (found : (activateRelease world.releases releaseId now).get key =
      some row)
    (active : row.status = .active) : key = releaseId := by
  by_contra other
  rw [activateRelease, Table.get_modify_of_ne _ _ other] at found
  cases isActive : getActive world.releases with
  | none =>
      rw [isActive] at found
      exact getActive_ne_none found active isActive
  | some old =>
      rcases getActive_eq_some isActive with ⟨foundOld, activeOld⟩
      rw [isActive] at found
      dsimp only at found
      split at found
      · next same =>
          exact other ((sound.active _ _ _ _ found foundOld active
            activeOld).trans same)
      · by_cases isOld : key = old.1
        · rw [isOld, Table.get_modify_self, foundOld, Option.map_some,
            Option.some.injEq] at found
          rw [← found] at active
          cases active
        · rw [Table.get_modify_of_ne _ _ isOld] at found
          exact isOld (sound.active _ _ _ _ found foundOld active activeOld)

section Agrees

variable {whole : Prop} {left : String → Prop} {world : World}

/-- The disk alone changes when an operation is interrupted. -/
theorem Agrees.interrupted
    (agrees : Agrees whole left world) (broken : ¬ whole)
    (venvs : String → Option Venv) : Agrees whole left { world with venvs } where
  sound := ⟨agrees.sound.unique, agrees.sound.active, agrees.sound.linked⟩
  consistent := fun isWhole => absurd isWhole broken

/-- A directory has changed, and is there; others stay. -/
theorem Agrees.changed
    (agrees : Agrees whole left world) {venvs : String → Option Venv}
    {version : String} (isThere : (venvs version).isSome = true)
    (known : (world.venvs version).isSome = true ∨ left version)
    (others : ∀ other, other ≠ version → venvs other = world.venvs other) :
    Agrees whole left { world with venvs } where
  sound := ⟨agrees.sound.unique, agrees.sound.active, agrees.sound.linked⟩
  consistent := by
    intro isWhole
    have consistent := agrees.consistent isWhole
    constructor
    · intro other listed
      by_cases same : other = version
      · rw [same]
        exact isThere
      · dsimp only
        rw [others other same]
        exact consistent.kept other listed
    · intro other otherThere
      by_cases same : other = version
      · rw [same]
        exact known.elim (consistent.disk version) Or.inr
      · dsimp only at otherThere
        rw [others other same] at otherThere
        exact consistent.disk other otherThere
    · exact consistent.link

/-- The link alone changes when a switch is interrupted. -/
theorem Agrees.relinked
    (agrees : Agrees whole left world) (broken : ¬ whole) {version : String}
    (listed : isListed world.releases version = true) :
    Agrees whole left { world with current := some version } where
  sound := by
    refine ⟨agrees.sound.unique, agrees.sound.active, ?_⟩
    intro other isCurrent
    rw [← Option.some.inj isCurrent]
    exact listed
  consistent := fun isWhole => absurd isWhole broken

theorem isListed_of_getByVersion
    {releases : Table YtdlpReleaseRow} {version : String}
    {release : Nat × YtdlpReleaseRow}
    (found : getByVersion releases version = some release)
    (listed : release.2.status ≠ .removed) :
    isListed releases version = true := by
  rw [isListed, found, Option.any_some]
  exact bne_iff_ne.mpr listed

/-- A switch to a listed release leaves the others as listed as they were. -/
theorem isListed_activated
    {releases : Table YtdlpReleaseRow} {releaseId : Nat} {version : String}
    {row : YtdlpReleaseRow}
    (found : getByVersion releases version = some (releaseId, row))
    (listed : row.status ≠ .removed) (now : Time) (other : String) :
    isListed (activateRelease releases releaseId now) other =
      isListed releases other := by
  rcases getByVersion_eq_some found with ⟨foundRow, isVersion⟩
  by_cases same : other = version
  · rcases getByVersion_activateRelease now found with
      ⟨activated, foundAfter, isActivated⟩
    rw [same, isListed_of_getByVersion found listed,
      isListed_of_getByVersion foundAfter]
    rw [isActivated]
    intro impossible
    cases impossible
  · apply isListed_activateRelease
    intro stored foundStored sameVersion
    rw [foundRow, Option.some.injEq] at foundStored
    rw [← foundStored] at sameVersion
    exact same (sameVersion.symm.trans isVersion)

/-- A switch leaves the release it is to as the only active one. -/
theorem Sound.isActive_activated
    (sound : Sound world) {releaseId : Nat} {version : String}
    {row : YtdlpReleaseRow}
    (found : getByVersion world.releases version = some (releaseId, row))
    (now : Time) (other : String) :
    isActive (activateRelease world.releases releaseId now) other = true ↔
      other = version := by
  rcases getByVersion_activateRelease now found with
    ⟨activated, foundAfter, isActivated⟩
  constructor
  · intro active
    rcases exists_of_isActive active with ⟨key, stored, isStored, isActive⟩
    rcases getByVersion_eq_some isStored with ⟨foundStored, isOther⟩
    have same := sound.key_of_active foundStored isActive
    rcases getByVersion_eq_some foundAfter with ⟨foundActivated, isHere⟩
    rw [same, foundActivated, Option.some.injEq] at foundStored
    rw [← isHere, foundStored, isOther]
  · rintro rfl
    rw [isActive, foundAfter, Option.any_some, isActivated]
    rfl

/-- A switch to a version whose release is there. -/
theorem Agrees.activate
    (agrees : Agrees whole left world) {releaseId : Nat} {version : String}
    {row : YtdlpReleaseRow}
    (found : getByVersion world.releases version = some (releaseId, row))
    (listed : row.status ≠ .removed) (now : Time) :
    Agrees whole left { world with
      current := some version
      releases := activateRelease world.releases releaseId now } where
  sound := by
    constructor
    · exact uniqueVersions_activateRelease agrees.sound.unique releaseId now
    · intro left right leftRow rightRow foundLeft foundRight activeLeft
        activeRight
      exact (agrees.sound.key_of_active foundLeft activeLeft).trans
        (agrees.sound.key_of_active foundRight activeRight).symm
    · intro other isCurrent
      rw [← Option.some.inj isCurrent,
        isListed_activated found listed now version]
      exact isListed_of_getByVersion found listed
  consistent := by
    intro isWhole
    constructor
    · intro other
      rw [isListed_activated found listed now other]
      exact (agrees.consistent isWhole).kept other
    · intro other
      rw [isListed_activated found listed now other]
      exact (agrees.consistent isWhole).disk other
    · intro other
      rw [agrees.sound.isActive_activated found now other,
        Option.some.injEq, eq_comm]

/-- What is recorded is active if and only if it was before. -/
theorem isActive_recordInstall
    (releases : Table YtdlpReleaseRow) (version : String)
    (source : YtdlpReleaseSource) (now : Time) (other : String) :
    isActive (recordInstall releases version source now).2 other =
      isActive releases other := by
  rw [recordInstall]
  cases found : getByVersion releases version with
  | none =>
      dsimp only
      rw [isActive, isActive, getByVersion_insert found]
      split
      · next same =>
          rw [show other = version from same, found]
          rfl
      · rfl
  | some existing =>
      dsimp only
      split
      · next removed =>
          rw [isActive_modify]
          · exact fun _ => rfl
          · intro row foundRow _
            rw [(getByVersion_eq_some found).1, Option.some.injEq]
              at foundRow
            rw [← foundRow, removed]
            exact iff_of_false (fun impossible => by cases impossible)
              (fun impossible => by cases impossible)
      · rfl

theorem uniqueVersions_recordInstall
    {releases : Table YtdlpReleaseRow} (unique : UniqueVersions releases)
    (version : String) (source : YtdlpReleaseSource) (now : Time) :
    UniqueVersions (recordInstall releases version source now).2 := by
  rw [recordInstall]
  cases found : getByVersion releases version with
  | none =>
      apply unique.insert
      intro other old foundOld same
      have isFound := getByVersion_of_get unique foundOld
      rw [show old.version = version from same, found] at isFound
      cases isFound
  | some existing =>
      dsimp only
      split
      · exact unique.modify_same fun _ => rfl
      · exact unique

/-- Unique active versions belong to one row. -/
theorem active_of_isActive
    {releases : Table YtdlpReleaseRow} (unique : UniqueVersions releases)
    (single : ∀ left right, isActive releases left = true →
      isActive releases right = true → left = right) :
    ∀ left right leftRow rightRow, releases.get left = some leftRow →
      releases.get right = some rightRow → leftRow.status = .active →
        rightRow.status = .active → left = right := by
  intro left right leftRow rightRow foundLeft foundRight activeLeft activeRight
  apply unique left right leftRow rightRow foundLeft foundRight
  exact single _ _ (isActive_of_get unique foundLeft activeLeft)
    (isActive_of_get unique foundRight activeRight)

/-- At most one version is active. -/
theorem Sound.version_of_isActive
    (sound : Sound world) {left right : String}
    (activeLeft : isActive world.releases left = true)
    (activeRight : isActive world.releases right = true) : left = right := by
  rcases (isActive_iff sound.unique left).mp activeLeft with
    ⟨key, row, found, rfl, active⟩
  rcases (isActive_iff sound.unique right).mp activeRight with
    ⟨other, otherRow, foundOther, rfl, otherActive⟩
  have same := sound.active _ _ _ _ found foundOther active otherActive
  rw [same, foundOther, Option.some.injEq] at found
  rw [found]

/-- A version which is placed and recorded. -/
theorem Agrees.record
    (agrees : Agrees whole left world) {version : String}
    {venvs : String → Option Venv}
    (placed : whole → (venvs version).isSome = true)
    (others : ∀ other, other ≠ version →
      (venvs other).isSome = (world.venvs other).isSome)
    (source : YtdlpReleaseSource) (now : Time) :
    Agrees whole left { world with
      venvs
      releases := (recordInstall world.releases version source now).2 } := by
  have listed : isListed
      (recordInstall world.releases version source now).2 version = true := by
    rcases getByVersion_recordInstall world.releases version source now
      with ⟨row, found, listed⟩
    exact isListed_of_getByVersion found listed
  have unique := uniqueVersions_recordInstall agrees.sound.unique version
    source now
  constructor
  · constructor
    · exact unique
    · apply active_of_isActive unique
      intro left right activeLeft activeRight
      rw [isActive_recordInstall] at activeLeft activeRight
      exact agrees.sound.version_of_isActive activeLeft activeRight
    · intro other isCurrent
      by_cases same : other = version
      · rw [same]
        exact listed
      · rw [isListed_recordInstall world.releases source now same]
        exact agrees.sound.linked other isCurrent
  · intro isWhole
    constructor
    · intro other isListed
      by_cases same : other = version
      · rw [same]
        exact placed isWhole
      · rw [isListed_recordInstall world.releases source now same]
          at isListed
        rw [others other same]
        exact (agrees.consistent isWhole).kept other isListed
    · intro other isThere
      by_cases same : other = version
      · rw [same]
        exact Or.inl listed
      · rw [isListed_recordInstall world.releases source now same]
        rw [others other same] at isThere
        exact (agrees.consistent isWhole).disk other isThere
    · intro other
      rw [isActive_recordInstall]
      exact (agrees.consistent isWhole).link other

section Withdrawn

variable {releases withdrawn : Table YtdlpReleaseRow} {gone : String → Bool}

theorem uniqueVersions_withdrawn
    (unique : UniqueVersions releases)
    (rows : ∀ key, withdrawn.get key = (releases.get key).map fun row =>
      if gone row.version then { row with status := .removed } else row) :
    UniqueVersions withdrawn := by
  intro left right leftRow rightRow foundLeft foundRight same
  rw [rows, Option.map_eq_some_iff] at foundLeft foundRight
  rcases foundLeft with ⟨oldLeft, isLeft, rfl⟩
  rcases foundRight with ⟨oldRight, isRight, rfl⟩
  apply unique left right oldLeft oldRight isLeft isRight
  simpa only [apply_ite YtdlpReleaseRow.version, ite_self] using same

/-- A row which is not removed is one of the others, as it was. -/
theorem exists_withdrawn_iff
    (rows : ∀ key, withdrawn.get key = (releases.get key).map fun row =>
      if gone row.version then { row with status := .removed } else row)
    (holds : YtdlpReleaseStatus → Prop) (notRemoved : ¬ holds .removed)
    (version : String) :
    (∃ key row, withdrawn.get key = some row ∧ row.version = version ∧
        holds row.status) ↔
      gone version = false ∧ ∃ key row, releases.get key = some row ∧
        row.version = version ∧ holds row.status := by
  constructor
  · rintro ⟨key, row, found, isVersion, isHeld⟩
    rw [rows, Option.map_eq_some_iff] at found
    rcases found with ⟨old, isOld, rfl⟩
    split at isHeld
    · exact absurd isHeld notRemoved
    · next stays =>
        rw [if_neg stays] at isVersion
        rw [← isVersion]
        exact ⟨Bool.eq_false_iff.mpr stays, key, old, isOld, rfl, isHeld⟩
  · rintro ⟨stays, key, row, found, rfl, isHeld⟩
    refine ⟨key, row, ?_, rfl, isHeld⟩
    rw [rows, found, Option.map_some, stays]
    rfl

end Withdrawn

/-- Versions whose releases are removed together with their directories. -/
theorem Agrees.withdraw
    (agrees : Agrees whole left world)
    {venvs : String → Option Venv} {releases : Table YtdlpReleaseRow}
    (gone : String → Bool)
    (notCurrent : ∀ version, world.current = some version →
      gone version = false)
    (others : ∀ version, gone version = false →
      venvs version = world.venvs version)
    (remains : ∀ version, gone version = true →
      (venvs version).isSome = true → left version)
    (rows : ∀ key, releases.get key = (world.releases.get key).map fun row =>
      if gone row.version then { row with status := .removed } else row) :
    Agrees whole left { world with venvs, releases } := by
  have unique : UniqueVersions releases :=
    uniqueVersions_withdrawn agrees.sound.unique rows
  have listed : ∀ version, isListed releases version =
      (!gone version && isListed world.releases version) := by
    intro version
    rw [Bool.eq_iff_iff, Bool.and_eq_true, Bool.not_eq_true',
      isListed_iff unique, isListed_iff agrees.sound.unique]
    exact exists_withdrawn_iff rows (· ≠ .removed) (not_not.mpr rfl) version
  have active : ∀ version, isActive releases version = true ↔
      gone version = false ∧ isActive world.releases version = true := by
    intro version
    rw [isActive_iff unique, isActive_iff agrees.sound.unique]
    exact exists_withdrawn_iff rows (· = .active) (by decide) version
  constructor
  · constructor
    · exact unique
    · apply active_of_isActive unique
      intro left right activeLeft activeRight
      exact agrees.sound.version_of_isActive ((active left).mp activeLeft).2
        ((active right).mp activeRight).2
    · intro version isCurrent
      rw [listed, notCurrent version isCurrent,
        agrees.sound.linked version isCurrent]
      rfl
  · intro isWhole
    constructor
    · intro version isListed
      dsimp only at isListed ⊢
      rw [listed, Bool.and_eq_true, Bool.not_eq_true'] at isListed
      rw [others version isListed.1]
      exact (agrees.consistent isWhole).kept version isListed.2
    · intro version isThere
      dsimp only at isThere ⊢
      cases isGone : gone version with
      | true => exact Or.inr (remains version isGone isThere)
      | false =>
          rw [others version isGone] at isThere
          rw [listed, isGone]
          exact (agrees.consistent isWhole).disk version isThere
    · intro version
      rw [active]
      constructor
      · intro isCurrent
        exact ⟨notCurrent version isCurrent,
          ((agrees.consistent isWhole).link version).mp isCurrent⟩
      · rintro ⟨-, isActive⟩
        exact ((agrees.consistent isWhole).link version).mpr isActive

end Agrees

/-! ## The operations -/

/-- No exception between the link and the rows. -/
def Activating.IsWhole (happens : Activating) : Prop :=
  happens.commitRaises = false

/-- A venv whose placing raises has left something at its place. -/
structure Installing.IsWhole (happens : Installing) : Prop where
  placed : happens.placeRaises ≠ some none
  activating : happens.activating.IsWhole

/-- What an installation leaves without a row is among these versions. -/
def Installing.LeavesOnly (happens : Installing) (left : String → Prop) :
    Prop :=
  happens.placeRaises ≠ none ∨ happens.recordRaises = true →
    ∀ version venv, happens.build = some (version, venv) → left version

theorem Installing.leavesOnly_of_returns
    {happens : Installing} {left : String → Prop}
    (placed : happens.placeRaises = none)
    (recorded : happens.recordRaises = false) : happens.LeavesOnly left := by
  rintro (raises | raises)
  · exact absurd placed raises
  · rw [recorded] at raises
    cases raises

/-- An `rmtree` which raises has left something of the directory. -/
structure Removing.IsWhole (happens : Removing) : Prop where
  deleted : happens.deleteRaises ≠ some none
  committed : happens.commitRaises = false

def Pruning.IsWhole (happens : Pruning) : Prop :=
  happens.commitRaises = false

/-- What the pruning cannot delete is among these versions. -/
def Pruning.LeavesOnly (happens : Pruning) (left : String → Prop) : Prop :=
  ∀ version, happens.remains version ≠ none → left version

theorem exists_of_usable
    {world : World} {version : String} {releaseId : Nat}
    (usable : world.usable version = .ok releaseId) :
    ∃ row, getByVersion world.releases version = some (releaseId, row) ∧
      row.status ≠ .removed := by
  rw [World.usable] at usable
  split at usable
  · cases usable
  · cases found : getByVersion world.releases version with
    | none =>
        rw [found] at usable
        cases usable
    | some release =>
        rw [found] at usable
        dsimp only at usable
        split at usable
        · cases usable
        · next listed =>
            split at usable
            · cases usable
            · cases usable
              exact ⟨release.2, rfl, listed⟩

/-- A release which is reused is listed. -/
theorem exists_of_reusable
    {world : World} {version : Option String} {force needed : Bool}
    {releaseId : Nat} {reused : String}
    (reusable : world.reusable version force =
      some (releaseId, reused, needed)) :
    ∃ row, getByVersion world.releases reused = some (releaseId, row) ∧
      row.status ≠ .removed := by
  rw [World.reusable] at reusable
  split at reusable
  · cases reusable
  · rcases Option.bind_eq_some_iff.mp reusable with ⟨asked, -, found⟩
    cases usable : world.usable asked with
    | error failure =>
        rw [usable] at found
        cases found
    | ok key =>
        rw [usable] at found
        dsimp only at found
        split at found
        · cases found
          exact exists_of_usable usable
        · split at found
          · cases found
            exact exists_of_usable usable
          · cases found

section Operations

variable {whole : Prop} {left : String → Prop} {world : World}

/-- A switch, which may be interrupted before the rows. -/
theorem Agrees.ends_activate
    (agrees : Agrees whole left world) {happens : Activating}
    (isWhole : whole → happens.IsWhole) {releaseId : Nat} {version : String}
    {row : YtdlpReleaseRow}
    (found : getByVersion world.releases version = some (releaseId, row))
    (listed : row.status ≠ .removed) :
    Ends (Downloader.activate happens releaseId version) world
      (fun _ after => Agrees whole left after)
      (fun _ after => Agrees whole left after) := by
  rw [Downloader.ends_activate]
  split
  · exact agrees
  · split
    · next raises =>
        apply agrees.relinked _ (isListed_of_getByVersion found listed)
        intro holds
        exact Bool.false_ne_true ((isWhole holds).symm.trans raises)
    · exact agrees.activate found listed happens.now

/-- The end of an installation, which switches if it is needed. -/
theorem Agrees.ends_activateIf
    (agrees : Agrees whole left world) {happens : Activating}
    (isWhole : whole → happens.IsWhole) {releaseId : Nat} {version : String}
    {row : YtdlpReleaseRow}
    (found : getByVersion world.releases version = some (releaseId, row))
    (listed : row.status ≠ .removed) (needed : Prop) [Decidable needed] :
    Ends
      (if needed then do
        Downloader.activate happens releaseId version
        pure (releaseId, version)
      else pure (releaseId, version))
      world (fun _ after => Agrees whole left after)
      (fun _ after => Agrees whole left after) := by
  rw [ends_ite]
  split
  · rw [ends_bind]
    exact (agrees.ends_activate isWhole found listed).mono
      (fun _ _ kept => kept) (fun _ _ kept => kept)
  · exact agrees

theorem keeps_use
    {happens : Using} (isWhole : whole → happens.activating.IsWhole)
    (version : String) : Keeps (Agrees whole left) (use happens version) := by
  intro world agrees
  rw [ends_use]
  split
  · exact agrees
  · cases usable : world.usable version with
    | error failure => exact agrees
    | ok releaseId =>
        rcases exists_of_usable usable with ⟨row, found, listed⟩
        exact agrees.ends_activate isWhole found listed

/-- The disk after a venv has taken its place, or has not. -/
theorem ends_place_venvs
    (happens : Installing) (version : String) (venv : Venv) (force : Bool) :
    Ends (place happens version venv force) world
      (fun _ after => ∃ venvs, after = { world with venvs } ∧
        (venvs version).isSome = true ∧
        ∀ other, other ≠ version → venvs other = world.venvs other)
      (fun _ after => happens.placeRaises ≠ none ∧
        ∃ venvs, after = { world with venvs } ∧
          (happens.placeRaises = some none ∨
            (venvs version).isSome = true) ∧
          ∀ other, other ≠ version → venvs other = world.venvs other) := by
  rw [place, ends_bind, ends_get, ends_ite]
  split
  · next isReady =>
      rw [ends_pure]
      refine ⟨world.venvs, rfl, ?_, fun _ _ => rfl⟩
      rw [Bool.and_eq_true, beq_iff_eq, World.readyVersion] at isReady
      cases found : world.venvs version with
      | none =>
          rw [found] at isReady
          cases isReady.2
      | some venv => rfl
  · cases happens.placeRaises with
    | some left =>
        rw [ends_bind, ends_modify, ends_throw]
        refine ⟨Option.some_ne_none left, _, rfl, ?_, fun other isOther =>
          Function.update_of_ne isOther _ _⟩
        cases left with
        | none => exact Or.inl rfl
        | some venv =>
            rw [Function.update_self]
            exact Or.inr rfl
    | none =>
        rw [ends_modify]
        refine ⟨_, rfl, ?_, fun other isOther => ?_⟩
        · rw [Function.update_self]
          rfl
        · exact Function.update_of_ne isOther _ _

theorem keeps_install
    {happens : Installing} (isWhole : whole → happens.IsWhole)
    (leavesOnly : happens.LeavesOnly left)
    (version : Option String) (source : YtdlpReleaseSource) (force : Bool) :
    Keeps (Agrees whole left) (install happens version source force) := by
  intro world agrees
  rw [install, ends_bind, ends_raiseIf]
  split
  · exact agrees
  rw [ends_bind, ends_get]
  cases reusable : world.reusable version force with
  | some found =>
      rcases found with ⟨releaseId, reused, needsActivation⟩
      rcases exists_of_reusable reusable with ⟨row, isFound, listed⟩
      exact agrees.ends_activateIf (fun holds => (isWhole holds).activating)
        isFound listed _
  | none =>
      dsimp only
      cases isBuilt : happens.build with
      | none => exact agrees
      | some built =>
          rcases built with ⟨installed, venv⟩
          dsimp only
          rw [ends_bind]
          refine (ends_place_venvs happens installed venv force).mono ?_ ?_
          · rintro _ _ ⟨venvs, rfl, placed, others⟩
            rw [ends_bind, ends_raiseIf]
            split
            · next raises =>
                exact agrees.changed placed
                  (Or.inr (leavesOnly (Or.inr raises) _ _ isBuilt)) others
            · rw [ends_bind, ends_get]
              dsimp only
              rw [ends_bind, ends_modify]
              rcases getByVersion_recordInstall world.releases installed
                source happens.now with ⟨row, isFound, listed⟩
              have recorded := agrees.record (fun _ => placed)
                (fun other isOther => by rw [others other isOther]) source
                happens.now
              exact recorded.ends_activateIf
                (fun holds => (isWhole holds).activating) isFound listed _
          · rintro _ _ ⟨raises, venvs, rfl, lost | placed, others⟩
            · exact agrees.interrupted
                (fun holds => (isWhole holds).placed lost) venvs
            · exact agrees.changed placed
                (Or.inr (leavesOnly (Or.inl raises) _ _ isBuilt)) others

theorem get_releaseRemoved
    {releases : Table YtdlpReleaseRow} (unique : UniqueVersions releases)
    (version : String) (key : Nat) :
    (releaseRemoved releases version).get key =
      (releases.get key).map fun row =>
        if row.version == version then { row with status := .removed }
        else row := by
  cases found : releases.get key with
  | none =>
      rw [releaseRemoved]
      split
      · exact found
      · rw [Table.get_modify, found]
        exact ite_self _
  | some row =>
      rw [Option.map_some, releaseRemoved]
      by_cases same : row.version = version
      · rw [← same, getByVersion_of_get unique found]
        dsimp only
        rw [Table.get_modify_self, found, Option.map_some,
          if_pos (beq_self_eq_true _)]
      · rw [if_neg fun isSame => same (beq_iff_eq.mp isSame)]
        split
        · exact found
        · next release isRelease =>
            rw [Table.get_modify_of_ne, found]
            rintro rfl
            rcases getByVersion_eq_some isRelease with ⟨isFound, isVersion⟩
            rw [found, Option.some.injEq] at isFound
            rw [isFound] at same
            exact same isVersion

theorem mem_listInstalled
    {releases : Table YtdlpReleaseRow} {entry : Nat × YtdlpReleaseRow} :
    entry ∈ listInstalled releases ↔
      releases.get entry.1 = some entry.2 ∧ entry.2.status ≠ .removed := by
  rw [listInstalled, List.mem_mergeSort, ← @Prod.mk.eta _ _ entry,
    Table.mem_select_iff, bne_iff_ne]

/-- What is pruned is a release, and not the current one. -/
theorem mem_prunable
    {world : World} {keepVersions : Nat} {entry : Nat × YtdlpReleaseRow}
    (member : entry ∈ world.prunable keepVersions) :
    world.releases.get entry.1 = some entry.2 ∧
      world.current ≠ some entry.2.version := by
  rw [World.prunable] at member
  dsimp only at member
  split at member
  · cases member
  · rcases List.mem_filter.mp member with ⟨installed, notKept⟩
    refine ⟨(mem_listInstalled.mp installed).1, fun isCurrent => ?_⟩
    rw [Bool.not_eq_true', Bool.eq_false_iff, ne_eq, List.contains_iff_mem,
      List.mem_append, not_or, List.mem_dedup, List.mem_append,
      not_or] at notKept
    apply notKept.2.1
    rw [isCurrent]
    exact List.mem_singleton_self _

theorem keeps_remove
    {happens : Removing} (isWhole : whole → happens.IsWhole)
    (version : String) : Keeps (Agrees whole left) (remove happens version) := by
  intro world agrees
  rw [remove, ends_bind, ends_raiseIf]
  split
  · exact agrees
  rw [ends_bind, ends_get, ends_ite]
  split
  · exact agrees
  next notCurrent =>
  rw [ends_ite]
  split
  · exact agrees
  next isThere =>
  cases deleted : happens.deleteRaises with
  | some remaining =>
      dsimp only
      rw [ends_bind, ends_modify, ends_throw]
      cases remaining with
      | none =>
          apply agrees.interrupted
          exact fun holds => (isWhole holds).deleted deleted
      | some venv =>
          rw [Bool.not_eq_true, Option.isNone_eq_false_iff] at isThere
          apply agrees.changed _ (Or.inl isThere)
          · exact fun other isOther => Function.update_of_ne isOther _ _
          · rw [Function.update_self]
            rfl
  | none =>
      dsimp only
      rw [ends_bind, ends_modify, ends_bind, ends_raiseIf]
      split
      · next raises =>
          apply agrees.interrupted
          intro holds
          exact Bool.false_ne_true
            ((isWhole holds).committed.symm.trans raises)
      · rw [ends_modify]
        apply agrees.withdraw (· == version)
        · intro current isCurrent
          rw [beq_eq_false_iff_ne]
          rintro rfl
          exact notCurrent isCurrent
        · intro other stays
          exact Function.update_of_ne (beq_eq_false_iff_ne.mp stays) _ _
        · intro other isGone isSome
          dsimp only at isSome
          rw [beq_iff_eq.mp isGone, Function.update_self] at isSome
          cases isSome
        · exact get_releaseRemoved agrees.sound.unique version

/-- The rows to be pruned, by their keys and by their versions. -/
theorem contains_prunable
    (unique : UniqueVersions world.releases) (keepVersions : Nat)
    {key : Nat} {row : YtdlpReleaseRow}
    (found : world.releases.get key = some row) :
    ((world.prunable keepVersions).map Prod.fst).contains key =
      ((world.prunable keepVersions).map fun entry =>
        entry.2.version).contains row.version := by
  rw [Bool.eq_iff_iff, List.contains_iff_mem, List.contains_iff_mem,
    List.mem_map, List.mem_map]
  constructor
  · rintro ⟨⟨other, row'⟩, member, rfl⟩
    have isRow := (mem_prunable member).1
    rw [found, Option.some.injEq] at isRow
    exact ⟨_, member, congrArg YtdlpReleaseRow.version isRow.symm⟩
  · rintro ⟨⟨other, row'⟩, member, sameVersion⟩
    exact ⟨_, member, unique _ _ _ _ (mem_prunable member).1 found
      sameVersion⟩

theorem keeps_prune
    {happens : Pruning} (isWhole : whole → happens.IsWhole)
    (leavesOnly : happens.LeavesOnly left) (keepVersions : Nat) :
    Keeps (Agrees whole left) (pruneOldVersions happens keepVersions) := by
  intro world agrees
  rw [pruneOldVersions, ends_bind, ends_raiseIf]
  split
  · exact agrees
  rw [ends_bind, ends_get]
  dsimp only
  rw [ends_bind, ends_modify, ends_bind, ends_raiseIf]
  split
  · next raises =>
      apply agrees.interrupted
      intro holds
      rw [isWhole holds] at raises
      cases raises
  rw [ends_bind, ends_modify, ends_pure]
  apply agrees.withdraw fun version =>
    ((world.prunable keepVersions).map fun entry => entry.2.version).contains
      version
  · intro version isCurrent
    rw [Bool.eq_false_iff, ne_eq, List.contains_iff_mem, List.mem_map]
    rintro ⟨entry, member, rfl⟩
    exact (mem_prunable member).2 isCurrent
  · intro version stays
    exact if_neg (Bool.eq_false_iff.mp stays)
  · intro version isGone isThere
    dsimp only at isThere
    rw [if_pos isGone, Option.isSome_iff_exists] at isThere
    rcases isThere with ⟨venv, isLeft⟩
    rcases Option.bind_eq_some_iff.mp isLeft with ⟨-, -, remains⟩
    apply leavesOnly
    rw [remains]
    exact Option.some_ne_none venv
  · intro key
    rw [Table.get_updateWhere]
    cases found : world.releases.get key with
    | none => rfl
    | some row =>
        rw [Option.map_some, Option.map_some,
          contains_prunable agrees.sound.unique keepVersions found]

end Operations

end Sluicery.Downloader
