import Sluicery.Db.Models
import Sluicery.Library.Raising
import Mathlib.Logic.Function.Basic

/-!
# Versions of yt-dlp

A version is a venv below `versions/` with a release row; `current` is a
symlink to one of them.  The operations change the link, the directories and
the rows one after the other, and what was changed before an exception stays.
Which operation raises, and what a built venv is like, is up to the
environment.
-/

namespace Sluicery.Downloader

open Sluicery.Library Sluicery.Library.Raising Sluicery.Db

/-! ## State -/

inductive YtdlpReleaseSource where
  | initial
  | manual
  | auto
deriving DecidableEq, Repr

inductive YtdlpReleaseStatus where
  | installed
  | active
  | removed
deriving DecidableEq, Repr

inductive InstallStatus where
  | ready
  | notInstalled
  | broken
deriving DecidableEq, Repr

structure YtdlpReleaseRow where
  version : String
  installedAt : Time
  source : YtdlpReleaseSource
  status : YtdlpReleaseStatus := .installed
  activatedAt : Option Time := none
  deactivatedAt : Option Time := none
  smoketestResultJson : Option Json.Fields := none
deriving DecidableEq, Repr

/-- A venv, with what `_ready_version` answers for it. -/
structure Venv where
  readyVersion : Option String
deriving DecidableEq, Repr

/-- The root of the versions and the table of the releases. -/
structure World where
  /-- The name of the version `current` points to. -/
  current : Option String := none
  /-- By version; a directory with a temporary name belongs to none. -/
  venvs : String → Option Venv := fun _ => none
  releases : Table YtdlpReleaseRow := .empty
  /-- The smoke tests which have come to a result, with their success. -/
  smokeTests : List (String × Bool) := []

/-- What the operations raise; `raised` is any other exception. -/
inductive Failure where
  | ytdlpInstall
  | unknownVersion
  | brokenVersion
  | raised
deriving DecidableEq, Repr

/-! ## Reading -/

/-- `_ready_version` of `versions/<version>`. -/
def World.readyVersion (world : World) (version : String) : Option String :=
  (world.venvs version).bind fun venv => venv.readyVersion

/-- `get_status`, without its texts. -/
def World.getStatus (world : World) : InstallStatus :=
  match world.current with
  | none => .notInstalled
  | some version =>
      if world.readyVersion version = some version then .ready else .broken

/-- `get_by_version`. -/
def getByVersion (releases : Table YtdlpReleaseRow) (version : String) :
    Option (Nat × YtdlpReleaseRow) :=
  (releases.select fun _ row => row.version == version).head?

/-- `get_active`. -/
def getActive (releases : Table YtdlpReleaseRow) :
    Option (Nat × YtdlpReleaseRow) :=
  (releases.select fun _ row => row.status == .active).head?

/-- `list_installed`: the newest installation first. -/
def listInstalled (releases : Table YtdlpReleaseRow) :
    List (Nat × YtdlpReleaseRow) :=
  (releases.select fun _ row => row.status != .removed).mergeSort
    fun left right => right.2.installedAt ≤ left.2.installedAt

/-- `max` by `deactivated_at`, over the rows which have one. -/
def latestDeactivated (installed : List (Nat × YtdlpReleaseRow)) :
    Option YtdlpReleaseRow :=
  (installed.filter fun entry => entry.2.deactivatedAt.isSome).foldl
    (fun latest entry =>
      match latest with
      | none => some entry.2
      | some row =>
          if row.deactivatedAt.getD 0 < entry.2.deactivatedAt.getD 0 then
            some entry.2
          else some row) none

/-- The latest deactivated release is one of the given ones. -/
theorem mem_of_latestDeactivated
    {installed : List (Nat × YtdlpReleaseRow)} {row : YtdlpReleaseRow}
    (isLatest : latestDeactivated installed = some row) :
    ∃ entry ∈ installed, entry.2 = row := by
  have fromFold : ∀ (entries : List (Nat × YtdlpReleaseRow))
      (first : Option YtdlpReleaseRow),
      entries.foldl (fun latest entry =>
        match latest with
        | none => some entry.2
        | some row =>
            if row.deactivatedAt.getD 0 < entry.2.deactivatedAt.getD 0 then
              some entry.2
            else some row) first = some row →
        first = some row ∨ ∃ entry ∈ entries, entry.2 = row := by
    intro entries
    induction entries with
    | nil => exact fun first isFirst => Or.inl isFirst
    | cons entry rest induction =>
        intro first folded
        rcases induction _ folded with here | ⟨later, inRest, same⟩
        · have isEntry : ∀ taken : Option YtdlpReleaseRow,
              taken = some entry.2 → taken = some row →
                ∃ entry' ∈ entry :: rest, entry'.2 = row := by
            rintro _ rfl sameRow
            exact ⟨entry, List.mem_cons_self, Option.some.inj sameRow⟩
          dsimp only at here
          split at here
          · exact Or.inr (isEntry _ rfl here)
          · split at here
            · exact Or.inr (isEntry _ rfl here)
            · exact Or.inl here
        · exact Or.inr ⟨later, List.mem_cons_of_mem _ inRest, same⟩
  rcases fromFold _ none isLatest with isNone | ⟨entry, member, same⟩
  · cases isNone
  · exact ⟨entry, List.mem_of_mem_filter member, same⟩

/-! ## Switching -/

/-- What happens in `_activate`. -/
structure Activating where
  switchRaises : Bool := false
  commitRaises : Bool := false
  now : Time := 0

/-- The row of a release which is no longer active. -/
def YtdlpReleaseRow.deactivated (now : Time) (row : YtdlpReleaseRow) :
    YtdlpReleaseRow :=
  { row with status := .installed, deactivatedAt := some now }

/-- The row of a release which becomes active. -/
def YtdlpReleaseRow.activated (now : Time) (row : YtdlpReleaseRow) :
    YtdlpReleaseRow :=
  { row with status := .active, activatedAt := some now }

theorem YtdlpReleaseRow.version_deactivated
    (now : Time) (row : YtdlpReleaseRow) :
    (row.deactivated now).version = row.version := rfl

theorem YtdlpReleaseRow.version_activated
    (now : Time) (row : YtdlpReleaseRow) :
    (row.activated now).version = row.version := rfl

/-- The rows after a switch. -/
def activateRelease (releases : Table YtdlpReleaseRow) (releaseId : Nat)
    (now : Time) : Table YtdlpReleaseRow :=
  let deactivated :=
    match getActive releases with
    | none => releases
    | some old =>
        if old.1 = releaseId then releases
        else releases.modify old.1 (YtdlpReleaseRow.deactivated now)
  deactivated.modify releaseId (YtdlpReleaseRow.activated now)

/-- `_activate`: first the link, then the rows. -/
def activate (happens : Activating) (releaseId : Nat) (version : String) :
    EStateM Failure World PUnit := do
  raiseIf happens.switchRaises .raised
  modify fun world => { world with current := some version }
  raiseIf happens.commitRaises .raised
  modify fun world =>
    { world with
      releases := activateRelease world.releases releaseId happens.now }

/-- What happens in `use`. -/
structure Using where
  lockRaises : Bool := false
  activating : Activating := {}

/-- The release `use` would switch to, or why it refuses. -/
def World.usable (world : World) (version : String) : Except Failure Nat :=
  if (world.venvs version).isNone then .error .unknownVersion
  else
    match getByVersion world.releases version with
    | none => .error .unknownVersion
    | some release =>
        if release.2.status = .removed then .error .unknownVersion
        else if world.readyVersion version ≠ some version then
          .error .brokenVersion
        else .ok release.1

/-- `use`. -/
def use (happens : Using) (version : String) :
    EStateM Failure World PUnit := do
  raiseIf happens.lockRaises .raised
  let world ← get
  match world.usable version with
  | .error failure => throw failure
  | .ok releaseId => activate happens.activating releaseId version

/-! ## Installing -/

/-- What happens in `install`. -/
structure Installing where
  lockRaises : Bool := false
  /-- The version pip installed with its venv, unless building it failed. -/
  build : Option (String × Venv)
  /-- Moving the venv into its place raises and leaves this there. -/
  placeRaises : Option (Option Venv) := none
  recordRaises : Bool := false
  activating : Activating := {}
  now : Time := 0

/-- The release an explicit version is answered with, to be activated or not. -/
def World.reusable (world : World) (version : Option String) (force : Bool) :
    Option (Nat × String × Bool) :=
  if force then none
  else
    version.bind fun version =>
      match world.usable version with
      | .error _ => none
      | .ok releaseId =>
          if world.getStatus = .ready then some (releaseId, version, false)
          else if world.current ≠ some version then
            some (releaseId, version, true)
          else none

/-- The built venv takes its place, unless a usable one is there. -/
def place (happens : Installing) (version : String) (venv : Venv)
    (force : Bool) : EStateM Failure World PUnit := do
  let world ← get
  if !force && world.readyVersion version == some version then pure ⟨⟩
  else
    match happens.placeRaises with
    | some left =>
        modify fun world =>
          { world with venvs := Function.update world.venvs version left }
        throw .raised
    | none =>
        modify fun world =>
          { world with
            venvs := Function.update world.venvs version (some venv) }

/-- `_record_install`. -/
def recordInstall (releases : Table YtdlpReleaseRow) (version : String)
    (source : YtdlpReleaseSource) (now : Time) :
    Nat × Table YtdlpReleaseRow :=
  match getByVersion releases version with
  | some existing =>
      (existing.1,
        if existing.2.status = .removed then
          releases.modify existing.1 fun row =>
            { row with status := .installed, installedAt := now }
        else releases)
  | none =>
      (releases.nextKey,
        releases.insert { version, installedAt := now, source })

/-- `install`: the release's key and version. -/
def install (happens : Installing) (version : Option String)
    (source : YtdlpReleaseSource) (force : Bool) :
    EStateM Failure World (Nat × String) := do
  raiseIf happens.lockRaises .raised
  let world ← get
  match world.reusable version force with
  | some (releaseId, version, needsActivation) =>
      if needsActivation then activate happens.activating releaseId version
      pure (releaseId, version)
  | none =>
      match happens.build with
      | none => throw .ytdlpInstall
      | some (installedVersion, venv) =>
          place happens installedVersion venv force
          raiseIf happens.recordRaises .raised
          let placed ← get
          let recorded :=
            recordInstall placed.releases installedVersion source happens.now
          modify fun world => { world with releases := recorded.2 }
          if world.getStatus ≠ .ready then
            activate happens.activating recorded.1 installedVersion
          pure (recorded.1, installedVersion)

/-! ## Pruning -/

/--
What happens in `prune_old_versions`.  It ignores the errors of `rmtree`, so
what could not be deleted of a directory is left there.
-/
structure Pruning where
  lockRaises : Bool := false
  remains : String → Option Venv := fun _ => none
  commitRaises : Bool := false

/-- The releases which are neither new nor protected. -/
def World.prunable (world : World) (keepVersions : Nat) :
    List (Nat × YtdlpReleaseRow) :=
  let installed := listInstalled world.releases
  if installed.length ≤ keepVersions then []
  else
    let «protected» := (world.current.toList ++
      ((latestDeactivated installed).map fun row =>
        row.version).toList).dedup
    let kept := (installed.take
      (max keepVersions «protected».length)).map fun entry => entry.2.version
    installed.filter fun entry =>
      !(kept ++ «protected»).contains entry.2.version

/-- `prune_old_versions`: the removed versions. -/
def pruneOldVersions (happens : Pruning) (keepVersions : Nat) :
    EStateM Failure World (List String) := do
  raiseIf happens.lockRaises .raised
  let world ← get
  let pruned := world.prunable keepVersions
  let removed := pruned.map fun entry => entry.2.version
  modify fun world =>
    { world with
      venvs := fun version =>
        if removed.contains version then
          (world.venvs version).bind fun _ => happens.remains version
        else world.venvs version }
  raiseIf (happens.commitRaises && !removed.isEmpty) .raised
  modify fun world =>
    { world with
      releases := world.releases.updateWhere
        (fun key _ => (pruned.map Prod.fst).contains key)
        fun row => { row with status := .removed } }
  pure removed

/-! ## How the operations end -/

section Ends

variable {world : World} {raised : Failure → World → Prop}

theorem ends_activate
    {returned : PUnit → World → Prop} (happens : Activating)
    (releaseId : Nat) (version : String) :
    Ends (activate happens releaseId version) world returned raised ↔
      if happens.switchRaises then raised .raised world
      else if happens.commitRaises then
        raised .raised { world with current := some version }
      else
        returned ⟨⟩ { world with
          current := some version
          releases :=
            activateRelease world.releases releaseId happens.now } := by
  simp only [activate, ends_bind, ends_raiseIf, ends_modify]

theorem ends_use
    {returned : PUnit → World → Prop} (happens : Using) (version : String) :
    Ends (use happens version) world returned raised ↔
      if happens.lockRaises then raised .raised world
      else
        match world.usable version with
        | .error failure => raised failure world
        | .ok releaseId =>
            Ends (activate happens.activating releaseId version) world
              returned raised := by
  simp only [use, ends_bind, ends_raiseIf, ends_get]
  cases world.usable version with
  | error failure => simp only [ends_throw]
  | ok releaseId => exact Iff.rfl

/-- Pruning leaves `current` alone, and so does an exception in it. -/
theorem ends_pruneOldVersions
    (happens : Pruning) (keepVersions : Nat) (world : World) :
    Ends (pruneOldVersions happens keepVersions) world
      (fun _ after => after.current = world.current ∧
        after.smokeTests = world.smokeTests)
      (fun _ after => after.current = world.current ∧
        after.smokeTests = world.smokeTests) := by
  simp only [pruneOldVersions, ends_bind, ends_raiseIf, ends_get,
    ends_modify, ends_pure, and_self, ite_self]

end Ends

/-! ## Releases by version -/

/-- The release row of a version, by its key, is the first of the version. -/
theorem getByVersion_eq_some
    {releases : Table YtdlpReleaseRow} {version : String}
    {release : Nat × YtdlpReleaseRow}
    (found : getByVersion releases version = some release) :
    releases.get release.1 = some release.2 ∧
      release.2.version = version := by
  have member := List.mem_of_head? found
  rw [Table.mem_select_iff, beq_iff_eq] at member
  exact member

/-- An update which keeps the versions finds the same release. -/
theorem getByVersion_modify
    (releases : Table YtdlpReleaseRow) (key : Nat)
    {change : YtdlpReleaseRow → YtdlpReleaseRow}
    (keeps : ∀ row, (change row).version = row.version) (version : String) :
    getByVersion (releases.modify key change) version =
      (getByVersion releases version).map fun release =>
        (release.1,
          if release.1 = key then change release.2 else release.2) := by
  rw [getByVersion, getByVersion, ← List.head?_map]
  congr 1
  rw [Table.select, Table.select, Table.modify, Table.updateWhere,
    List.filter_map]
  simp only [Function.comp_def, beq_iff_eq]
  congr 1
  apply List.filter_congr
  intro entry _
  split
  · rw [keeps]
  · rfl

/-- A new version is found, and the others are found as before. -/
theorem getByVersion_insert
    {releases : Table YtdlpReleaseRow} {row : YtdlpReleaseRow}
    (missing : getByVersion releases row.version = none)
    (version : String) :
    getByVersion (releases.insert row) version =
      if version = row.version then some (releases.nextKey, row)
      else getByVersion releases version := by
  rw [getByVersion, Table.select, Table.insert, List.filter_append]
  rw [getByVersion, Table.select, List.head?_eq_none_iff] at missing
  by_cases same : version = row.version
  · rw [same, missing, if_pos rfl]
    simp
  · rw [if_neg same, getByVersion, Table.select]
    simp [Ne.symm same]

/-- The version has a release which is not removed. -/
def isListed (releases : Table YtdlpReleaseRow) (version : String) : Bool :=
  (getByVersion releases version).any fun release =>
    release.2.status != .removed

/-- Releases are used when they are listed and their venv is ready. -/
theorem usable_isOk_iff (world : World) (version : String) :
    (∃ releaseId, world.usable version = .ok releaseId) ↔
      isListed world.releases version = true ∧
        world.readyVersion version = some version := by
  simp only [World.usable, isListed]
  cases found : world.venvs version with
  | none => simp [World.readyVersion, found]
  | some venv =>
      cases getByVersion world.releases version with
      | none => simp
      | some release =>
          by_cases removed : release.2.status = .removed
          · simp [removed]
          · by_cases ready : world.readyVersion version = some version
            · simp [removed, ready]
            · simp [removed, ready]

/-- A listed and ready version is answered with its release. -/
theorem usable_eq_ok
    {world : World} {version : String} {releaseId : Nat}
    {row : YtdlpReleaseRow}
    (found : getByVersion world.releases version = some (releaseId, row))
    (listed : row.status ≠ .removed)
    (ready : world.readyVersion version = some version) :
    world.usable version = .ok releaseId := by
  rw [World.usable]
  cases inPlace : world.venvs version with
  | none =>
      rw [World.readyVersion, inPlace] at ready
      cases ready
  | some venv => simp [found, listed, ready]

/-- An update which removes nothing, of rows which are listed or not asked for. -/
theorem isListed_modify
    (releases : Table YtdlpReleaseRow) (key : Nat)
    {change : YtdlpReleaseRow → YtdlpReleaseRow} {version : String}
    (keeps : ∀ row, (change row).version = row.version)
    (lists : ∀ row, releases.get key = some row → row.version = version →
      ((change row).status = .removed ↔ row.status = .removed)) :
    isListed (releases.modify key change) version =
      isListed releases version := by
  rw [isListed, isListed, getByVersion_modify releases key keeps]
  cases found : getByVersion releases version with
  | none => rfl
  | some release =>
      rcases getByVersion_eq_some found with ⟨row, sameVersion⟩
      simp only [Option.map_some, Option.any_some]
      split
      · next isKey =>
          rw [isKey] at row
          rw [Bool.eq_iff_iff, bne_iff_ne, bne_iff_ne]
          exact not_congr (lists release.2 row sameVersion)
      · rfl

/-- A recorded install leads to its row. -/
theorem getByVersion_recordInstall
    (releases : Table YtdlpReleaseRow) (version : String)
    (source : YtdlpReleaseSource) (now : Time) :
    ∃ row, getByVersion (recordInstall releases version source now).2
        version = some ((recordInstall releases version source now).1, row) ∧
      row.status ≠ .removed := by
  rw [recordInstall]
  cases found : getByVersion releases version with
  | none =>
      refine ⟨{ version, installedAt := now, source }, ?_, by simp⟩
      dsimp only
      rw [getByVersion_insert found, if_pos rfl]
  | some existing =>
      dsimp only
      split
      · refine ⟨{ existing.2 with status := .installed, installedAt := now },
          ?_, by simp⟩
        rw [getByVersion_modify, found, Option.map_some, if_pos rfl]
        exact fun _ => rfl
      · next listed => exact ⟨existing.2, found, listed⟩

/-- An install leaves the other versions alone. -/
theorem isListed_recordInstall
    (releases : Table YtdlpReleaseRow) {installed version : String}
    (source : YtdlpReleaseSource) (now : Time)
    (other : version ≠ installed) :
    isListed (recordInstall releases installed source now).2 version =
      isListed releases version := by
  rw [recordInstall]
  cases found : getByVersion releases installed with
  | none =>
      dsimp only
      rw [isListed, getByVersion_insert found, if_neg other, isListed]
  | some existing =>
      dsimp only
      split
      · apply isListed_modify
        · exact fun _ => rfl
        · intro row foundRow sameVersion
          rw [(getByVersion_eq_some found).1, Option.some.injEq] at foundRow
          rw [← foundRow, (getByVersion_eq_some found).2] at sameVersion
          exact absurd sameVersion.symm other
      · rfl

theorem getActive_eq_some
    {releases : Table YtdlpReleaseRow} {release : Nat × YtdlpReleaseRow}
    (found : getActive releases = some release) :
    releases.get release.1 = some release.2 ∧
      release.2.status = .active := by
  have member := List.mem_of_head? found
  rw [Table.mem_select_iff, beq_iff_eq] at member
  exact member

/-- The release switched to is found as before, and is active. -/
theorem getByVersion_activateRelease
    {releases : Table YtdlpReleaseRow} {releaseId : Nat} {version : String}
    {row : YtdlpReleaseRow} (now : Time)
    (found : getByVersion releases version = some (releaseId, row)) :
    ∃ activated, getByVersion (activateRelease releases releaseId now)
        version = some (releaseId, activated) ∧
      activated.status = .active := by
  rw [activateRelease, getByVersion_modify]
  · cases getActive releases with
    | none =>
        refine ⟨row.activated now, ?_, rfl⟩
        dsimp only
        rw [found, Option.map_some, if_pos rfl]
    | some old =>
        dsimp only
        split
        · refine ⟨row.activated now, ?_, rfl⟩
          rw [found, Option.map_some, if_pos rfl]
        · next other =>
            refine ⟨row.activated now, ?_, rfl⟩
            rw [getByVersion_modify _ _
              (YtdlpReleaseRow.version_deactivated now), found,
              Option.map_some, Option.map_some, if_neg (Ne.symm other),
              if_pos rfl]
  · exact YtdlpReleaseRow.version_activated now

/-- A switch lists the other versions as before. -/
theorem isListed_activateRelease
    {releases : Table YtdlpReleaseRow} {releaseId : Nat} {version : String}
    (now : Time)
    (other : ∀ row, releases.get releaseId = some row →
      row.version ≠ version) :
    isListed (activateRelease releases releaseId now) version =
      isListed releases version := by
  rw [activateRelease]
  cases isActive : getActive releases with
  | none =>
      apply isListed_modify
      · exact fun _ => rfl
      · exact fun row found same => absurd same (other row found)
  | some old =>
      dsimp only
      split
      · apply isListed_modify
        · exact fun _ => rfl
        · exact fun row found same => absurd same (other row found)
      · rw [isListed_modify, isListed_modify]
        · exact fun _ => rfl
        · intro row found _
          rw [(getActive_eq_some isActive).1, Option.some.injEq] at found
          rw [← found, (getActive_eq_some isActive).2]
          simp [YtdlpReleaseRow.deactivated]
        · exact fun _ => rfl
        · intro row found same
          rw [Table.get_modify] at found
          split at found
          · rcases Option.map_eq_some_iff.mp found with
              ⟨before, foundBefore, rfl⟩
            exact absurd same (other before foundBefore)
          · exact absurd same (other row found)

/-! ## How an installation ends -/

section Ends

variable {world : World} {raised : Failure → World → Prop}

theorem ends_place
    {returned : PUnit → World → Prop} (happens : Installing)
    (version : String) (venv : Venv) :
    Ends (place happens version venv false) world returned raised ↔
      if world.readyVersion version = some version then returned ⟨⟩ world
      else
        match happens.placeRaises with
        | some left =>
            raised .raised { world with
              venvs := Function.update world.venvs version left }
        | none =>
            returned ⟨⟩ { world with
              venvs := Function.update world.venvs version (some venv) } := by
  simp only [place, ends_bind, ends_get, ends_ite, ends_pure, Bool.not_false,
    Bool.true_and, beq_iff_eq]
  cases happens.placeRaises with
  | none => simp only [ends_modify]
  | some left => simp only [ends_bind, ends_modify, ends_throw]

/-- The newest version is built, placed, recorded and, if needed, activated. -/
theorem ends_install
    {returned : Nat × String → World → Prop} (happens : Installing)
    (source : YtdlpReleaseSource) :
    Ends (install happens none source false) world returned raised ↔
      if happens.lockRaises then raised .raised world
      else
        match happens.build with
        | none => raised .ytdlpInstall world
        | some (version, venv) =>
            Ends (place happens version venv false) world
              (fun _ placed =>
                if happens.recordRaises then raised .raised placed
                else
                  let recorded := recordInstall placed.releases version
                    source happens.now
                  if world.getStatus = .ready then
                    returned (recorded.1, version)
                      { placed with releases := recorded.2 }
                  else
                    Ends (activate happens.activating recorded.1 version)
                      { placed with releases := recorded.2 }
                      (fun _ after => returned (recorded.1, version) after)
                      raised)
              raised := by
  simp only [install, ends_bind, ends_raiseIf, ends_get, World.reusable,
    Bool.false_eq_true, if_false, Option.bind_none]
  cases happens.build with
  | none => simp only [ends_throw]
  | some built =>
      simp only [ends_bind, ends_raiseIf, ends_get, ends_modify, ends_ite,
        ends_pure, ite_not]

end Ends

end Sluicery.Downloader
