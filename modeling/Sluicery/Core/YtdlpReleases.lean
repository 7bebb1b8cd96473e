import Sluicery.Core.YtdlpUpdatePhases
import Sluicery.Downloader.Releases
import Sluicery.Library.Ranking

/-!
# Runs of the commands on versions

`rollback_ytdlp`, and the commands one after the other.  A command which
raises leaves what it has done until then, and the next one starts from
there.  `Sound` holds after every run; `Consistent` holds when no exception
has come between the disk and the rows, with the directories which prunings
could not delete and installations have left.  The release to which a rollback
returns is not the one pruning protects; the last theorem says when pruning
takes it away.
-/

namespace Sluicery.Core.YtdlpUpdate

open Sluicery.Library Sluicery.Library.Raising Sluicery.Library.Ranking
open Sluicery.Db Sluicery.Downloader

/-! ## `rollback_ytdlp` -/

/-- What happens in `rollback_ytdlp`. -/
structure RollingBack where
  lockRaises : Bool := false
  latestRaises : Bool := false
  observe : String → Observations
  smoke : Smoking := {}
  returning : Using := {}

/-- `_latest_rollback_version` without the current version. -/
def previousVersion (world : World) : Option String :=
  match world.current with
  | some current => latestRollbackVersion world.releases current
  | none =>
      (latestDeactivated (listInstalled world.releases)).map fun row =>
        row.version

/-- `rollback_ytdlp`. -/
def rollbackYtdlp (happens : RollingBack) :
    EStateM CommandFailure World UpdateResult := do
  raiseIf happens.lockRaises (.failure .raised)
  raiseIf happens.latestRaises (.failure .raised)
  let world ← get
  match previousVersion world with
  | none => throw .ytdlpRollback
  | some previous =>
      let smoke ← EStateM.adaptExcept .failure
        (runConfiguredSmoke happens.smoke happens.observe previous)
      EStateM.adaptExcept .failure (recordSmoke happens.smoke smoke)
      if smoke.success then
        EStateM.adaptExcept .failure (use happens.returning previous)
        pure
          { status := "rolled_back"
            candidateVersion := some previous
            activeVersion := some previous
            candidateSmoke := some smoke }
      else throw .ytdlpRollback

/-! ## The commands -/

/--
A command, with what happens in it.  An update or a rollback takes the lock of
the versions anew for each of its operations; when others come in between, its
own are the smaller commands, and the writing of a test result is one of them.
The `use` of such an update has the session of its `install`, whose rows may
be older than those of the others; here every command reads the rows anew.
-/
inductive Command where
  | install (happens : Installing) (version : Option String)
    (source : YtdlpReleaseSource) (force : Bool)
  | use (happens : Using) (version : String)
  | remove (happens : Removing) (version : String)
  | prune (happens : Pruning) (keepVersions : Nat)
  | recordSmoke (happens : Smoking) (result : SmokeTestResult)
  | update (happens : Updating) (source : YtdlpReleaseSource)
  | rollback (happens : RollingBack)

/-- What a command leaves, whether it returns or raises. -/
def Command.run : Command → World → World
  | .install happens version source force =>
      stateAfter (Downloader.install happens version source force)
  | .use happens version => stateAfter (Downloader.use happens version)
  | .remove happens version => stateAfter (Downloader.remove happens version)
  | .prune happens keepVersions =>
      stateAfter (pruneOldVersions happens keepVersions)
  | .recordSmoke happens result =>
      stateAfter (YtdlpUpdate.recordSmoke happens result)
  | .update happens source => stateAfter (updateYtdlp happens source)
  | .rollback happens => stateAfter (rollbackYtdlp happens)

/-- One command after the other. -/
def runCommands (commands : List Command) (world : World) : World :=
  commands.foldl (fun world command => command.run world) world

/-- No exception between the disk and the rows. -/
structure Updating.IsWhole (happens : Updating) : Prop where
  installing : happens.installing.IsWhole
  switching : happens.switching.activating.IsWhole
  pruning : happens.pruning.IsWhole
  returning : happens.returning.activating.IsWhole

/-- What an update leaves without a row is among these versions. -/
structure Updating.LeavesOnly (happens : Updating) (left : String → Prop) :
    Prop where
  installing : happens.installing.LeavesOnly left
  pruning : happens.pruning.LeavesOnly left

/-- What the command leaves without a row is among these versions. -/
def Command.LeavesOnly (left : String → Prop) : Command → Prop
  | .install happens _ _ _ => happens.LeavesOnly left
  | .prune happens _ => happens.LeavesOnly left
  | .update happens _ => happens.LeavesOnly left
  | _ => True

def Command.IsWhole : Command → Prop
  | .install happens _ _ _ => happens.IsWhole
  | .use happens _ => happens.activating.IsWhole
  | .remove happens _ => happens.IsWhole
  | .prune happens _ => happens.IsWhole
  | .recordSmoke _ _ => True
  | .update happens _ => happens.IsWhole
  | .rollback happens => happens.returning.activating.IsWhole

/-! ## What the commands keep -/

section Keeps

variable {whole : Prop} {left : String → Prop}

/-- The results of smoke tests say nothing about the releases. -/
theorem agrees_smokeTests
    {world : World} (agrees : Agrees whole left world)
    (smokeTests : List (String × Bool)) :
    Agrees whole left { world with smokeTests } where
  sound := ⟨agrees.sound.unique, agrees.sound.active, agrees.sound.linked⟩
  consistent := fun isWhole =>
    ⟨(agrees.consistent isWhole).kept, (agrees.consistent isWhole).disk,
      (agrees.consistent isWhole).link⟩

theorem keeps_runConfiguredSmoke
    (happens : Smoking) (observe : String → Observations) (version : String) :
    Keeps (Agrees whole left) (runConfiguredSmoke happens observe version) := by
  intro world agrees
  rw [ends_runConfiguredSmoke]
  split
  · exact agrees
  · split
    · exact agrees
    · exact agrees_smokeTests agrees _

/-- A result which is written into a row leaves its version and its status. -/
theorem keeps_recordSmoke (happens : Smoking) (result : SmokeTestResult) :
    Keeps (Agrees whole left) (recordSmoke happens result) := by
  intro world agrees
  rw [recordSmoke, ends_bind, ends_raiseIf]
  split
  · exact agrees
  rw [ends_modify, smokeRecorded]
  split
  · exact agrees
  next release found =>
  have unique : UniqueVersions (world.releases.modify release.1 fun row =>
      { row with smoketestResultJson := some result.toDict }) :=
    agrees.sound.unique.modify_same fun _ => rfl
  have listed : ∀ version, isListed (world.releases.modify release.1
      fun row => { row with smoketestResultJson := some result.toDict })
        version = isListed world.releases version :=
    fun version => isListed_modify _ _ (fun _ => rfl) fun _ _ _ => Iff.rfl
  have active : ∀ version, isActive (world.releases.modify release.1
      fun row => { row with smoketestResultJson := some result.toDict })
        version = isActive world.releases version :=
    fun version => isActive_modify _ _ (fun _ => rfl) fun _ _ _ => Iff.rfl
  constructor
  · constructor
    · exact unique
    · apply active_of_isActive unique
      intro left right activeLeft activeRight
      rw [active] at activeLeft activeRight
      exact agrees.sound.version_of_isActive activeLeft activeRight
    · intro version isCurrent
      rw [listed]
      exact agrees.sound.linked version isCurrent
  · intro isWhole
    constructor
    · intro version
      rw [listed]
      exact (agrees.consistent isWhole).kept version
    · intro version
      rw [listed]
      exact (agrees.consistent isWhole).disk version
    · intro version
      rw [active]
      exact (agrees.consistent isWhole).link version

theorem keeps_switchToCandidate
    {happens : Updating} (isWhole : whole → Updating.IsWhole happens)
    (leavesOnly : happens.installing.LeavesOnly left)
    (previous : Option String) (source : YtdlpReleaseSource) :
    Keeps (Agrees whole left) (switchToCandidate happens previous source) := by
  apply Keeps.tryCatch
  · apply (keeps_install (fun holds => (isWhole holds).installing) leavesOnly
      none source false).bind
    intro candidate
    apply Keeps.ite
    · apply (keeps_use (fun holds => (isWhole holds).switching) _).bind
      exact fun _ => keeps_pure _
    · exact keeps_pure _
  · intro failure
    apply Keeps.ite
    · exact keeps_pure _
    · exact keeps_throw _

theorem keeps_keepCandidate
    {happens : Updating} (isWhole : whole → Updating.IsWhole happens)
    (leavesOnly : happens.pruning.LeavesOnly left)
    (previous : Option String) (candidate : String) (smoke : SmokeTestResult) :
    Keeps (Agrees whole left) (keepCandidate happens previous candidate smoke) := by
  apply (keeps_raiseIf _ _).bind
  intro _
  apply (keeps_prune (fun holds => (isWhole holds).pruning) leavesOnly
    _).bind
  exact fun _ => keeps_pure _

theorem keeps_rollBack
    {happens : Updating} (isWhole : whole → Updating.IsWhole happens)
    (previous : Option String) (candidate : String) (smoke : SmokeTestResult) :
    Keeps (Agrees whole left) (rollBack happens previous candidate smoke) := by
  apply (keeps_raiseIf _ _).bind
  intro _ world agrees
  rw [ends_bind, ends_get]
  cases rollbackVersion world.releases previous candidate with
  | none => exact agrees
  | some version =>
      apply (keeps_runConfiguredSmoke _ _ _).bind _ world agrees
      intro rollbackSmoke
      apply (keeps_recordSmoke _ _).bind
      intro _
      apply Keeps.ite
      · apply (keeps_use (fun holds => (isWhole holds).returning) _).bind
        exact fun _ => keeps_pure _
      · exact keeps_pure _

theorem keeps_updateYtdlp
    {happens : Updating} (isWhole : whole → Updating.IsWhole happens)
    (leavesOnly : happens.LeavesOnly left) (source : YtdlpReleaseSource) :
    Keeps (Agrees whole left) (updateYtdlp happens source) := by
  apply (keeps_raiseIf _ _).bind
  intro _ world agrees
  rw [ends_bind, ends_get]
  apply (keeps_switchToCandidate isWhole leavesOnly.installing _ source).bind
    _ world agrees
  intro switched
  cases switched with
  | none => exact keeps_pure _
  | some candidate =>
      apply (keeps_runConfiguredSmoke _ _ _).bind
      intro smoke
      apply (keeps_recordSmoke _ _).bind
      intro _
      apply Keeps.ite
      · exact keeps_keepCandidate isWhole leavesOnly.pruning _ _ _
      · exact keeps_rollBack isWhole _ _ _

theorem keeps_rollbackYtdlp
    {happens : RollingBack}
    (isWhole : whole → happens.returning.activating.IsWhole) :
    Keeps (Agrees whole left) (rollbackYtdlp happens) := by
  apply (keeps_raiseIf _ _).bind
  intro _
  apply (keeps_raiseIf _ _).bind
  intro _ world agrees
  rw [ends_bind, ends_get]
  cases previousVersion world with
  | none => exact agrees
  | some previous =>
      apply ((keeps_runConfiguredSmoke _ _ _).adaptExcept _).bind _ world
        agrees
      intro smoke
      apply ((keeps_recordSmoke _ _).adaptExcept _).bind
      intro _
      apply Keeps.ite
      · apply ((keeps_use isWhole _).adaptExcept _).bind
        exact fun _ => keeps_pure _
      · exact keeps_throw _

theorem agrees_run
    {command : Command} (isWhole : whole → command.IsWhole)
    (leavesOnly : command.LeavesOnly left) {world : World}
    (agrees : Agrees whole left world) : Agrees whole left (command.run world) := by
  cases command with
  | install happens version source force =>
      exact (keeps_install isWhole leavesOnly version source force world
        agrees).stateAfter
  | use happens version =>
      exact (keeps_use isWhole version world agrees).stateAfter
  | remove happens version =>
      exact (keeps_remove isWhole version world agrees).stateAfter
  | prune happens keepVersions =>
      exact (keeps_prune isWhole leavesOnly keepVersions world
        agrees).stateAfter
  | recordSmoke happens result =>
      exact (keeps_recordSmoke happens result world agrees).stateAfter
  | update happens source =>
      exact (keeps_updateYtdlp isWhole leavesOnly source world
        agrees).stateAfter
  | rollback happens =>
      exact (keeps_rollbackYtdlp isWhole world agrees).stateAfter

theorem agrees_runCommands
    {commands : List Command}
    (isWhole : whole → ∀ command ∈ commands, command.IsWhole)
    (leavesOnly : ∀ command ∈ commands, command.LeavesOnly left)
    {world : World} (agrees : Agrees whole left world) :
    Agrees whole left (runCommands commands world) := by
  induction commands generalizing world with
  | nil => exact agrees
  | cons command rest induction =>
      apply induction
      · exact fun holds other member =>
          isWhole holds other (List.mem_cons_of_mem _ member)
      · exact fun other member =>
          leavesOnly other (List.mem_cons_of_mem _ member)
      · exact agrees_run (fun holds => isWhole holds command
          List.mem_cons_self) (leavesOnly command List.mem_cons_self) agrees

theorem Command.leavesOnly_all (command : Command) :
    command.LeavesOnly fun _ => True := by
  cases command with
  | install => exact fun _ _ _ _ => trivial
  | prune => exact fun _ _ => trivial
  | update => exact ⟨fun _ _ _ _ => trivial, fun _ _ => trivial⟩
  | _ => exact trivial

/-- Nothing is installed in the beginning. -/
theorem agrees_empty : Agrees whole left ({} : World) where
  sound := by
    constructor
    · intro left right leftRow rightRow found
      cases found
    · intro left right leftRow rightRow found
      cases found
    · intro version isCurrent
      cases isCurrent
  consistent := fun _ => by
    constructor
    · intro version listed
      cases listed
    · intro version isThere
      cases isThere
    · intro version
      constructor
      · intro isCurrent
        cases isCurrent
      · intro active
        cases active

end Keeps

/-! ## Runs -/

/--
An installation raises when its venv is there; four versions are installed,
and the one which is pruned is not deleted.
-/
def oneRemains : List Command :=
  [.install
      { build := some ("2024.0", ⟨some "2024.0"⟩)
        placeRaises := some (some ⟨none⟩) } none .initial false,
    .install { build := some ("2024.1", ⟨some "2024.1"⟩) } none .initial false,
    .install { build := some ("2024.2", ⟨some "2024.2"⟩), now := 1 } none
      .manual false,
    .install { build := some ("2024.3", ⟨some "2024.3"⟩), now := 2 } none
      .manual false,
    .update
      { installing := { build := some ("2024.4", ⟨some "2024.4"⟩), now := 3 }
        keepVersions := 2
        pruning :=
          { remains := fun version =>
              if version = "2024.2" then some ⟨none⟩ else none }
        observe := fun _ => {} } .auto]

/-- The first of the latest deactivated releases. -/
theorem latestDeactivated_eq_argmax
    (installed : List (Nat × YtdlpReleaseRow)) :
    latestDeactivated installed =
      ((installed.filter fun entry => entry.2.deactivatedAt.isSome).argmax
        fun entry => entry.2.deactivatedAt.getD 0).map Prod.snd := by
  rw [latestDeactivated]
  induction installed.filter (fun entry => entry.2.deactivatedAt.isSome)
    using List.reverseRecOn with
  | nil => rfl
  | append_singleton entries last induction =>
      rw [List.foldl_append, induction, List.argmax_concat]
      cases entries.argmax fun entry => entry.2.deactivatedAt.getD 0 with
      | none => rfl
      | some first =>
          show (if first.2.deactivatedAt.getD 0 <
              last.2.deactivatedAt.getD 0 then some last.2
            else some first.2) = Option.map Prod.snd
              (if first.2.deactivatedAt.getD 0 <
                last.2.deactivatedAt.getD 0 then some last
              else some first)
          rw [apply_ite (Option.map Prod.snd)]
          rfl

/-- The latest of all is the latest of those it belongs to. -/
theorem latestDeactivated_filter
    {installed : List (Nat × YtdlpReleaseRow)}
    {keeps : Nat × YtdlpReleaseRow → Bool} {latest : YtdlpReleaseRow}
    (isLatest : latestDeactivated installed = some latest)
    (kept : ∀ key, keeps (key, latest) = true) :
    latestDeactivated (installed.filter keeps) = some latest := by
  rw [latestDeactivated_eq_argmax, Option.map_eq_some_iff] at isLatest ⊢
  rcases isLatest with ⟨entry, isGreatest, rfl⟩
  refine ⟨entry, ?_, rfl⟩
  rw [List.filter_comm]
  exact argmax_filter _ isGreatest (kept entry.1)

/-- The releases `_latest_rollback_version` chooses from. -/
def rollbackCandidates (world : World) : List (Nat × YtdlpReleaseRow) :=
  (listInstalled world.releases).filter fun entry =>
    !world.current.any (entry.2.version == ·)

theorem previousVersion_eq (world : World) :
    previousVersion world =
      (latestDeactivated (rollbackCandidates world)).map
        fun row => row.version := by
  rw [previousVersion, rollbackCandidates]
  cases world.current with
  | none =>
      dsimp only
      congr 2
      symm
      exact List.filter_eq_self.mpr fun _ _ => rfl
  | some current => rfl

/-- The version to return to is installed, and not the current one. -/
theorem exists_of_previousVersion
    {world : World} {version : String}
    (isPrevious : previousVersion world = some version) :
    ∃ entry ∈ listInstalled world.releases, entry.2.version = version ∧
      world.current ≠ some version := by
  rw [previousVersion_eq, Option.map_eq_some_iff] at isPrevious
  rcases isPrevious with ⟨row, isLatest, rfl⟩
  rcases mem_of_latestDeactivated isLatest with ⟨entry, member, rfl⟩
  rcases List.mem_filter.mp member with ⟨installed, notCurrent⟩
  refine ⟨entry, installed, rfl, fun isCurrent => ?_⟩
  rw [isCurrent, Option.any_some, beq_self_eq_true] at notCurrent
  cases notCurrent

/-- What pruning protects is returned to, unless it is the current version. -/
theorem current_of_latestDeactivated
    {world : World} {version : String} {latest : YtdlpReleaseRow}
    (isPrevious : previousVersion world = some version)
    (isLatest : latestDeactivated (listInstalled world.releases) =
      some latest)
    (other : latest.version ≠ version) :
    world.current = some latest.version := by
  by_contra notCurrent
  have kept : latestDeactivated (rollbackCandidates world) = some latest := by
    apply latestDeactivated_filter isLatest
    intro key
    cases isCurrent : world.current with
    | none => rfl
    | some current =>
        rw [isCurrent, Option.some.injEq] at notCurrent
        rw [Option.any_some, beq_eq_false_iff_ne.mpr (Ne.symm notCurrent)]
        rfl
  rw [previousVersion_eq, kept, Option.map_some,
    Option.some.injEq] at isPrevious
  exact other isPrevious

/-- There is a latest release if there is one to return to. -/
theorem exists_latestDeactivated
    {world : World} {version : String}
    (isPrevious : previousVersion world = some version) :
    ∃ latest, latestDeactivated (listInstalled world.releases) =
      some latest := by
  rw [← Option.isSome_iff_exists]
  by_contra noLatest
  rw [Bool.not_eq_true, Option.isSome_eq_false_iff, Option.isNone_iff_eq_none,
    latestDeactivated_eq_argmax, Option.map_eq_none_iff,
    List.argmax_eq_none] at noLatest
  rw [previousVersion_eq, latestDeactivated_eq_argmax, rollbackCandidates,
    List.filter_comm, noLatest] at isPrevious
  cases isPrevious

/-- The versions pruning removes. -/
def prunedVersions (world : World) (keepVersions : Nat) : List String :=
  (world.prunable keepVersions).map fun entry => entry.2.version

/-- A listed release of a pruned version is pruned itself. -/
theorem mem_prunable_of_version
    {world : World} {keepVersions : Nat} {entry : Nat × YtdlpReleaseRow}
    (isPruned : entry.2.version ∈ prunedVersions world keepVersions)
    (installed : entry ∈ listInstalled world.releases) :
    entry ∈ world.prunable keepVersions := by
  rcases List.mem_map.mp isPruned with ⟨other, member, same⟩
  rw [World.prunable] at member ⊢
  dsimp only at member ⊢
  split at member
  · cases member
  · next many =>
      rw [if_neg many, List.mem_filter]
      rcases List.mem_filter.mp member with ⟨-, notKept⟩
      rw [same] at notKept
      exact ⟨installed, notKept⟩

theorem mem_prunedVersions_iff
    {world : World} {latest : YtdlpReleaseRow}
    (isLatest : latestDeactivated (listInstalled world.releases) =
      some latest)
    (isCurrent : world.current = some latest.version)
    (keepVersions : Nat) (version : String) :
    version ∈ prunedVersions world keepVersions ↔
      keepVersions < (listInstalled world.releases).length ∧
        (∃ entry ∈ listInstalled world.releases, entry.2.version = version) ∧
        version ∉ ((listInstalled world.releases).take
          (max keepVersions 1)).map (fun entry => entry.2.version) ∧
        version ≠ latest.version := by
  have single : [latest.version, latest.version].dedup =
      [latest.version] :=
    List.dedup_cons_of_mem (List.mem_singleton_self _)
  rw [prunedVersions, List.mem_map]
  simp only [World.prunable, isLatest, isCurrent, Option.toList_some,
    Option.map_some, List.singleton_append, single, List.length_singleton]
  split
  · next few =>
      constructor
      · rintro ⟨entry, member, -⟩
        cases member
      · rintro ⟨many, -⟩
        omega
  · next many =>
      simp only [List.mem_filter, Bool.not_eq_true', Bool.eq_false_iff, ne_eq,
        List.contains_iff_mem, List.mem_append, List.mem_singleton, not_or]
      constructor
      · rintro ⟨entry, ⟨member, notKept, notLatest⟩, rfl⟩
        exact ⟨by omega, ⟨entry, member, rfl⟩, notKept, notLatest⟩
      · rintro ⟨-, ⟨entry, member, rfl⟩, notKept, notLatest⟩
        exact ⟨entry, ⟨member, notKept, notLatest⟩, rfl⟩

/-- The latest deactivated release is protected. -/
theorem not_mem_prunedVersions
    {world : World} {latest : YtdlpReleaseRow}
    (isLatest : latestDeactivated (listInstalled world.releases) =
      some latest)
    (keepVersions : Nat) :
    latest.version ∉ prunedVersions world keepVersions := by
  intro removed
  rcases List.mem_map.mp removed with ⟨entry, member, same⟩
  rw [World.prunable] at member
  dsimp only at member
  split at member
  · cases member
  · rcases List.mem_filter.mp member with ⟨-, notKept⟩
    rw [Bool.not_eq_true', Bool.eq_false_iff, ne_eq, List.contains_iff_mem,
      List.mem_append, not_or, List.mem_dedup, List.mem_append,
      not_or] at notKept
    apply notKept.2.2
    rw [isLatest, same]
    exact List.mem_singleton_self _

/-- A row is removed if and only if its version is pruned. -/
theorem get_pruned
    (world : World) (keepVersions key : Nat) :
    (world.releases.updateWhere
        (fun key _ =>
          ((world.prunable keepVersions).map Prod.fst).contains key)
        fun row => { row with status := .removed }).get key =
      (world.releases.get key).map fun row =>
        if row.version ∈ prunedVersions world keepVersions then
          { row with status := .removed }
        else row := by
  rw [Table.get_updateWhere]
  cases found : world.releases.get key with
  | none => rfl
  | some row =>
      rw [Option.map_some, Option.map_some, Option.some.injEq]
      by_cases contained :
          ((world.prunable keepVersions).map Prod.fst).contains key = true
      · rw [if_pos contained, if_pos]
        rcases List.mem_map.mp (List.contains_iff_mem.mp contained) with
          ⟨⟨other, row'⟩, isPruned, rfl⟩
        have isRow := (mem_prunable isPruned).1
        rw [found, Option.some.injEq] at isRow
        exact List.mem_map.mpr
          ⟨_, isPruned, congrArg YtdlpReleaseRow.version isRow.symm⟩
      · rw [if_neg contained]
        rw [List.contains_iff_mem] at contained
        split
        · next isPruned =>
            -- Such a row is pruned itself, unless it was removed before.
            by_cases removed : row.status = .removed
            · rw [← removed]
            · refine absurd (List.mem_map.mpr ⟨(key, row), ?_, rfl⟩)
                contained
              exact mem_prunable_of_version isPruned
                (mem_listInstalled.mpr ⟨found, removed⟩)
        · rfl

/--
Pruning never removes the current version.  It removes the one to which a
rollback would return if and only if the latest deactivated release is the
current one, and the other is not among the newest.  The rows and the
directories of the other versions stay, and so do all rows when it raises.
-/
theorem ends_prune_previous
    (happens : Pruning) (keepVersions : Nat) (world : World) :
    Ends (pruneOldVersions happens keepVersions) world
      (fun removed after =>
        ((∀ version ∈ removed, world.current ≠ some version) ∧
          ∀ version, previousVersion world = some version →
            (version ∈ removed ↔
              keepVersions < (listInstalled world.releases).length ∧
                ((latestDeactivated (listInstalled world.releases)).map
                  fun row => row.version) = world.current ∧
                version ∉ ((listInstalled world.releases).take
                  (max keepVersions 1)).map fun entry => entry.2.version)) ∧
          after.current = world.current ∧
          (∀ version, version ∉ removed →
            after.venvs version = world.venvs version) ∧
          ∀ key, after.releases.get key =
            (world.releases.get key).map fun row =>
              if row.version ∈ removed then { row with status := .removed }
              else row)
      (fun _ after => after.current = world.current ∧
        after.releases = world.releases ∧
        ∀ version, version ∉ prunedVersions world keepVersions →
          after.venvs version = world.venvs version) := by
  have stays : ∀ version, version ∉ prunedVersions world keepVersions →
      ((world.prunable keepVersions).map fun entry =>
        entry.2.version).contains version ≠ true := by
    intro version notPruned contained
    exact notPruned (List.contains_iff_mem.mp contained)
  rw [pruneOldVersions, ends_bind, ends_raiseIf]
  split
  · exact ⟨rfl, rfl, fun _ _ => rfl⟩
  rw [ends_bind, ends_get]
  dsimp only
  rw [ends_bind, ends_modify, ends_bind, ends_raiseIf]
  split
  · exact ⟨rfl, rfl, fun version notPruned =>
      if_neg (stays version notPruned)⟩
  rw [ends_bind, ends_modify, ends_pure]
  refine ⟨⟨?_, ?_⟩, rfl, fun version notPruned =>
    if_neg (stays version notPruned), get_pruned world keepVersions⟩
  · rintro version removed isCurrent
    rcases List.mem_map.mp removed with ⟨entry, member, rfl⟩
    exact (mem_prunable member).2 isCurrent
  · intro version isPrevious
    rcases exists_latestDeactivated isPrevious with ⟨latest, isLatest⟩
    rcases exists_of_previousVersion isPrevious with
      ⟨entry, installed, isVersion, notCurrent⟩
    rw [isLatest, Option.map_some]
    constructor
    · intro removed
      have other : latest.version ≠ version := by
        rintro rfl
        exact not_mem_prunedVersions isLatest keepVersions removed
      have isCurrent := current_of_latestDeactivated isPrevious isLatest other
      have isPruned := (mem_prunedVersions_iff isLatest isCurrent keepVersions
        version).mp removed
      exact ⟨isPruned.1, isCurrent.symm, isPruned.2.2.1⟩
    · rintro ⟨many, isCurrent, notKept⟩
      apply (mem_prunedVersions_iff isLatest isCurrent.symm keepVersions
        version).mpr
      refine ⟨many, ⟨entry, installed, isVersion⟩, notKept, ?_⟩
      rintro rfl
      exact notCurrent isCurrent.symm

end Sluicery.Core.YtdlpUpdate
