import Sluicery.Core.YtdlpUpdatePhases

/-!
# The version an update leaves active

The switch to the candidate comes before its smoke test, and the return to
the version before comes after that version's smoke test; an exception in
between leaves the candidate current.  `update_leaves_safe_version_iff` says
exactly which exceptions those are.
-/

namespace Sluicery.Core.YtdlpUpdate

open Sluicery.Library Sluicery.Library.Raising
open Sluicery.Db Sluicery.Downloader

/-! ## The whole update -/

/-- The built venv gets into its place and its release is recorded. -/
structure Installs (happens : Updating) (before : World)
    (candidate : String) (venv : Venv) : Prop where
  locked : happens.lockRaises = false
  installLocked : happens.installing.lockRaises = false
  built : happens.installing.build = some (candidate, venv)
  placed : before.readyVersion candidate = some candidate ∨
    happens.installing.placeRaises = none
  recorded : happens.installing.recordRaises = false

/-- The venv in the place of the candidate is ready. -/
def ReadyAfter (before : World) (candidate : String) (venv : Venv) : Prop :=
  before.readyVersion candidate = some candidate ∨
    venv.readyVersion = some candidate

/-- The link is switched to a new candidate. -/
structure Switches (happens : Updating) (before : World)
    (candidate : String) (venv : Venv) : Prop
    extends Installs happens before candidate venv where
  isNew : before.current ≠ some candidate
  linked : if before.getStatus = .ready then
      Links happens (ReadyAfter before candidate venv)
    else happens.installing.activating.switchRaises = false

/-- Nothing raises from the switch of the link to the smoke test. -/
structure Finishes (happens : Updating) (before : World)
    (candidate : String) (venv : Venv) : Prop where
  installed : before.getStatus ≠ .ready →
    happens.installing.activating.commitRaises = false
  links : Links happens (ReadyAfter before candidate venv)
  committed : happens.switching.activating.commitRaises = false
  prepares : Prepares happens

/-- The rows after the install of the candidate and the switch to it. -/
def switchedReleases (happens : Updating) (source : YtdlpReleaseSource)
    (before : World) (candidate : String) : Table YtdlpReleaseRow :=
  let recorded := recordInstall before.releases candidate source
    happens.installing.now
  activateRelease
    (if before.getStatus = .ready then recorded.2
      else activateRelease recorded.2 recorded.1
        happens.installing.activating.now)
    recorded.1 happens.switching.activating.now

/--
Between the switch to a new candidate and its smoke test nothing raises if a
healthy earlier version is there, and nothing keeps a version from being
returned to after it has passed its smoke test.
-/
structure ReturnsSafely (happens : Updating) (source : YtdlpReleaseSource)
    (before : World) : Prop where
  tested : ∀ candidate venv, Switches happens before candidate venv →
    HealthyEarlier happens before candidate →
      Finishes happens before candidate venv
  restored : ∀ candidate venv, Switches happens before candidate venv →
    Finishes happens before candidate venv →
      isHealthy happens candidate = false →
        happens.candidateSmoke.recordRaises = false →
          ∀ version,
            PassesBefore happens
              (smokeRecorded
                (switchedReleases happens source before candidate)
                (candidateResult happens candidate))
              before.current candidate version →
              Returns happens before.releases before.venvs version

section Update

variable {happens : Updating} {source : YtdlpReleaseSource} {before : World}

theorem isListed_smokeRecorded
    (releases : Table YtdlpReleaseRow) (result : SmokeTestResult)
    (version : String) :
    isListed (smokeRecorded releases result) version =
      isListed releases version := by
  rw [smokeRecorded]
  split
  · rfl
  · exact isListed_modify _ _ (fun _ => rfl) fun _ _ _ => Iff.rfl

/-- The other versions are listed after the switch as before. -/
theorem isListed_switchedReleases
    {candidate version : String} (other : version ≠ candidate) :
    isListed (switchedReleases happens source before candidate) version =
      isListed before.releases version := by
  rcases getByVersion_recordInstall before.releases candidate source
    happens.installing.now with ⟨row, found, -⟩
  -- The switch changes the row of the candidate, whatever was done to it.
  have notOther : ∀ {releases : Table YtdlpReleaseRow} {releaseId : Nat}
      {row : YtdlpReleaseRow},
      getByVersion releases candidate = some (releaseId, row) →
        ∀ row, releases.get releaseId = some row →
          row.version ≠ version := by
    rintro releases releaseId row foundHere other' foundRow same
    rcases getByVersion_eq_some foundHere with ⟨stored, isCandidate⟩
    rw [stored, Option.some.injEq] at foundRow
    rw [foundRow, same] at isCandidate
    exact other isCandidate
  rw [switchedReleases]
  split
  · rw [isListed_activateRelease _ (notOther found),
      isListed_recordInstall _ _ _ other]
  · rcases getByVersion_activateRelease
      happens.installing.activating.now found with ⟨activated, foundAfter, -⟩
    rw [isListed_activateRelease _ (notOther foundAfter),
      isListed_activateRelease _ (notOther found),
      isListed_recordInstall _ _ _ other]

/-- Whether a version can be returned to was decided before the call. -/
theorem restores_iff
    {candidate : String} {venvs : String → Option Venv}
    (sameVenvs : ∀ version, version ≠ candidate →
      venvs version = before.venvs version) :
    Restores happens before
        (switchedReleases happens source before candidate) venvs candidate ↔
      (isHealthy happens candidate = false →
        happens.candidateSmoke.recordRaises = false →
          ∀ version,
            PassesBefore happens
              (smokeRecorded
                (switchedReleases happens source before candidate)
                (candidateResult happens candidate))
              before.current candidate version →
              Returns happens before.releases before.venvs version) := by
  rw [Restores]
  apply imp_congr_right
  intro _
  apply imp_congr_right
  intro _
  apply forall_congr'
  intro version
  apply imp_congr_right
  intro passes
  have other := rollbackVersion_ne passes.isVersion
  have sameListed : isListed
      (smokeRecorded
        (smokeRecorded (switchedReleases happens source before candidate)
          (candidateResult happens candidate))
        (rollbackResult happens version)) version =
      isListed before.releases version := by
    rw [isListed_smokeRecorded, isListed_smokeRecorded,
      isListed_switchedReleases other]
  constructor
  · rintro ⟨recorded, locked, listed, ready, switched⟩
    rw [sameListed] at listed
    rw [sameVenvs version other] at ready
    exact ⟨recorded, locked, listed, ready, switched⟩
  · rintro ⟨recorded, locked, listed, ready, switched⟩
    rw [← sameListed] at listed
    rw [← sameVenvs version other] at ready
    exact ⟨recorded, locked, listed, ready, switched⟩

/-- An exception of the installation or the switch is passed on or returned. -/
theorem ends_switchToCandidate
    {returned : Option String → World → Prop} {ended : World → Prop}
    {previous : Option String} (start : World)
    (same : ∀ world, returned none world ↔ ended world) :
    Ends (switchToCandidate happens previous source) start returned
        (fun _ world => ended world) ↔
      Ends (install happens.installing none source false) start
        (fun candidate world =>
          if previous = some candidate.2 then
            returned (some candidate.2) world
          else
            Ends (use happens.switching candidate.2) world
              (fun _ switched => returned (some candidate.2) switched)
              (fun _ world => ended world))
        (fun _ world => ended world) := by
  have handled : ∀ (failure : Failure) (world : World),
      Ends (if failure = .ytdlpInstall then
          (pure none : EStateM Failure World (Option String))
        else throw failure) world returned (fun _ world => ended world) ↔
        ended world := by
    intro failure world
    rw [ends_ite, ends_pure, ends_throw]
    split
    · exact same world
    · exact Iff.rfl
  simp only [switchToCandidate, ends_tryCatch, ends_bind, handled, ends_ite,
    ends_pure, ite_not]

/-- Nothing is asked where the link is not switched. -/
theorem returnsSafely_of_not
    (never : ∀ candidate venv, ¬ Switches happens before candidate venv) :
    ReturnsSafely happens source before where
  tested := fun candidate venv switches =>
    absurd switches (never candidate venv)
  restored := fun candidate venv switches =>
    absurd switches (never candidate venv)

/-- What is asked of the only candidate. -/
theorem returnsSafely_iff
    {candidate : String} {venv : Venv}
    (built : happens.installing.build = some (candidate, venv)) :
    ReturnsSafely happens source before ↔
      (Switches happens before candidate venv →
        (HealthyEarlier happens before candidate →
          Finishes happens before candidate venv) ∧
        (Finishes happens before candidate venv →
          (isHealthy happens candidate = false →
            happens.candidateSmoke.recordRaises = false →
              ∀ version,
                PassesBefore happens
                  (smokeRecorded
                    (switchedReleases happens source before candidate)
                    (candidateResult happens candidate))
                  before.current candidate version →
                  Returns happens before.releases before.venvs version))) := by
  have only : ∀ {other : String} {otherVenv : Venv},
      Switches happens before other otherVenv →
        candidate = other ∧ venv = otherVenv := by
    intro other otherVenv switches
    have builtOther := switches.built
    rw [built, Option.some.injEq, Prod.mk.injEq] at builtOther
    exact builtOther
  constructor
  · exact fun safely switches =>
      ⟨safely.tested candidate venv switches,
        safely.restored candidate venv switches⟩
  · intro asked
    constructor
    · intro other otherVenv switches
      rcases only switches with ⟨rfl, rfl⟩
      exact (asked switches).1
    · intro other otherVenv switches
      rcases only switches with ⟨rfl, rfl⟩
      exact (asked switches).2

/-- The world after the venv has got into its place. -/
structure Placed (before placed : World) (candidate : String)
    (venv : Venv) : Prop where
  current : placed.current = before.current
  untested : placed.smokeTests = []
  releases : placed.releases = before.releases
  ready : placed.readyVersion candidate = some candidate ↔
    ReadyAfter before candidate venv
  venvs : ∀ version, version ≠ candidate →
    placed.venvs version = before.venvs version

/-- The switch after an installation which has activated nothing. -/
theorem ends_switchReady_iff
    {candidate : String} {venv : Venv} {placed : World}
    (installs : Installs happens before candidate venv)
    (isPlaced : Placed before placed candidate venv)
    (isNew : before.current ≠ some candidate)
    (wasReady : before.getStatus = .ready) :
    Ends (use happens.switching candidate)
      { placed with releases :=
          (recordInstall before.releases candidate source
            happens.installing.now).2 }
      (fun _ switched =>
        Ends (testCandidate happens before.current candidate) switched
          (fun _ after => Safe happens before after)
          (fun _ after => Safe happens before after))
      (fun _ after => Safe happens before after) ↔
      ReturnsSafely happens source before := by
  have switches_iff : Switches happens before candidate venv ↔
      Links happens (ReadyAfter before candidate venv) := by
    constructor
    · intro switches
      have linked := switches.linked
      rw [if_pos wasReady] at linked
      exact linked
    · exact fun links => ⟨installs, isNew, by rw [if_pos wasReady]; exact links⟩
  have finishes_iff : Links happens (ReadyAfter before candidate venv) →
      (Finishes happens before candidate venv ↔
        happens.switching.activating.commitRaises = false ∧
          Prepares happens) := by
    intro links
    constructor
    · exact fun finishes => ⟨finishes.committed, finishes.prepares⟩
    · exact fun finishes => ⟨fun notReady => absurd wasReady notReady, links,
        finishes.1, finishes.2⟩
  have sameReleases : activateRelease
      (recordInstall before.releases candidate source
        happens.installing.now).2
      (recordInstall before.releases candidate source
        happens.installing.now).1 happens.switching.activating.now =
      switchedReleases happens source before candidate := by
    rw [switchedReleases, if_pos wasReady]
  rcases getByVersion_recordInstall before.releases candidate source
    happens.installing.now with ⟨row, found, listed⟩
  refine (ends_useCandidate_iff _ ⟨venv, installs.built⟩ isNew ?_ found
    listed).trans ?_
  · exact isPlaced.untested
  have sameReady : ({ placed with releases :=
      (recordInstall before.releases candidate source
        happens.installing.now).2 } : World).readyVersion candidate =
      placed.readyVersion candidate := rfl
  rw [returnsSafely_iff installs.built, switches_iff, sameReady,
    isPlaced.ready, sameReleases, restores_iff isPlaced.venvs]
  constructor
  · rintro ⟨-, afterLink⟩ links
    rw [finishes_iff links]
    exact ⟨(afterLink links).1, fun finishes =>
      (afterLink links).2 finishes.1 finishes.2⟩
  · intro safely
    constructor
    · exact fun _ => safe_of_current isPlaced.current
    · intro links
      have asked := safely links
      rw [finishes_iff links] at asked
      exact ⟨asked.1, fun committed prepares =>
        asked.2 ⟨committed, prepares⟩⟩

/-- The switch after an installation which has activated the candidate. -/
theorem ends_switchActivated_iff
    {candidate : String} {venv : Venv} {placed : World}
    (installs : Installs happens before candidate venv)
    (isPlaced : Placed before placed candidate venv)
    (isNew : before.current ≠ some candidate)
    (notReady : before.getStatus ≠ .ready) :
    Ends
      (activate happens.installing.activating
        (recordInstall before.releases candidate source
          happens.installing.now).1 candidate)
      { placed with releases :=
          (recordInstall before.releases candidate source
            happens.installing.now).2 }
      (fun _ installed =>
        Ends (use happens.switching candidate) installed
          (fun _ switched =>
            Ends (testCandidate happens before.current candidate) switched
              (fun _ after => Safe happens before after)
              (fun _ after => Safe happens before after))
          (fun _ after => Safe happens before after))
      (fun _ after => Safe happens before after) ↔
      ReturnsSafely happens source before := by
  have switches_iff : Switches happens before candidate venv ↔
      happens.installing.activating.switchRaises = false := by
    constructor
    · intro switches
      have linked := switches.linked
      rw [if_neg notReady] at linked
      exact linked
    · exact fun linked => ⟨installs, isNew, by rw [if_neg notReady]; exact linked⟩
  have finishes_iff : Finishes happens before candidate venv ↔
      happens.installing.activating.commitRaises = false ∧
        Links happens (ReadyAfter before candidate venv) ∧
        happens.switching.activating.commitRaises = false ∧
          Prepares happens := by
    constructor
    · exact fun finishes => ⟨finishes.installed notReady, finishes.links,
        finishes.committed, finishes.prepares⟩
    · exact fun finishes => ⟨fun _ => finishes.1, finishes.2.1,
        finishes.2.2.1, finishes.2.2.2⟩
  have isCandidate : IsCandidate happens candidate := ⟨venv, installs.built⟩
  rw [ends_activate, returnsSafely_iff installs.built, switches_iff,
    finishes_iff]
  cases happens.installing.activating.switchRaises with
  | true =>
      simp only [if_true, reduceCtorEq, false_imp_iff, iff_true]
      exact safe_of_current isPlaced.current
  | false =>
  simp only [Bool.false_eq_true, if_false, true_imp_iff]
  cases happens.installing.activating.commitRaises with
  | true =>
      simp only [if_true, reduceCtorEq, false_and, imp_false, false_imp_iff,
        and_true]
      exact safe_untested_iff isCandidate rfl isNew isPlaced.untested
  | false =>
  simp only [Bool.false_eq_true, if_false, true_and]
  rcases getByVersion_recordInstall before.releases candidate source
    happens.installing.now with ⟨row, found, -⟩
  rcases getByVersion_activateRelease happens.installing.activating.now
    found with ⟨activated, foundAfter, isActive⟩
  refine (ends_useCandidate_iff _ isCandidate isNew ?_ foundAfter
    (by rw [isActive]; decide)).trans ?_
  · exact isPlaced.untested
  have sameReady : ∀ (current : Option String)
      (releases : Table YtdlpReleaseRow),
      ({ placed with current, releases } : World).readyVersion candidate =
        placed.readyVersion candidate := fun _ _ => rfl
  have sameReleases : activateRelease
      (activateRelease
        (recordInstall before.releases candidate source
          happens.installing.now).2
        (recordInstall before.releases candidate source
          happens.installing.now).1 happens.installing.activating.now)
      (recordInstall before.releases candidate source
        happens.installing.now).1 happens.switching.activating.now =
      switchedReleases happens source before candidate := by
    rw [switchedReleases, if_neg notReady]
  have untested : ∀ releases : Table YtdlpReleaseRow,
      Safe happens before
          { placed with current := some candidate, releases } ↔
        ¬ HealthyEarlier happens before candidate :=
    fun _ => safe_untested_iff isCandidate rfl isNew isPlaced.untested
  rw [sameReady, isPlaced.ready, sameReleases, restores_iff isPlaced.venvs,
    untested]
  by_cases links : Links happens (ReadyAfter before candidate venv)
  · simp only [links, not_true_eq_false, false_imp_iff, true_imp_iff,
      true_and, and_imp]
  · simp only [links, not_false_eq_true, false_imp_iff, true_imp_iff,
      false_and, and_true, imp_false]

/-- A call which installs the version that is current already. -/
theorem ends_switchSame
    {candidate : String} (world : World)
    (isCurrent : before.current = some candidate)
    (same : world.current = before.current) (releaseId : Nat) :
    Ends (activate happens.installing.activating releaseId candidate) world
      (fun _ installed =>
        Ends (testCandidate happens before.current candidate) installed
          (fun _ after => Safe happens before after)
          (fun _ after => Safe happens before after))
      (fun _ after => Safe happens before after) := by
  rw [ends_activate]
  split
  · exact safe_of_current same
  split
  · exact safe_of_current isCurrent.symm
  · exact ends_testCandidate_same _ isCurrent.symm

/-- The switch to an installed version, if it is another one, and its test. -/
def EndsSafely (happens : Updating) (before : World) (candidate : String)
    (world : World) : Prop :=
  if before.current = some candidate then
    Ends (testCandidate happens before.current candidate) world
      (fun _ after => Safe happens before after)
      (fun _ after => Safe happens before after)
  else
    Ends (use happens.switching candidate) world
      (fun _ switched =>
        Ends (testCandidate happens before.current candidate) switched
          (fun _ after => Safe happens before after)
          (fun _ after => Safe happens before after))
      (fun _ after => Safe happens before after)

/-- What follows the placing of the venv. -/
theorem ends_afterPlaced_iff
    {candidate : String} {venv : Venv} {placed : World}
    (installs : Installs happens before candidate venv)
    (isPlaced : Placed before placed candidate venv) :
    (if before.getStatus = .ready then
        EndsSafely happens before candidate
          { placed with releases :=
              (recordInstall placed.releases candidate source
                happens.installing.now).2 }
      else
        Ends
          (activate happens.installing.activating
            (recordInstall placed.releases candidate source
              happens.installing.now).1 candidate)
          { placed with releases :=
              (recordInstall placed.releases candidate source
                happens.installing.now).2 }
          (fun _ after => EndsSafely happens before candidate after)
          (fun _ after => Safe happens before after)) ↔
      ReturnsSafely happens source before := by
  rw [isPlaced.releases]
  simp only [EndsSafely]
  by_cases isCurrent : before.current = some candidate
  · refine iff_of_true ?_ (returnsSafely_of_not fun other otherVenv
      switches => ?_)
    · simp only [if_pos isCurrent]
      split
      · apply ends_testCandidate_same
        exact isPlaced.current
      · apply ends_switchSame _ isCurrent
        exact isPlaced.current
    · have built := switches.built
      rw [installs.built, Option.some.injEq, Prod.mk.injEq] at built
      rw [← built.1] at switches
      exact switches.isNew isCurrent
  · simp only [if_neg isCurrent]
    split
    · next wasReady =>
        exact ends_switchReady_iff installs isPlaced isCurrent wasReady
    · next notReady =>
        exact ends_switchActivated_iff installs isPlaced isCurrent notReady

/-- The placing of the venv, and what follows it. -/
theorem ends_placed_iff
    {candidate : String} {venv : Venv}
    (locked : happens.lockRaises = false)
    (installLocked : happens.installing.lockRaises = false)
    (built : happens.installing.build = some (candidate, venv))
    (recorded : happens.installing.recordRaises = false)
    {follows : World → Prop}
    (isNext : ∀ placed, Placed before placed candidate venv →
      Installs happens before candidate venv →
        (follows placed ↔ ReturnsSafely happens source before)) :
    Ends (place happens.installing candidate venv false)
      { before with smokeTests := [] }
      (fun _ placed => follows placed)
      (fun _ after => Safe happens before after) ↔
      ReturnsSafely happens source before := by
  rw [ends_place]
  split
  · next ready =>
      have isReady : before.readyVersion candidate = some candidate := ready
      apply isNext
      · exact ⟨rfl, rfl, rfl, iff_of_true ready (Or.inl isReady),
          fun _ _ => rfl⟩
      · exact ⟨locked, installLocked, built, Or.inl isReady, recorded⟩
  · next notReady =>
      have isNotReady : before.readyVersion candidate ≠ some candidate :=
        notReady
      cases places : happens.installing.placeRaises with
      | some left =>
          refine iff_of_true (safe_of_current rfl)
            (returnsSafely_of_not fun other otherVenv switches => ?_)
          have builtOther := switches.built
          rw [built, Option.some.injEq, Prod.mk.injEq] at builtOther
          rcases builtOther with ⟨rfl, rfl⟩
          rcases switches.placed with ready | placesFine
          · exact isNotReady ready
          · rw [places] at placesFine
            cases placesFine
      | none =>
          apply isNext
          · refine ⟨rfl, rfl, rfl, ?_, ?_⟩
            · rw [World.readyVersion]
              dsimp only
              rw [Function.update_self, ReadyAfter]
              simp [isNotReady]
            · exact fun version other => Function.update_of_ne other _ _
          · exact ⟨locked, installLocked, built, Or.inr places, recorded⟩

/--
An update ends with a safe current version, by return or by an exception,
exactly if nothing raises between the switch to a new candidate and its smoke
test while a healthy earlier version is there, and nothing raises or refuses
between the passed smoke test of a version to return to and the switch of the
link to it.
-/
theorem update_leaves_safe_version_iff
    (happens : Updating) (source : YtdlpReleaseSource) (before : World) :
    Ends (updateYtdlp happens source) { before with smokeTests := [] }
        (fun _ after => Safe happens before after)
        (fun _ after => Safe happens before after) ↔
      ReturnsSafely happens source before := by
  have unchanged : Safe happens before { before with smokeTests := [] } :=
    safe_of_current rfl
  simp only [updateYtdlp, ends_bind, ends_raiseIf, ends_get]
  cases locked : happens.lockRaises with
  | true =>
      refine iff_of_true unchanged (returnsSafely_of_not fun _ _ switches => ?_)
      have kept := switches.locked
      rw [locked] at kept
      cases kept
  | false =>
  rw [if_neg Bool.false_ne_true, ends_switchToCandidate]
  swap
  · exact fun world => ends_pure _
  rw [ends_install]
  cases installLocked : happens.installing.lockRaises with
  | true =>
      refine iff_of_true unchanged (returnsSafely_of_not fun _ _ switches => ?_)
      have kept := switches.installLocked
      rw [installLocked] at kept
      cases kept
  | false =>
  rw [if_neg Bool.false_ne_true]
  cases built : happens.installing.build with
  | none =>
      refine iff_of_true unchanged (returnsSafely_of_not fun _ _ switches => ?_)
      have kept := switches.built
      rw [built] at kept
      cases kept
  | some candidate =>
  rcases candidate with ⟨candidate, venv⟩
  cases recorded : happens.installing.recordRaises with
  | true =>
      refine iff_of_true ?_ (returnsSafely_of_not fun _ _ switches => ?_)
      · dsimp only
        rw [ends_place]
        split
        · exact unchanged
        · split
          · exact safe_of_current rfl
          · exact safe_of_current rfl
      · have kept := switches.recorded
        rw [recorded] at kept
        cases kept
  | false =>
      simp only [Bool.false_eq_true, if_false]
      apply ends_placed_iff locked installLocked built recorded
      intro placed isPlaced installs
      exact ends_afterPlaced_iff installs isPlaced

end Update

/-! ## A run with an exception before the smoke test -/

/-- Version 1 is current, ready and active. -/
def versionOne : World where
  current := some "1"
  venvs := fun version => if version = "1" then some ⟨some "1"⟩ else none
  releases := Table.empty.insert
    { version := "1", installedAt := 0, source := .auto, status := .active,
      activatedAt := some 0 }

/-- Version 2 is built, and the staging directory cannot be made. -/
def unpreparedSmokeTest : Updating where
  installing := { build := some ("2", ⟨some "2"⟩) }
  observe := fun _ => {}
  candidateSmoke := { prepareRaises := true }

/-- Version 2 stays current untested, although version 1 is healthy. -/
theorem update_leaves_untested_unpreparedSmokeTest :
    ¬ Ends (updateYtdlp unpreparedSmokeTest .auto)
      { versionOne with smokeTests := [] }
      (fun _ after => Safe unpreparedSmokeTest versionOne after)
      (fun _ after => Safe unpreparedSmokeTest versionOne after) := by
  intro ends
  have safe : Safe unpreparedSmokeTest versionOne _ := ends
  have healthy : HealthyEarlier unpreparedSmokeTest versionOne "2" :=
    ⟨"1", by decide, Or.inl rfl, rfl⟩
  rcases safe.tested "2" ⟨⟨some "2"⟩, rfl⟩ rfl (by decide) healthy with
    ⟨success, tested⟩
  cases tested

end Sluicery.Core.YtdlpUpdate
