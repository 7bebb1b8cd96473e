import Sluicery.Core.YtdlpUpdate

/-!
# The phases of an update

`Safe` is what is asked of the current version after every exit of
`update_ytdlp`: it is the one from before, or its smoke test passed, or no
earlier version has passed.  Each phase, from the switch to the candidate to
the return to the version before, ends safely under the conditions given here.
-/

namespace Sluicery.Core.YtdlpUpdate

open Sluicery.Library Sluicery.Library.Raising
open Sluicery.Db Sluicery.Downloader

/-! ## Safe ends -/

/-- The smoke test of the version succeeds when it comes to a result. -/
def isHealthy (happens : Updating) (version : String) : Bool :=
  reasonCode (happens.observe version) == "ok"

/-- A healthy version other than the candidate was current or installed. -/
def HealthyEarlier (happens : Updating) (before : World)
    (candidate : String) : Prop :=
  ∃ version, version ≠ candidate ∧
    (before.current = some version ∨
      isListed before.releases version = true) ∧
    isHealthy happens version = true

/-- The version which is to be installed. -/
def IsCandidate (happens : Updating) (version : String) : Prop :=
  ∃ venv, happens.installing.build = some (version, venv)

/-- The current version after a call is a safe one. -/
structure Safe (happens : Updating) (before after : World) : Prop where
  /-- It is the one from before, or it passed, or no earlier one passed. -/
  active : after.current = before.current ∨
    (∃ version, after.current = some version ∧
      (version, true) ∈ after.smokeTests) ∨
    ∀ version, (version, true) ∈ after.smokeTests →
      IsCandidate happens version
  /-- No new version is current untested beside a healthy earlier one. -/
  tested : ∀ candidate, IsCandidate happens candidate →
    after.current = some candidate → before.current ≠ some candidate →
      HealthyEarlier happens before candidate →
        ∃ success, (candidate, success) ∈ after.smokeTests

section Safe

variable {happens : Updating} {before after : World}

theorem safe_of_current (same : after.current = before.current) :
    Safe happens before after where
  active := Or.inl same
  tested := fun _ _ isCurrent notBefore _ =>
    absurd (same.symm.trans isCurrent) notBefore

theorem safe_of_passed
    {version : String} (isCurrent : after.current = some version)
    (passed : (version, true) ∈ after.smokeTests) :
    Safe happens before after where
  active := Or.inr (Or.inl ⟨version, isCurrent, passed⟩)
  tested := by
    intro candidate _ isCandidate _ _
    rw [isCurrent, Option.some.injEq] at isCandidate
    subst isCandidate
    exact ⟨true, passed⟩

/-- The candidate failed, and so did whatever was tested after it. -/
theorem safe_of_failed
    {candidate : String} (isCandidate : IsCandidate happens candidate)
    (failed : (candidate, false) ∈ after.smokeTests)
    (noneElse : ∀ version, (version, true) ∉ after.smokeTests) :
    Safe happens before after where
  active := Or.inr (Or.inr fun version passed =>
    absurd passed (noneElse version))
  tested := by
    rintro other ⟨venv, built⟩ - - -
    rcases isCandidate with ⟨_, builtHere⟩
    rw [builtHere, Option.some.injEq, Prod.mk.injEq] at built
    rw [← built.1]
    exact ⟨false, failed⟩

/-- A new version without a smoke test is safe without a healthy earlier one. -/
theorem safe_untested_iff
    {candidate : String} (isCandidate : IsCandidate happens candidate)
    (isCurrent : after.current = some candidate)
    (notBefore : before.current ≠ some candidate)
    (untested : after.smokeTests = []) :
    Safe happens before after ↔ ¬ HealthyEarlier happens before candidate := by
  constructor
  · intro safe healthy
    rcases safe.tested candidate isCandidate isCurrent notBefore healthy with
      ⟨success, tested⟩
    rw [untested] at tested
    cases tested
  · intro noneHealthy
    constructor
    · refine Or.inr (Or.inr fun version passed => ?_)
      rw [untested] at passed
      cases passed
    · rintro other ⟨venv, built⟩ - - healthy
      rcases isCandidate with ⟨_, builtHere⟩
      rw [builtHere, Option.some.injEq, Prod.mk.injEq] at built
      rw [← built.1] at healthy
      exact absurd healthy noneHealthy

/-- A failed new version is unsafe once an earlier one has passed. -/
theorem not_safe_of_passed
    {candidate version : String}
    (isCandidate : IsCandidate happens candidate)
    (isCurrent : after.current = some candidate)
    (notBefore : before.current ≠ some candidate)
    (other : version ≠ candidate)
    (smoked : after.smokeTests = [(candidate, false), (version, true)]) :
    ¬ Safe happens before after := by
  intro safe
  rcases safe.active with same | ⟨active, isActive, passed⟩ | onlyCandidate
  · exact notBefore (same.symm.trans isCurrent)
  · rw [isCurrent, Option.some.injEq] at isActive
    subst isActive
    rw [smoked] at passed
    simp [Ne.symm other] at passed
  · rcases onlyCandidate version (by simp [smoked]) with ⟨_, built⟩
    rcases isCandidate with ⟨_, builtHere⟩
    rw [builtHere, Option.some.injEq, Prod.mk.injEq] at built
    exact other built.1.symm

end Safe

/-! ## The smoke tests and what follows them -/

section Phases

variable {happens : Updating} {before world : World}
  {raised : Failure → World → Prop}

theorem ends_runConfiguredSmoke
    {returned : SmokeTestResult → World → Prop} (smoking : Smoking)
    (observe : String → Observations) (version : String) :
    Ends (runConfiguredSmoke smoking observe version) world returned raised ↔
      if smoking.parametersRaise then raised .raised world
      else if smoking.prepareRaises then raised .raised world
      else
        returned
          (smokeTestResult version smoking.checkedAt (observe version))
          { world with
            smokeTests := world.smokeTests ++
              [(version, (smokeTestResult version smoking.checkedAt
                (observe version)).success)] } := by
  simp only [runConfiguredSmoke, ends_bind, ends_raiseIf, ends_modify,
    ends_pure]

theorem ends_recordSmoke
    {returned : PUnit → World → Prop} (smoking : Smoking)
    (result : SmokeTestResult) :
    Ends (recordSmoke smoking result) world returned raised ↔
      if smoking.recordRaises then raised .raised world
      else
        returned ⟨⟩ { world with
          releases := smokeRecorded world.releases result } := by
  simp only [recordSmoke, ends_bind, ends_raiseIf, ends_modify]

/-- What follows a passed candidate leaves it current. -/
theorem ends_keepCandidate
    {candidate : String} {smoke : SmokeTestResult}
    {previous : Option String}
    (isCurrent : world.current = some candidate)
    (passed : (candidate, true) ∈ world.smokeTests) :
    Ends (keepCandidate happens previous candidate smoke) world
      (fun _ after => Safe happens before after)
      (fun _ after => Safe happens before after) := by
  simp only [keepCandidate, ends_bind, ends_raiseIf, ends_pure]
  split
  · exact safe_of_passed isCurrent passed
  · apply (ends_pruneOldVersions happens.pruning happens.keepVersions
      world).mono
    · rintro - after ⟨current, smokeTests⟩
      exact safe_of_passed (current.trans isCurrent)
        (by rw [smokeTests]; exact passed)
    · rintro - after ⟨current, smokeTests⟩
      exact safe_of_passed (current.trans isCurrent)
        (by rw [smokeTests]; exact passed)

/-- The version to return to is another one than the candidate. -/
theorem rollbackVersion_ne
    {releases : Table YtdlpReleaseRow} {previous : Option String}
    {candidate version : String}
    (isVersion :
      rollbackVersion releases previous candidate = some version) :
    version ≠ candidate := by
  have fromLatest :
      latestRollbackVersion releases candidate = some version →
        version ≠ candidate := by
    intro isLatest
    rcases Option.map_eq_some_iff.mp isLatest with ⟨row, latest, rfl⟩
    rcases mem_of_latestDeactivated latest with ⟨entry, member, rfl⟩
    have selected := (List.mem_filter.mp member).2
    rw [bne_iff_ne] at selected
    exact selected
  rw [rollbackVersion.eq_def] at isVersion
  split at isVersion
  · split at isVersion
    · exact fromLatest isVersion
    · next other =>
        rw [Option.some.injEq] at isVersion
        rw [← isVersion]
        exact other
  · exact fromLatest isVersion

/-- The result of the smoke test of the version to return to. -/
def rollbackResult (happens : Updating) (version : String) :
    SmokeTestResult :=
  smokeTestResult version happens.rollbackSmoke.checkedAt
    (happens.observe version)

/-- A healthy version to return to passes its smoke test. -/
structure PassesBefore (happens : Updating)
    (releases : Table YtdlpReleaseRow) (previous : Option String)
    (candidate version : String) : Prop where
  isVersion : rollbackVersion releases previous candidate = some version
  latest : (asksDatabase previous candidate && happens.latestRaises) = false
  parameters : happens.rollbackSmoke.parametersRaise = false
  prepare : happens.rollbackSmoke.prepareRaises = false
  healthy : isHealthy happens version = true

/-- The result is recorded and the link is switched back. -/
structure Returns (happens : Updating) (releases : Table YtdlpReleaseRow)
    (venvs : String → Option Venv) (version : String) : Prop where
  recorded : happens.rollbackSmoke.recordRaises = false
  locked : happens.returning.lockRaises = false
  listed : isListed releases version = true
  ready : ((venvs version).bind fun venv => venv.readyVersion) = some version
  switched : happens.returning.activating.switchRaises = false

/-- A return which may raise at any point is safe if the link is switched. -/
theorem ends_return
    (world : World) {candidate version : String}
    (isCandidate : IsCandidate happens candidate)
    (isCurrent : world.current = some candidate)
    (notBefore : before.current ≠ some candidate)
    (other : version ≠ candidate)
    (smoked : world.smokeTests = [(candidate, false), (version, true)]) :
    Ends (use happens.returning version) world
      (fun _ after => Safe happens before after)
      (fun _ after => Safe happens before after) ↔
      happens.returning.lockRaises = false ∧
        isListed world.releases version = true ∧
        world.readyVersion version = some version ∧
        happens.returning.activating.switchRaises = false := by
  have unsafeHere : ¬ Safe happens before world :=
    not_safe_of_passed isCandidate isCurrent notBefore other smoked
  have isUsable := usable_isOk_iff world version
  rw [ends_use]
  cases happens.returning.lockRaises with
  | true => simp [unsafeHere]
  | false =>
      cases usable : world.usable version with
      | error failure =>
          rw [usable] at isUsable
          simp only [reduceCtorEq, exists_false, false_iff] at isUsable
          simp only [Bool.false_eq_true, if_false, unsafeHere, true_and,
            false_iff]
          rintro ⟨listed, ready, -⟩
          exact isUsable ⟨listed, ready⟩
      | ok releaseId =>
          rw [usable] at isUsable
          have ⟨listed, ready⟩ := isUsable.mp ⟨releaseId, rfl⟩
          simp only [Bool.false_eq_true, if_false, ends_activate,
            listed, ready, true_and]
          have passed : (version, true) ∈ world.smokeTests := by
            simp [smoked]
          cases happens.returning.activating.switchRaises with
          | true => simp [unsafeHere]
          | false =>
              simp only [Bool.false_eq_true, if_false, iff_true]
              split
              · exact safe_of_passed rfl passed
              · exact safe_of_passed rfl passed

/-- After a failed candidate the end is safe exactly if a pass is followed. -/
theorem ends_rollBack_iff
    {candidate : String} {smoke : SmokeTestResult}
    (isCandidate : IsCandidate happens candidate)
    (isCurrent : world.current = some candidate)
    (notBefore : before.current ≠ some candidate)
    (smoked : world.smokeTests = [(candidate, false)]) :
    Ends (rollBack happens before.current candidate smoke) world
      (fun _ after => Safe happens before after)
      (fun _ after => Safe happens before after) ↔
      ∀ version, PassesBefore happens world.releases before.current candidate
        version →
        Returns happens
          (smokeRecorded world.releases (rollbackResult happens version))
          world.venvs version := by
  have safeHere : Safe happens before world :=
    safe_of_failed isCandidate (by simp [smoked]) (by simp [smoked])
  simp only [rollBack, ends_bind, ends_raiseIf, ends_get]
  split
  · next latestRaises =>
      refine iff_of_true safeHere fun version passes => ?_
      rw [passes.latest] at latestRaises
      cases latestRaises
  next latest =>
    rw [Bool.not_eq_true] at latest
    cases isVersion :
        rollbackVersion world.releases before.current candidate with
    | none =>
        refine iff_of_true safeHere fun version passes => ?_
        rw [passes.isVersion] at isVersion
        cases isVersion
    | some version =>
        have other := rollbackVersion_ne isVersion
        simp only [ends_bind, ends_runConfiguredSmoke, ends_recordSmoke]
        have onlyVersion : ∀ version', PassesBefore happens world.releases
            before.current candidate version' → version' = version := by
          intro version' passes
          rw [passes.isVersion, Option.some.injEq] at isVersion
          exact isVersion
        cases parameters : happens.rollbackSmoke.parametersRaise with
        | true =>
            refine iff_of_true safeHere fun version' passes => ?_
            rw [passes.parameters] at parameters
            cases parameters
        | false =>
        cases prepare : happens.rollbackSmoke.prepareRaises with
        | true =>
            refine iff_of_true safeHere fun version' passes => ?_
            rw [passes.prepare] at prepare
            cases prepare
        | false =>
        have success : (smokeTestResult version
            happens.rollbackSmoke.checkedAt
            (happens.observe version)).success =
              isHealthy happens version := rfl
        simp only [Bool.false_eq_true, if_false, ends_ite, ends_bind,
          ends_pure, success, smoked, List.cons_append, List.nil_append]
        cases healthy : isHealthy happens version with
        | false =>
            refine iff_of_true ?_ fun version' passes => ?_
            · have failed : ∀ after : World,
                  after.smokeTests = [(candidate, false), (version, false)] →
                    Safe happens before after :=
                fun after tests => safe_of_failed isCandidate
                  (by simp [tests]) (by simp [tests])
              split
              · exact failed _ rfl
              · exact failed _ rfl
            · have isHealthy' := passes.healthy
              rw [onlyVersion version' passes, healthy] at isHealthy'
              cases isHealthy'
        | true =>
            have passes : PassesBefore happens world.releases before.current
                candidate version :=
              ⟨isVersion, latest, parameters, prepare, healthy⟩
            cases recorded : happens.rollbackSmoke.recordRaises with
            | true =>
                refine iff_of_false ?_ fun returns => ?_
                · exact not_safe_of_passed isCandidate isCurrent notBefore
                    other rfl
                · have kept := (returns version passes).recorded
                  rw [recorded] at kept
                  cases kept
            | false =>
                rw [if_neg Bool.false_ne_true, if_pos rfl]
                refine (ends_return _ isCandidate ?_ notBefore other
                  ?_).trans ?_
                · exact isCurrent
                · rfl
                constructor
                · rintro ⟨locked, listed, ready, switched⟩ version' passes'
                  rw [onlyVersion version' passes']
                  exact ⟨recorded, locked, listed, ready, switched⟩
                · intro returns
                  have kept := returns version passes
                  exact ⟨kept.locked, kept.listed, kept.ready, kept.switched⟩

/-- The result of the smoke test of the candidate. -/
def candidateResult (happens : Updating) (candidate : String) :
    SmokeTestResult :=
  smokeTestResult candidate happens.candidateSmoke.checkedAt
    (happens.observe candidate)

/-- The smoke test of the candidate gets to its `try`. -/
structure Prepares (happens : Updating) : Prop where
  parameters : happens.candidateSmoke.parametersRaise = false
  prepared : happens.candidateSmoke.prepareRaises = false

/-- A failed and recorded candidate is followed by a return, if one passes. -/
def Restores (happens : Updating) (before : World)
    (releases : Table YtdlpReleaseRow) (venvs : String → Option Venv)
    (candidate : String) : Prop :=
  isHealthy happens candidate = false →
    happens.candidateSmoke.recordRaises = false →
      ∀ version,
        PassesBefore happens
          (smokeRecorded releases (candidateResult happens candidate))
          before.current candidate version →
          Returns happens
            (smokeRecorded
              (smokeRecorded releases (candidateResult happens candidate))
              (rollbackResult happens version))
            venvs version

/-- The smoke test of a new candidate, and what follows from it. -/
theorem ends_testCandidate_iff
    {candidate : String} (world : World)
    (isCandidate : IsCandidate happens candidate)
    (isCurrent : world.current = some candidate)
    (notBefore : before.current ≠ some candidate)
    (untested : world.smokeTests = []) :
    Ends (testCandidate happens before.current candidate) world
      (fun _ after => Safe happens before after)
      (fun _ after => Safe happens before after) ↔
      (HealthyEarlier happens before candidate → Prepares happens) ∧
        (Prepares happens →
          Restores happens before world.releases world.venvs candidate) := by
  have unsafeHere := safe_untested_iff isCandidate isCurrent notBefore
    untested
  simp only [testCandidate, ends_bind, ends_runConfiguredSmoke,
    ends_recordSmoke, untested, List.nil_append]
  cases parameters : happens.candidateSmoke.parametersRaise with
  | true =>
      have notPrepared : ¬ Prepares happens := fun prepares => by
        rw [prepares.parameters] at parameters
        cases parameters
      simp only [if_true, notPrepared, imp_false, false_imp_iff, and_true]
      exact unsafeHere
  | false =>
  cases prepared : happens.candidateSmoke.prepareRaises with
  | true =>
      have notPrepared : ¬ Prepares happens := fun prepares => by
        rw [prepares.prepared] at prepared
        cases prepared
      simp only [if_true, Bool.false_eq_true, if_false, notPrepared,
        imp_false, false_imp_iff, and_true]
      exact unsafeHere
  | false =>
  have prepares : Prepares happens := ⟨parameters, prepared⟩
  have success : (smokeTestResult candidate
      happens.candidateSmoke.checkedAt
      (happens.observe candidate)).success =
        isHealthy happens candidate := rfl
  simp only [Bool.false_eq_true, if_false, ends_ite, success, prepares,
    imp_true_iff, true_imp_iff, true_and]
  cases healthy : isHealthy happens candidate with
  | true =>
      refine iff_of_true ?_ ?_
      · split
        · exact safe_of_passed isCurrent List.mem_cons_self
        · exact ends_keepCandidate isCurrent List.mem_cons_self
      · intro failed
        rw [healthy] at failed
        cases failed
  | false =>
      cases recorded : happens.candidateSmoke.recordRaises with
      | true =>
          refine iff_of_true ?_ ?_
          · exact safe_of_failed isCandidate List.mem_cons_self (by simp)
          · intro _ kept
            rw [recorded] at kept
            cases kept
      | false =>
          simp only [Bool.false_eq_true, if_false]
          refine (ends_rollBack_iff isCandidate ?_ notBefore ?_).trans ?_
          · exact isCurrent
          · rfl
          · constructor
            · exact fun returns _ _ => returns
            · exact fun restores => restores healthy recorded

/-- Without a new candidate every end is safe. -/
theorem ends_testCandidate_same
    {candidate : String} (world : World)
    (same : world.current = before.current) :
    Ends (testCandidate happens before.current candidate) world
      (fun _ after => Safe happens before after)
      (fun _ after => Safe happens before after) := by
  have keeps : ∀ after : World, after.current = world.current →
      Safe happens before after :=
    fun after kept => safe_of_current (kept.trans same)
  simp only [testCandidate, ends_bind, ends_runConfiguredSmoke,
    ends_recordSmoke, ends_ite]
  split
  · exact keeps _ rfl
  split
  · exact keeps _ rfl
  split
  · exact keeps _ rfl
  split
  · simp only [keepCandidate, ends_bind, ends_raiseIf, ends_pure]
    split
    · exact keeps _ rfl
    · apply (ends_pruneOldVersions _ _ _).mono
      · exact fun _ after kept => keeps after kept.1
      · exact fun _ after kept => keeps after kept.1
  · simp only [rollBack, ends_bind, ends_raiseIf, ends_get]
    split
    · exact keeps _ rfl
    split
    · exact keeps _ rfl
    simp only [ends_bind, ends_runConfiguredSmoke, ends_recordSmoke,
      ends_ite, ends_pure]
    split
    · exact keeps _ rfl
    split
    · exact keeps _ rfl
    split
    · exact keeps _ rfl
    split
    · next version _ _ _ _ passed =>
        have inTests : ∀ tests : List (String × Bool),
            (version, true) ∈ tests ++ [(version, (smokeTestResult version
              happens.rollbackSmoke.checkedAt
              (happens.observe version)).success)] := by
          rw [passed]
          exact fun tests => by simp
        rw [ends_use]
        split
        · exact keeps _ rfl
        split
        · exact keeps _ rfl
        rw [ends_activate]
        split
        · exact keeps _ rfl
        split
        · exact safe_of_passed rfl (inTests _)
        · exact safe_of_passed rfl (inTests _)
    · exact keeps _ rfl

/-- `use` gets to the link, for a candidate which is ready or not. -/
structure Links (happens : Updating) (ready : Prop) : Prop where
  locked : happens.switching.lockRaises = false
  ready : ready
  switched : happens.switching.activating.switchRaises = false

/-- The switch to a new candidate, its smoke test and what follows. -/
theorem ends_useCandidate_iff
    {candidate : String} (world : World) {releaseId : Nat}
    {row : YtdlpReleaseRow}
    (isCandidate : IsCandidate happens candidate)
    (notBefore : before.current ≠ some candidate)
    (untested : world.smokeTests = [])
    (found : getByVersion world.releases candidate = some (releaseId, row))
    (listed : row.status ≠ .removed) :
    Ends (use happens.switching candidate) world
      (fun _ switched =>
        Ends (testCandidate happens before.current candidate) switched
          (fun _ after => Safe happens before after)
          (fun _ after => Safe happens before after))
      (fun _ after => Safe happens before after) ↔
      (¬ Links happens (world.readyVersion candidate = some candidate) →
          Safe happens before world) ∧
        (Links happens (world.readyVersion candidate = some candidate) →
          (HealthyEarlier happens before candidate →
            happens.switching.activating.commitRaises = false ∧
              Prepares happens) ∧
          (happens.switching.activating.commitRaises = false →
            Prepares happens →
              Restores happens before
                (activateRelease world.releases releaseId
                  happens.switching.activating.now)
                world.venvs candidate)) := by
  by_cases links :
      Links happens (world.readyVersion candidate = some candidate)
  · simp only [links, not_true_eq_false, false_imp_iff, true_and,
      true_imp_iff, ends_use, links.locked, Bool.false_eq_true, if_false,
      usable_eq_ok found listed links.ready, ends_activate, links.switched]
    cases commit : happens.switching.activating.commitRaises with
    | true =>
        simp only [if_true, reduceCtorEq, false_and, imp_false,
          false_imp_iff, and_true]
        exact safe_untested_iff isCandidate rfl notBefore untested
    | false =>
        simp only [Bool.false_eq_true, if_false, true_and, true_imp_iff]
        exact ends_testCandidate_iff _ isCandidate rfl notBefore untested
  · simp only [links, not_false_eq_true, true_imp_iff, false_imp_iff,
      and_true, ends_use]
    cases locked : happens.switching.lockRaises with
    | true => simp only [if_true]
    | false =>
        simp only [Bool.false_eq_true, if_false]
        cases usable : world.usable candidate with
        | error failure => exact Iff.rfl
        | ok other =>
            have ready := ((usable_isOk_iff world candidate).mp
              ⟨other, usable⟩).2
            have switch :
                happens.switching.activating.switchRaises = true := by
              by_contra notRaised
              rw [Bool.not_eq_true] at notRaised
              exact links ⟨locked, ready, notRaised⟩
            simp only [ends_activate, switch, if_true]

end Phases

end Sluicery.Core.YtdlpUpdate
