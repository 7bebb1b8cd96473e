import Sluicery.Core.IntegrityScan

/-!
# One Target after an integrity check

The decisions of a check are applied one after another, each to the row its
snapshot was taken of.  A Target keeps its status when the check does not look
at its Artifacts, or when no Artifact of it is marked missing afterwards.
-/

namespace Sluicery.Core.Integrity

open Sluicery.Library Sluicery.Db

/-! ## The decisions of a scan -/

theorem isCurrent_of_mem_snapshots
    {db : Database} {storageId playlistId : Option Nat}
    {row : ArtifactSnapshot}
    (member : row ∈ snapshots db storageId playlistId) :
    isCurrent db row = true := by
  rw [snapshots, List.mem_filterMap] at member
  rcases member with ⟨⟨artifactId, artifact⟩, inTable, selected⟩
  rcases Option.bind_eq_some_iff.mp selected with ⟨joined, isJoined, kept⟩
  split at kept
  case isFalse => cases kept
  rw [Option.some.injEq] at kept
  subst kept
  simp only [snapshotOf, Option.bind_eq_bind, Option.bind_eq_some_iff,
    Option.some.injEq] at isJoined
  rcases isJoined with ⟨target, foundTarget, item, -, -, -, -, -, rfl⟩
  have found : db.artifact.get artifactId = some artifact :=
    (db.artifact.get_eq_some_iff _ _).mpr inTable
  simp [isCurrent, found, foundTarget]

theorem mem_scanStorage_of_mem_scanStorages
    {db : Database} {answers : Answers} {maxCandidates : Nat}
    {groups : List (Nat × List ArtifactSnapshot)} {report : IntegrityReport}
    {entry : ArtifactSnapshot × Decision}
    (member : entry ∈
      (scanStorages db answers maxCandidates groups report).2) :
    ∃ group ∈ groups, ∃ report,
      entry ∈ (scanStorage db answers maxCandidates report group.1
        group.2).2 := by
  induction groups generalizing report with
  | nil => cases member
  | cons group rest induction =>
      rcases List.mem_append.mp member with here | later
      · exact ⟨group, List.mem_cons_self, report, here⟩
      · rcases induction later with ⟨other, inRest, scanned⟩
        exact ⟨other, List.mem_cons_of_mem _ inRest, scanned⟩

/-- A relink is decided for an absent row, after a complete listing. -/
theorem relink_of_mem_scanStorage
    {db : Database} {answers : Answers} {maxCandidates storageId : Nat}
    {report : IntegrityReport} {rows : List ArtifactSnapshot}
    {row : ArtifactSnapshot} {path : String}
    (member : (row, Decision.relink path) ∈
      (scanStorage db answers maxCandidates report storageId rows).2) :
    ∃ listed, answers.listing storageId = .ok listed ∧
      row ∈ rows.filter (fun row =>
        answers.exists row.artifactId == some false) ∧
      decideAbsent maxCandidates (trackedPaths db storageId) listed
        (rows.filter fun row =>
          answers.exists row.artifactId == some false) row =
        .relink path := by
  have notPresent : (row, Decision.relink path) ∉
      (rows.filter fun row =>
        answers.exists row.artifactId == some true).map
          (fun row => (row, Decision.present)) := by
    intro inPresent
    rcases List.mem_map.mp inPresent with ⟨_, _, same⟩
    cases congrArg Prod.snd same
  simp only [scanStorage] at member
  split at member
  · cases member
  · split at member
    · cases member
    · split at member
      · exact absurd member notPresent
      · split at member
        · cases member
        · next listed isListed =>
            rcases List.mem_append.mp member with inAbsent | inPresent
            · rcases List.mem_map.mp inAbsent with ⟨_, kept, same⟩
              obtain ⟨rfl, decided⟩ := Prod.mk.inj same
              exact ⟨listed, isListed, kept, decided⟩
            · exact absurd inPresent notPresent

/-- The path of a relink is untracked, and no other absent row claims it. -/
theorem decideAbsent_relink
    {maxCandidates : Nat} {tracked listed : List String}
    {absent : List ArtifactSnapshot} {row : ArtifactSnapshot} {path : String}
    (relinks : decideAbsent maxCandidates tracked listed absent row =
      .relink path) :
    path ∈ candidatesOf tracked listed row ∧
      (absent.filter fun other =>
        (candidatesOf tracked listed other).contains path).length = 1 := by
  unfold decideAbsent at relinks
  dsimp only at relinks
  split at relinks
  · cases relinks
  · next candidate isCandidate =>
      split at relinks
      · next claimed =>
          cases relinks
          rw [isCandidate]
          exact ⟨List.mem_singleton_self _, claimed⟩
      · cases relinks
  · cases relinks

theorem not_tracked_of_mem_candidatesOf
    {tracked listed : List String} {row : ArtifactSnapshot} {path : String}
    (member : path ∈ candidatesOf tracked listed row) : path ∉ tracked := by
  have kept := (List.mem_filter.mp member).2
  simp only [Bool.and_eq_true, Bool.not_eq_true', List.contains_eq_mem,
    decide_eq_false_iff_not] at kept
  exact kept.1

theorem revalidate_relink
    {answers : Answers} {row : ArtifactSnapshot} {decision : Decision}
    {path : String}
    (relinks : revalidate answers row decision = .ok (.relink path)) :
    decision = .relink path := by
  unfold revalidate at relinks
  split at relinks
  · cases relinks
  · cases relinks
  · split at relinks
    · cases relinks
    · split at relinks
      · cases relinks
      · cases relinks
        rfl
      · cases relinks
    · cases relinks

/-- The second look does not make a relink of its own. -/
theorem relink_of_mem_revalidateAll
    {answers : Answers} {entries : List (ArtifactSnapshot × Decision)}
    {report : IntegrityReport} {row : ArtifactSnapshot} {path : String}
    (member : (row, Decision.relink path) ∈
      (revalidateAll answers entries report).2) :
    (row, Decision.relink path) ∈ entries := by
  induction entries generalizing report with
  | nil => cases member
  | cons first rest induction =>
      rw [revalidateAll] at member
      split at member
      · exact List.mem_cons_of_mem _ (induction member)
      · next decision isDecision =>
          rcases List.mem_cons.mp member with same | inRest
          · obtain ⟨rfl, rfl⟩ := Prod.mk.inj same
            rw [← revalidate_relink isDecision]
            exact List.mem_cons_self
          · exact List.mem_cons_of_mem _ (induction inRest)

/-- What the decisions of a scan have in common. -/
structure WellFounded (db : Database)
    (decisions : List (ArtifactSnapshot × Decision)) : Prop where
  snapshot : ∀ entry ∈ decisions, IsSnapshotOf db entry.1
  current : ∀ entry ∈ decisions, isCurrent db entry.1 = true
  /-- A path which is linked to is tracked by nobody. -/
  untracked : ∀ row path, (row, Decision.relink path) ∈ decisions →
    path ∉ trackedPaths db row.storageId
  /-- Nobody else is linked to it. -/
  alone : ∀ row other path, (row, Decision.relink path) ∈ decisions →
    (other, Decision.relink path) ∈ decisions →
    row.storageId = other.storageId → row = other

/-- A relink of a scan comes from the listing of its storage. -/
theorem relink_of_mem_scan
    {db : Database} {answers : Answers} {storageId playlistId : Option Nat}
    {maxCandidates : Nat} {row : ArtifactSnapshot} {path : String}
    (member : (row, Decision.relink path) ∈
      (scan db answers storageId playlistId maxCandidates).2) :
    ∃ listed, answers.listing row.storageId = .ok listed ∧
      let absent := ((snapshots db storageId playlistId).filter
        fun other => other.storageId == row.storageId).filter
          fun other => answers.exists other.artifactId == some false
      row ∈ absent ∧
        decideAbsent maxCandidates (trackedPaths db row.storageId) listed
          absent row = .relink path := by
  rcases mem_scanStorage_of_mem_scanStorages
    (relink_of_mem_revalidateAll member) with
      ⟨group, inGroups, report, scanned⟩
  rcases relink_of_mem_scanStorage scanned with
    ⟨listed, isListed, isAbsent, relinks⟩
  rw [grouped, List.mem_filter, List.mem_map] at inGroups
  rcases inGroups with ⟨⟨storage, -, rfl⟩, -⟩
  have inStorage : row.storageId = storage.1 := by
    have kept := List.mem_filter.mp (List.mem_of_mem_filter isAbsent)
    exact beq_iff_eq.mp kept.2
  rw [inStorage]
  exact ⟨listed, isListed, isAbsent, relinks⟩

theorem wellFounded_scan
    (db : Database) (answers : Answers) (storageId playlistId : Option Nat)
    (maxCandidates : Nat) :
    WellFounded db (scan db answers storageId playlistId maxCandidates).2 := by
  constructor
  · exact fun entry member => isSnapshotOf_of_mem_scan member
  · intro entry member
    rcases mem_of_mem_revalidateAll member with ⟨before, inScan, same⟩
    rcases mem_of_mem_scanStorages inScan with ⟨group, inGroups, inGroup⟩
    rw [same]
    apply isCurrent_of_mem_snapshots
    rw [grouped, List.mem_filter, List.mem_map] at inGroups
    rcases inGroups with ⟨⟨storage, -, rfl⟩, -⟩
    exact List.mem_of_mem_filter inGroup
  · intro row path member
    rcases relink_of_mem_scan member with ⟨listed, -, -, relinks⟩
    exact not_tracked_of_mem_candidatesOf (decideAbsent_relink relinks).1
  · intro row other path member otherMember sameStorage
    rcases relink_of_mem_scan member with
      ⟨listed, isListed, isAbsent, relinks⟩
    rcases relink_of_mem_scan otherMember with
      ⟨otherListed, isOtherListed, otherAbsent, otherRelinks⟩
    rw [← sameStorage] at isOtherListed otherAbsent otherRelinks
    obtain rfl := Except.ok.inj (isListed.symm.trans isOtherListed)
    have claimed := (decideAbsent_relink relinks).2
    rcases List.length_eq_one_iff.mp claimed with ⟨only, isOnly⟩
    have isClaimant : ∀ claimant,
        claimant ∈ ((snapshots db storageId playlistId).filter
          fun other => other.storageId == row.storageId).filter
            (fun other => answers.exists other.artifactId == some false) →
        path ∈ candidatesOf (trackedPaths db row.storageId) listed claimant →
        claimant = only := by
      intro claimant inAbsent claims
      have contained : (candidatesOf (trackedPaths db row.storageId) listed
          claimant).contains path = true := by
        simpa using claims
      have inFilter : claimant ∈ [only] := by
        rw [← isOnly]
        exact List.mem_filter.mpr ⟨inAbsent, contained⟩
      exact List.mem_singleton.mp inFilter
    rw [isClaimant row isAbsent (decideAbsent_relink relinks).1,
      isClaimant other otherAbsent (decideAbsent_relink otherRelinks).1]

/-! ## Applying the decisions -/

section Apply

variable {db : Database} {decisions : List (ArtifactSnapshot × Decision)}
  {checkedAt now : Time}

/-- What holds while the decisions about a database are applied. -/
structure Along (db : Database)
    (decisions : List (ArtifactSnapshot × Decision)) (progress : Progress) :
    Prop where
  target : progress.db.target = db.target
  row : ∀ key row', progress.db.artifact.get key = some row' →
    ∃ row, db.artifact.get key = some row ∧
      row'.targetId = row.targetId ∧ row'.storageId = row.storageId
  path : ∀ key row row', db.artifact.get key = some row →
    progress.db.artifact.get key = some row' →
      row'.relativePath = row.relativePath ∨
        ∃ entry ∈ decisions, entry.1.artifactId = key ∧
          entry.2 = .relink row'.relativePath
  missing : ∀ key row', progress.db.artifact.get key = some row' →
    row'.missingSince.isSome = true → db.artifact.get key = some row' ∨
      ∃ entry ∈ decisions, entry.1.artifactId = key ∧
        ∃ kind candidates, entry.2 = .missing kind candidates
  affected : ∀ targetId ∈ progress.affectedTargetIds,
    ∃ entry ∈ decisions, entry.1.targetId = targetId

theorem Along.refl (report : IntegrityReport) :
    Along db decisions { db, report } where
  target := rfl
  row _ row' found := ⟨row', found, rfl, rfl⟩
  path _ _ _ found found' := by
    rw [found, Option.some.injEq] at found'
    exact Or.inl (by rw [found'])
  missing _ _ found _ := Or.inl found
  affected _ member := by cases member

theorem targetId_decided (row : ArtifactRow) (decision : Decision) :
    (decided checkedAt row decision).targetId = row.targetId ∧
      (decided checkedAt row decision).storageId = row.storageId := by
  cases decision <;> exact ⟨rfl, rfl⟩

variable (checkedAt) in
theorem relativePath_decided (row : ArtifactRow) (decision : Decision) :
    (decided checkedAt row decision).relativePath = row.relativePath ∨
      decision = .relink (decided checkedAt row decision).relativePath := by
  cases decision with
  | relink path => exact Or.inr rfl
  | _ => exact Or.inl rfl

variable (checkedAt) in
theorem missingSince_decided (row : ArtifactRow) (decision : Decision) :
    (decided checkedAt row decision).missingSince = none ∨
      ∃ kind candidates, decision = .missing kind candidates := by
  cases decision with
  | missing kind candidates => exact Or.inr ⟨kind, candidates, rfl⟩
  | _ => exact Or.inl rfl

/-- A decision which is applied, as a function of the row. -/
def touched (checkedAt now : Time) (entry : ArtifactSnapshot × Decision) :
    ArtifactRow → ArtifactRow :=
  touchArtifact now fun row => decided checkedAt row entry.2

/-- A relink is applied only to a path which no other Artifact has. -/
def accepts (db : Database) (entry : ArtifactSnapshot × Decision) : Bool :=
  match entry.2 with
  | .relink relativePath =>
      !isTracked db entry.1.storageId entry.1.artifactId relativePath
  | _ => true

/-- The progress after a decision which is applied. -/
def applied (checkedAt now : Time) (progress : Progress)
    (entry : ArtifactSnapshot × Decision) : Progress :=
  { db := { progress.db with
      artifact := progress.db.artifact.modify entry.1.artifactId
        (touched checkedAt now entry) }
    report := reported progress.report entry.1 entry.2
    affectedTargetIds := entry.1.targetId :: progress.affectedTargetIds }

theorem applyDecision_eq
    (progress : Progress) (entry : ArtifactSnapshot × Decision) :
    applyDecision checkedAt now progress entry =
      if isCurrent progress.db entry.1 && accepts progress.db entry then
        applied checkedAt now progress entry
      else progress := rfl

/-- The row of a key after a decision which is applied. -/
theorem get_applied
    {progress : Progress} {entry : ArtifactSnapshot × Decision} {key : Nat}
    {row' : ArtifactRow}
    (found : (applied checkedAt now progress entry).db.artifact.get key =
      some row') :
    (entry.1.artifactId ≠ key ∧
        progress.db.artifact.get key = some row') ∨
      entry.1.artifactId = key ∧ ∃ row,
        progress.db.artifact.get key = some row ∧
          row' = touched checkedAt now entry row := by
  simp only [applied, Table.get_modify] at found
  split at found
  · next same =>
      rcases Option.map_eq_some_iff.mp found with ⟨row, foundRow, isRow⟩
      exact Or.inr ⟨same.symm, row, foundRow, isRow.symm⟩
  · next other => exact Or.inl ⟨fun same => other same.symm, found⟩

theorem Along.step
    {progress : Progress} (along : Along db decisions progress)
    {entry : ArtifactSnapshot × Decision} (member : entry ∈ decisions) :
    Along db decisions (applyDecision checkedAt now progress entry) := by
  rw [applyDecision_eq]
  split
  case isFalse => exact along
  constructor
  · exact along.target
  · intro key row' found
    rcases get_applied found with ⟨-, same⟩ | ⟨-, row, foundRow, rfl⟩
    · exact along.row key row' same
    · rcases along.row key row foundRow with
        ⟨before, foundBefore, sameTarget, sameStorage⟩
      refine ⟨before, foundBefore, ?_, ?_⟩
      · rw [← sameTarget, touched, column_touchArtifact
          ArtifactRow.targetId fun _ _ => rfl]
        exact (targetId_decided row entry.2).1
      · rw [← sameStorage, touched, column_touchArtifact
          ArtifactRow.storageId fun _ _ => rfl]
        exact (targetId_decided row entry.2).2
  · intro key row row' foundBefore found
    rcases get_applied found with
      ⟨-, same⟩ | ⟨isKey, middle, foundMiddle, rfl⟩
    · exact along.path key row row' foundBefore same
    · rw [touched, column_touchArtifact ArtifactRow.relativePath
        fun _ _ => rfl]
      rcases relativePath_decided checkedAt middle entry.2
        with kept | relinked
      · rw [kept]
        exact along.path key row middle foundBefore foundMiddle
      · exact Or.inr ⟨entry, member, isKey, relinked⟩
  · intro key row' found isMissing
    rcases get_applied found with
      ⟨-, same⟩ | ⟨isKey, middle, foundMiddle, rfl⟩
    · exact along.missing key row' same isMissing
    · rw [touched, column_touchArtifact ArtifactRow.missingSince
        fun _ _ => rfl] at isMissing
      rcases missingSince_decided checkedAt middle entry.2
        with cleared | decidedMissing
      · rw [cleared] at isMissing
        cases isMissing
      · exact Or.inr ⟨entry, member, isKey, decidedMissing⟩
  · intro targetId inAffected
    rcases List.mem_cons.mp inAffected with rfl | inRest
    · exact ⟨entry, member, rfl⟩
    · exact along.affected targetId inRest

variable (checkedAt now) in
theorem Along.foldl
    {rest : List (ArtifactSnapshot × Decision)}
    (members : ∀ entry ∈ rest, entry ∈ decisions) :
    ∀ {progress : Progress}, Along db decisions progress →
      Along db decisions
        (rest.foldl (applyDecision checkedAt now) progress) := by
  induction rest with
  | nil => intro progress along; exact along
  | cons entry rest induction =>
      intro progress along
      exact induction
        (fun other inRest => members other (List.mem_cons_of_mem _ inRest))
        (along.step (members entry List.mem_cons_self))

/-- The path of a relink is still free when the relink is applied. -/
theorem accepts_of_along
    (wellFounded : WellFounded db decisions) {progress : Progress}
    (along : Along db decisions progress)
    {entry : ArtifactSnapshot × Decision} (member : entry ∈ decisions) :
    accepts progress.db entry = true := by
  rcases entry with ⟨snapshot, decision⟩
  cases decision with
  | present | missing => rfl
  | relink path =>
      by_contra tracked
      simp only [accepts, isTracked, Bool.not_eq_true', Bool.not_eq_false,
        Table.any_eq_true_iff] at tracked
      rcases tracked with ⟨key, row', found', isOther⟩
      simp only [Bool.and_eq_true, beq_iff_eq, bne_iff_ne] at isOther
      rcases isOther with ⟨⟨inStorage, hasPath⟩, notSelf⟩
      rcases along.row key row' found' with
        ⟨row, found, -, sameStorage⟩
      rcases along.path key row row' found found' with
        samePath | ⟨other, isMember, isKey, relinked⟩
      · apply wellFounded.untracked snapshot path member
        rw [trackedPaths, List.mem_map]
        refine ⟨(key, row), (Table.mem_select_iff _ _ _ _).mpr
          ⟨found, ?_⟩, samePath.symm.trans hasPath⟩
        rw [← sameStorage, inStorage]
        exact beq_self_eq_true _
      · rcases wellFounded.snapshot other isMember with
          ⟨artifact, foundArtifact, isStorage, -⟩
        rw [isKey, found, Option.some.injEq] at foundArtifact
        have sameSnapshot := wellFounded.alone snapshot other.1 path member
          (by rw [← hasPath, ← relinked]; exact isMember)
          (by rw [isStorage, ← foundArtifact, ← sameStorage, inStorage])
        apply notSelf
        rw [sameSnapshot, isKey]

/-- The row of the key is not marked missing. -/
def Clean (key : Nat) (progress : Progress) : Prop :=
  ∀ row, progress.db.artifact.get key = some row → row.missingSince = none

/-- No decision finds the file of the Artifact missing. -/
def NeverMissing (decisions : List (ArtifactSnapshot × Decision))
    (key : Nat) : Prop :=
  ∀ entry ∈ decisions, entry.1.artifactId = key →
    ∀ kind candidates, entry.2 ≠ .missing kind candidates

/-- A decision which is applied to the row of the key clears its mark. -/
theorem clean_applied
    {key : Nat} {progress : Progress}
    {entry : ArtifactSnapshot × Decision} (member : entry ∈ decisions)
    (neverMissing : NeverMissing decisions key)
    (cleanOrOwn : Clean key progress ∨ entry.1.artifactId = key) :
    Clean key (applied checkedAt now progress entry) := by
  intro row found
  rcases get_applied found with
    ⟨other, same⟩ | ⟨isKey, before, foundBefore, rfl⟩
  · rcases cleanOrOwn with clean | isKey
    · exact clean row same
    · exact absurd isKey other
  · rw [touched, column_touchArtifact ArtifactRow.missingSince
      fun _ _ => rfl]
    rcases missingSince_decided checkedAt before entry.2
      with cleared | ⟨kind, candidates, isMissing⟩
    · exact cleared
    · exact absurd isMissing
        (neverMissing entry member isKey kind candidates)

theorem clean_step
    {key : Nat} {progress : Progress}
    {entry : ArtifactSnapshot × Decision} (member : entry ∈ decisions)
    (neverMissing : NeverMissing decisions key)
    (clean : Clean key progress) :
    Clean key (applyDecision checkedAt now progress entry) := by
  rw [applyDecision_eq]
  split
  · exact clean_applied member neverMissing (Or.inl clean)
  · exact clean

variable (checkedAt now) in
theorem clean_foldl
    {key : Nat} (neverMissing : NeverMissing decisions key)
    {rest : List (ArtifactSnapshot × Decision)}
    (members : ∀ entry ∈ rest, entry ∈ decisions) :
    ∀ {progress : Progress}, Clean key progress →
      Clean key (rest.foldl (applyDecision checkedAt now) progress) := by
  induction rest with
  | nil => intro progress clean; exact clean
  | cons entry rest induction =>
      intro progress clean
      exact induction
        (fun other inRest => members other (List.mem_cons_of_mem _ inRest))
        (clean_step (members entry List.mem_cons_self) neverMissing clean)

/-- The decision about an Artifact clears its mark, unless an earlier one has
done so. -/
theorem clean_of_decision
    (wellFounded : WellFounded db decisions) {progress : Progress}
    (along : Along db decisions progress)
    {entry : ArtifactSnapshot × Decision} (member : entry ∈ decisions)
    (neverMissing : NeverMissing decisions entry.1.artifactId) :
    Clean entry.1.artifactId
      (applyDecision checkedAt now progress entry) := by
  by_cases clean : Clean entry.1.artifactId progress
  · exact clean_step member neverMissing clean
  · simp only [Clean, not_forall] at clean
    rcases clean with ⟨row, found, isMissing⟩
    -- The mark is still the one of the database, so that the row is current.
    have unchanged : db.artifact.get entry.1.artifactId = some row := by
      rcases along.missing _ row found (Option.isSome_iff_ne_none.mpr
          isMissing) with same | ⟨other, isMember, isKey, kind, candidates,
            isDecision⟩
      · exact same
      · exact absurd isDecision
          (neverMissing other isMember isKey kind candidates)
    have current : isCurrent progress.db entry.1 = true := by
      have before := wellFounded.current entry member
      unfold isCurrent at before ⊢
      rw [found, along.target]
      rw [unchanged] at before
      exact before
    rw [applyDecision_eq, current, accepts_of_along wellFounded along member,
      Bool.and_self, if_pos rfl]
    exact clean_applied member neverMissing (Or.inr rfl)

/-- No Artifact of the Target is marked missing after decisions which find
none of them missing, and which are about each one that was marked before. -/
theorem not_hasMissing_foldl
    (wellFounded : WellFounded db decisions) {targetId : Nat}
    (report : IntegrityReport)
    (noneMissing : ∀ entry ∈ decisions, entry.1.targetId = targetId →
      ∀ kind candidates, entry.2 ≠ .missing kind candidates)
    (resolved : ∀ key row, db.artifact.get key = some row →
      row.targetId = targetId → row.missingSince.isSome = true →
        ∃ entry ∈ decisions, entry.1.artifactId = key) :
    hasMissing (decisions.foldl (applyDecision checkedAt now)
      { db, report }).db targetId = false := by
  by_contra marked
  rw [Bool.not_eq_false, hasMissing, Table.any_eq_true_iff] at marked
  rcases marked with ⟨key, row', found', isMarked⟩
  rw [Bool.and_eq_true, beq_iff_eq] at isMarked
  have along : Along db decisions _ :=
    Along.foldl checkedAt now (fun _ member => member)
      (Along.refl report)
  rcases along.row key row' found' with ⟨row, found, sameTarget, -⟩
  have neverMissing : NeverMissing decisions key := by
    intro entry member isKey
    rcases wellFounded.snapshot entry member with
      ⟨artifact, foundArtifact, -, isTarget, -⟩
    rw [isKey, found, Option.some.injEq] at foundArtifact
    refine noneMissing entry member ?_
    rw [isTarget, ← foundArtifact, ← sameTarget]
    exact isMarked.1
  have unchanged : db.artifact.get key = some row' := by
    rcases along.missing key row' found' isMarked.2 with
      same | ⟨entry, member, isKey, kind, candidates, isDecision⟩
    · exact same
    · exact absurd isDecision
        (neverMissing entry member isKey kind candidates)
  rcases resolved key row' unchanged isMarked.1 isMarked.2 with
    ⟨entry, member, rfl⟩
  rcases List.append_of_mem member with ⟨before, after, rfl⟩
  have alongBefore : Along db (before ++ entry :: after)
      (before.foldl (applyDecision checkedAt now) { db, report }) :=
    Along.foldl checkedAt now
      (fun other inBefore => List.mem_append_left (entry :: after) inBefore)
      (Along.refl report)
  have cleaned : Clean entry.1.artifactId (applyDecision checkedAt now
      (before.foldl (applyDecision checkedAt now) { db, report }) entry) :=
    clean_of_decision wellFounded alongBefore member neverMissing
  have clean := clean_foldl checkedAt now neverMissing
    (fun other inAfter => List.mem_append_right before
      (List.mem_cons_of_mem entry inAfter)) cleaned
  rw [← List.foldl_cons, ← List.foldl_append] at clean
  rw [clean row' found'] at isMarked
  cases isMarked.2

end Apply

/-! ## The Target -/

/-- A row whose status is the one before, or which is back at DOWNLOADED. -/
def StaysOrReturns (row row' : TargetRow) : Prop :=
  row'.status = row.status ∨ row'.status = .downloaded

/-- Setting the status of another Target leaves a Target alone. -/
theorem get_setStatus
    (db : Database) (changed : Nat) (status : TargetStatus) (now : Time)
    (targetId : Nat) :
    (setStatus db changed status now).target.get targetId =
      if targetId = changed then (db.target.get targetId).map
        (touchTarget now fun row => { row with status })
      else db.target.get targetId :=
  Table.get_modify _ _ _ _

theorem status_touchTarget
    (now : Time) (status : TargetStatus) (row : TargetRow) :
    (touchTarget now (fun row => { row with status }) row).status =
      status := by
  unfold touchTarget
  split
  · next same => exact (congrArg TargetRow.status same).symm
  · rfl

theorem settleTarget_target
    {now : Time} {progress : Progress} {settled targetId : Nat}
    (unmarked : settled = targetId →
      hasMissing progress.db targetId = false)
    {row' : TargetRow}
    (found' : (settleTarget now progress settled).db.target.get targetId =
      some row') :
    ∃ row, progress.db.target.get targetId = some row ∧
      StaysOrReturns row row' := by
  have ofSet : ∀ status, (settled = targetId → status = .downloaded) →
      (setStatus progress.db settled status now).target.get targetId =
        some row' →
      ∃ row, progress.db.target.get targetId = some row ∧
        StaysOrReturns row row' := by
    intro status isDownloaded found
    rw [get_setStatus] at found
    split at found
    · next same =>
        rcases Option.map_eq_some_iff.mp found with ⟨row, foundRow, rfl⟩
        refine ⟨row, foundRow, Or.inr ?_⟩
        rw [status_touchTarget, isDownloaded same.symm]
    · exact ⟨row', found, Or.inl rfl⟩
  unfold settleTarget at found'
  split at found'
  · exact ⟨row', found', Or.inl rfl⟩
  · split at found'
    · next marked =>
        split at found'
        · exact ⟨row', found', Or.inl rfl⟩
        · refine ofSet _ ?_ found'
          rintro rfl
          rw [unmarked rfl] at marked
          cases marked.1
    · split at found'
      · exact ofSet _ (fun _ => rfl) found'
      · exact ⟨row', found', Or.inl rfl⟩

theorem artifact_settleTarget_eq
    (now : Time) (progress : Progress) (settled : Nat) :
    (settleTarget now progress settled).db.artifact =
      progress.db.artifact := by
  unfold settleTarget
  split
  · rfl
  · split
    · split <;> rfl
    · split <;> rfl

theorem foldl_settleTarget_target
    {now : Time} {targetId : Nat} {settled : List Nat} :
    ∀ {progress : Progress},
      (targetId ∈ settled → hasMissing progress.db targetId = false) →
      ∀ {row' : TargetRow},
        (settled.foldl (settleTarget now) progress).db.target.get targetId =
          some row' →
        ∃ row, progress.db.target.get targetId = some row ∧
          StaysOrReturns row row' := by
  induction settled with
  | nil =>
      intro progress _ row' found'
      exact ⟨row', found', Or.inl rfl⟩
  | cons first rest induction =>
      intro progress unmarked row' found'
      have sameMarks : hasMissing (settleTarget now progress first).db
          targetId = hasMissing progress.db targetId := by
        rw [hasMissing, hasMissing, artifact_settleTarget_eq]
      rcases induction
          (fun inRest => sameMarks.trans
            (unmarked (List.mem_cons_of_mem _ inRest))) found' with
        ⟨middle, foundMiddle, later⟩
      have unmarkedFirst : first = targetId →
          hasMissing progress.db targetId = false := by
        rintro rfl
        exact unmarked List.mem_cons_self
      rcases settleTarget_target unmarkedFirst foundMiddle with
        ⟨row, found, earlier⟩
      refine ⟨row, found, ?_⟩
      rcases later with same | isDownloaded
      · rcases earlier with sameEarlier | isDownloaded
        · exact Or.inl (same.trans sameEarlier)
        · exact Or.inr (same.trans isDownloaded)
      · exact Or.inr isDownloaded

/-- The decisions find no Artifact of the Target missing, and are about each
one that is marked so. -/
structure Resolves (db : Database)
    (decisions : List (ArtifactSnapshot × Decision)) (targetId : Nat) :
    Prop where
  noneMissing : ∀ entry ∈ decisions, entry.1.targetId = targetId →
    ∀ kind candidates, entry.2 ≠ .missing kind candidates
  resolved : ∀ key row, db.artifact.get key = some row →
    row.targetId = targetId → row.missingSince.isSome = true →
      ∃ entry ∈ decisions, entry.1.artifactId = key

/-- The decisions are about no Artifact of the Target. -/
def PassesBy (decisions : List (ArtifactSnapshot × Decision))
    (targetId : Nat) : Prop :=
  ∀ entry ∈ decisions, entry.1.targetId ≠ targetId

/-- A check which passes a Target by or resolves its files takes it nowhere
but back to DOWNLOADED. -/
theorem applyDecisions_target
    {db : Database} {decisions : List (ArtifactSnapshot × Decision)}
    (wellFounded : WellFounded db decisions) {report : IntegrityReport}
    {checkedAt now : Time} {targetId : Nat}
    (settled : PassesBy decisions targetId ∨ Resolves db decisions targetId)
    {row' : TargetRow}
    (found' : (applyDecisions db report decisions checkedAt
      now).db.target.get targetId = some row') :
    ∃ row, db.target.get targetId = some row ∧ StaysOrReturns row row' := by
  have along : Along db decisions
      (decisions.foldl (applyDecision checkedAt now) { db, report }) :=
    Along.foldl checkedAt now (fun _ member => member) (Along.refl report)
  rw [← along.target]
  refine foldl_settleTarget_target ?_ found'
  intro isAffected
  rcases settled with passesBy | resolves
  · rcases along.affected targetId (List.mem_dedup.mp isAffected) with
      ⟨entry, member, isTarget⟩
    exact absurd isTarget (passesBy entry member)
  · exact not_hasMissing_foldl wellFounded report resolves.noneMissing
      resolves.resolved

end Sluicery.Core.Integrity
