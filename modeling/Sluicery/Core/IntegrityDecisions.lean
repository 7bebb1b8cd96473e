import Sluicery.Core.IntegritySafety

/-!
# The decisions of a check, from its rows and answers

Which decisions reach the last transaction of `check_integrity` follows from
the selected rows and the answers of the adapters.  A row is decided about
when the first look at its storage was answered for every row there, and when
the second look does not contradict the first.
-/

namespace Sluicery.Core.Integrity

open Sluicery.Library Sluicery.Db

/-- The first look at a storage was answered. -/
structure Looked (answers : Answers) (rows : List ArtifactSnapshot)
    (storageId : Nat) : Prop where
  adapter : answers.adapter storageId = true
  answered : ∀ row ∈ rows, row.storageId = storageId →
    answers.exists row.artifactId ≠ none
  listing : absentRows answers rows storageId ≠ [] →
    ∃ listed, answers.listing storageId = .ok listed

/-- The file of a row is where it was, or is the one candidate elsewhere. -/
inductive FindsFile (db : Database) (answers : Answers)
    (rows : List ArtifactSnapshot) (row : ArtifactSnapshot) : Prop where
  | present (looked : Looked answers rows row.storageId)
      (again : answers.existsAgain row.artifactId = some true)
  | elsewhere (looked : Looked answers rows row.storageId)
      (first : answers.exists row.artifactId = some false)
      (again : answers.existsAgain row.artifactId = some false)
      (listed : List String)
      (isListed : answers.listing row.storageId = .ok listed) (path : String)
      (unique : UniqueCandidate (trackedPaths db row.storageId) listed
        (absentRows answers rows row.storageId) row path)
      (candidate : answers.candidateExists row.artifactId = some true)

/-- A row is looked at, and no file of it is found. -/
structure FindsNone (db : Database) (answers : Answers)
    (rows : List ArtifactSnapshot) (row : ArtifactSnapshot) : Prop where
  looked : Looked answers rows row.storageId
  missing : FoundMissing db answers rows row

/-! ## The first look -/

section Scan

variable {db : Database} {answers : Answers} {maxCandidates : Nat}
  {rows : List ArtifactSnapshot} {report : IntegrityReport}

theorem looked_of_mem_scanStorage
    {storageId : Nat} {entry : ArtifactSnapshot × Decision}
    (member : entry ∈
      (scanStorage db answers maxCandidates report storageId
        (rows.filter fun row => row.storageId == storageId)).2) :
    Looked answers rows storageId := by
  simp only [scanStorage] at member
  split at member
  · cases member
  · next created =>
      split at member
      · cases member
      · next answered =>
          constructor
          · rwa [Bool.not_eq_true', Bool.not_eq_false] at created
          · intro row isRow inStorage failed
            apply answered
            rw [List.any_eq_true]
            refine ⟨row, List.mem_filter.mpr ⟨isRow, ?_⟩, ?_⟩
            · exact beq_iff_eq.mpr inStorage
            · rw [failed]
              rfl
          · intro someAbsent
            split at member
            · next noneAbsent =>
                exact absurd (List.isEmpty_iff.mp noneAbsent) someAbsent
            · split at member
              · cases member
              · next listed isListed => exact ⟨listed, isListed⟩

/-- What the first look decides about a row. -/
def FirstDecision (db : Database) (answers : Answers) (maxCandidates : Nat)
    (rows : List ArtifactSnapshot) (row : ArtifactSnapshot)
    (decision : Decision) : Prop :=
  (answers.exists row.artifactId = some true ∧ decision = .present) ∨
  answers.exists row.artifactId = some false ∧
    ∃ listed, answers.listing row.storageId = .ok listed ∧
      decision = decideAbsent maxCandidates (trackedPaths db row.storageId)
        listed (absentRows answers rows row.storageId) row

theorem mem_scanStorage_of_looked
    {row : ArtifactSnapshot} {decision : Decision} (isRow : row ∈ rows)
    (looked : Looked answers rows row.storageId)
    (first : FirstDecision db answers maxCandidates rows row decision) :
    (row, decision) ∈
      (scanStorage db answers maxCandidates report row.storageId
        (rows.filter fun other => other.storageId == row.storageId)).2 := by
  have here : row ∈
      rows.filter fun other => other.storageId == row.storageId :=
    List.mem_filter.mpr ⟨isRow, beq_self_eq_true _⟩
  have answered : ((rows.filter fun other =>
      other.storageId == row.storageId).any fun other =>
        (answers.exists other.artifactId).isNone) = false := by
    rw [List.any_eq_false]
    intro other isOther
    rcases List.mem_filter.mp isOther with ⟨inRows, inStorage⟩
    have some := looked.answered other inRows (beq_iff_eq.mp inStorage)
    simpa [Option.isNone_iff_eq_none] using some
  have present (exists' : answers.exists row.artifactId = some true) :
      (row, Decision.present) ∈
        ((rows.filter fun other =>
          other.storageId == row.storageId).filter fun other =>
            answers.exists other.artifactId == some true).map
              fun other => (other, Decision.present) :=
    List.mem_map.mpr ⟨row, List.mem_filter.mpr
      ⟨here, beq_iff_eq.mpr exists'⟩, rfl⟩
  simp only [scanStorage, looked.adapter, answered, Bool.not_true,
    Bool.false_eq_true, if_false]
  split
  · next noneAbsent =>
      rcases first with ⟨exists', rfl⟩ | ⟨absent, -⟩
      · exact present exists'
      · have isAbsent : row ∈ absentRows answers rows row.storageId :=
          List.mem_filter.mpr ⟨here, beq_iff_eq.mpr absent⟩
        rw [absentRows, List.isEmpty_iff.mp noneAbsent] at isAbsent
        cases isAbsent
  · next someAbsent =>
      rcases looked.listing fun none => someAbsent
        (List.isEmpty_iff.mpr none) with ⟨listed, isListed⟩
      rw [isListed]
      dsimp only
      rw [List.mem_append]
      rcases first with ⟨exists', rfl⟩ | ⟨absent, other, isOther, rfl⟩
      · exact Or.inr (present exists')
      · cases isListed.symm.trans isOther
        exact Or.inl (List.mem_map.mpr ⟨row, List.mem_filter.mpr
          ⟨here, beq_iff_eq.mpr absent⟩, rfl⟩)

theorem mem_scanStorages_of_mem
    {groups : List (Nat × List ArtifactSnapshot)}
    {group : Nat × List ArtifactSnapshot}
    {entry : ArtifactSnapshot × Decision} (isGroup : group ∈ groups)
    (scanned : ∀ report, entry ∈
      (scanStorage db answers maxCandidates report group.1 group.2).2) :
    entry ∈ (scanStorages db answers maxCandidates groups report).2 := by
  induction groups generalizing report with
  | nil => cases isGroup
  | cons first rest induction =>
      rw [scanStorages]
      apply List.mem_append.mpr
      rcases List.mem_cons.mp isGroup with rfl | inRest
      · exact Or.inl (scanned report)
      · exact Or.inr (induction inRest)

theorem mem_revalidateAll_of_ok
    {entries : List (ArtifactSnapshot × Decision)} {row : ArtifactSnapshot}
    {before after : Decision} (member : (row, before) ∈ entries)
    (decided : revalidate answers row before = .ok after) :
    (row, after) ∈ (revalidateAll answers entries report).2 := by
  induction entries generalizing report with
  | nil => cases member
  | cons first rest induction =>
      rw [revalidateAll]
      rcases List.mem_cons.mp member with rfl | inRest
      · rw [decided]
        exact List.mem_cons_self
      · split
        · exact induction inRest
        · exact List.mem_cons_of_mem _ (induction inRest)

end Scan

/-! ## The decisions -/

variable {db : Database} {answers : Answers}
  {storageId playlistId : Option Nat} {maxCandidates : Nat}

theorem mem_grouped
    {row : ArtifactSnapshot} (isRow : row ∈ snapshots db storageId playlistId) :
    (row.storageId, (snapshots db storageId playlistId).filter
        fun other => other.storageId == row.storageId) ∈
      grouped db (snapshots db storageId playlistId) := by
  have inStorage : row ∈ (snapshots db storageId playlistId).filter
      fun other => other.storageId == row.storageId :=
    List.mem_filter.mpr ⟨isRow, beq_self_eq_true _⟩
  rw [snapshots, List.mem_filterMap] at isRow
  rcases isRow with ⟨entry, -, selected⟩
  rcases Option.bind_eq_some_iff.mp selected with ⟨joined, isJoined, kept⟩
  split at kept
  case isFalse => cases kept
  cases kept
  simp only [snapshotOf, Option.bind_eq_bind, Option.bind_eq_some_iff,
    Option.some.injEq] at isJoined
  rcases isJoined with ⟨target, -, item, -, _, -, storage, isStorage, rfl⟩
  rw [grouped, List.mem_filter, List.mem_map]
  refine ⟨⟨(_, storage), (db.storage.get_eq_some_iff _ _).mp isStorage,
    rfl⟩, ?_⟩
  rw [Bool.not_eq_true', ← Bool.not_eq_true, List.isEmpty_iff]
  exact List.ne_nil_of_mem inStorage

/-- The decisions of a scan: the first look, then the second one. -/
theorem mem_scan_iff
    {row : ArtifactSnapshot} {decision : Decision} :
    (row, decision) ∈
        (scan db answers storageId playlistId maxCandidates).2 ↔
      row ∈ snapshots db storageId playlistId ∧
      Looked answers (snapshots db storageId playlistId) row.storageId ∧
      ∃ before,
        FirstDecision db answers maxCandidates
          (snapshots db storageId playlistId) row before ∧
        revalidate answers row before = .ok decision := by
  constructor
  · intro member
    rcases mem_revalidateAll member with ⟨before, inScan, revalidated⟩
    rcases mem_scanStorage_of_mem_scanStorages inScan with
      ⟨group, inGroups, report, scanned⟩
    rw [grouped, List.mem_filter, List.mem_map] at inGroups
    rcases inGroups with ⟨⟨storage, -, rfl⟩, -⟩
    have grounds := grounds_of_mem_scanStorage scanned
    have inStorage :=
      (List.mem_filter.mp (mem_of_mem_scanStorage scanned)).2
    have looked := looked_of_mem_scanStorage scanned
    rw [← beq_iff_eq.mp inStorage] at looked
    exact ⟨grounds.isRow, looked, before, grounds.decided, revalidated⟩
  · rintro ⟨isRow, looked, before, first, revalidated⟩
    apply mem_revalidateAll_of_ok _ revalidated
    apply mem_scanStorages_of_mem (mem_grouped isRow)
    intro report
    exact mem_scanStorage_of_looked isRow looked first

theorem nodup_absentRows (key : Nat) :
    (absentRows answers (snapshots db storageId playlistId) key).Nodup :=
  ((artifactIds_snapshots db storageId playlistId).of_map.filter _).filter _

theorem mem_absentRows
    {rows : List ArtifactSnapshot} {row : ArtifactSnapshot}
    (isRow : row ∈ rows)
    (absent : answers.exists row.artifactId = some false) :
    row ∈ absentRows answers rows row.storageId :=
  List.mem_filter.mpr ⟨List.mem_filter.mpr ⟨isRow, beq_self_eq_true _⟩,
    beq_iff_eq.mpr absent⟩

/-- The first look decides about every row of an answered storage. -/
theorem exists_firstDecision
    {rows : List ArtifactSnapshot} {row : ArtifactSnapshot}
    (isRow : row ∈ rows) (looked : Looked answers rows row.storageId) :
    ∃ decision, FirstDecision db answers maxCandidates rows row decision := by
  rcases first : answers.exists row.artifactId with _ | _ | _
  · exact absurd first (looked.answered row isRow rfl)
  · rcases looked.listing (List.ne_nil_of_mem (mem_absentRows isRow first))
      with ⟨listed, isListed⟩
    exact ⟨_, Or.inr ⟨first, listed, isListed, rfl⟩⟩
  · exact ⟨_, Or.inl ⟨first, rfl⟩⟩

/-- No file is found of a row which is decided to be missing. -/
theorem findsNone_iff
    {row : ArtifactSnapshot} (isRow : row ∈ snapshots db storageId playlistId) :
    FindsNone db answers (snapshots db storageId playlistId) row ↔
      ∃ kind candidates, (row, .missing kind candidates) ∈
        (scan db answers storageId playlistId maxCandidates).2 := by
  constructor
  · rintro ⟨looked, absent, again, listed, isListed, unclaimed⟩
    have isAbsent := mem_absentRows isRow absent
    cases decides : decideAbsent maxCandidates
        (trackedPaths db row.storageId) listed
        (absentRows answers (snapshots db storageId playlistId)
          row.storageId) row with
    | present => exact absurd decides (decideAbsent_ne_present _ _ _ _ _)
    | relink path =>
        exact absurd ((decideAbsent_eq_relink_iff (nodup_absentRows _)
          isAbsent path).mp decides) (unclaimed path)
    | missing kind candidates =>
        refine ⟨kind, candidates, mem_scan_iff.mpr ⟨isRow, looked, _,
          Or.inr ⟨absent, listed, isListed, decides.symm⟩, ?_⟩⟩
        rw [revalidate_eq_ok_iff]
        exact Or.inr ⟨again, rfl, by simp, by simp⟩
  · rintro ⟨kind, candidates, member⟩
    have sound : Sound db answers (snapshots db storageId playlistId)
        (row, .missing kind candidates) :=
      sound_of_mem_scanBetween member
    rcases sound.absent (by simp) with
      ⟨absent, again, listed, isListed, relinks⟩
    refine ⟨(mem_scan_iff.mp member).2.1, absent, again, listed, isListed,
      ?_⟩
    intro path unique
    cases (relinks path).mpr unique

/-- Any other decision found the file of its row. -/
theorem findsFile_iff
    {row : ArtifactSnapshot} (isRow : row ∈ snapshots db storageId playlistId) :
    FindsFile db answers (snapshots db storageId playlistId) row ↔
      ∃ decision, (row, decision) ∈
          (scan db answers storageId playlistId maxCandidates).2 ∧
        ∀ kind candidates, decision ≠ .missing kind candidates := by
  constructor
  · rintro (⟨looked, again⟩ | ⟨looked, absent, again, listed, isListed, path,
      unique, candidate⟩)
    · rcases exists_firstDecision isRow looked with ⟨before, first⟩
      refine ⟨.present, mem_scan_iff.mpr ⟨isRow, looked, before, first, ?_⟩,
        by simp⟩
      rw [revalidate_eq_ok_iff]
      exact Or.inl ⟨again, rfl⟩
    · have isAbsent := mem_absentRows isRow absent
      have decides : decideAbsent maxCandidates
          (trackedPaths db row.storageId) listed
          (absentRows answers (snapshots db storageId playlistId)
            row.storageId) row = .relink path :=
        (decideAbsent_eq_relink_iff (nodup_absentRows _) isAbsent path).mpr
          unique
      refine ⟨.relink path, mem_scan_iff.mpr ⟨isRow, looked, _,
        Or.inr ⟨absent, listed, isListed, decides.symm⟩, ?_⟩, by simp⟩
      rw [revalidate_eq_ok_iff]
      exact Or.inr ⟨again, rfl, by simp, fun _ _ => candidate⟩
  · rintro ⟨decision, member, notMissing⟩
    have looked := (mem_scan_iff.mp member).2.1
    have sound : Sound db answers (snapshots db storageId playlistId)
        (row, decision) :=
      sound_of_mem_scanBetween member
    cases decision with
    | present => exact .present looked (sound.present rfl)
    | missing kind candidates => exact absurd rfl (notMissing kind candidates)
    | relink path =>
        rcases sound.absent (by simp) with
          ⟨absent, again, listed, isListed, relinks⟩
        exact .elsewhere looked absent again listed isListed path
          ((relinks path).mp rfl) (sound.relink path rfl)

end Sluicery.Core.Integrity
