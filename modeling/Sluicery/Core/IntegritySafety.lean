import Sluicery.Core.IntegrityTarget

/-!
# No Artifact is missing because of a failure

`check_integrity` with the database changing between its transactions: the
rows and the tracked paths are read from one database each, and the decisions
are applied to a third.  What an entry of `revalidated_decisions` rests on is
said once; whether a row is touched then follows from the answers for it.
-/

namespace Sluicery.Core.Integrity

open Sluicery.Library Sluicery.Db

/-! ## The check between changes of the database -/

/-- The decisions about the rows of one database and the paths of another. -/
def scanBetween (rowsDb trackedDb : Database) (answers : Answers)
    (storageId playlistId : Option Nat) (maxCandidates : Nat) :
    IntegrityReport × List (ArtifactSnapshot × Decision) :=
  let scanned := scanStorages trackedDb answers maxCandidates
    (grouped rowsDb (snapshots rowsDb storageId playlistId)) {}
  revalidateAll answers scanned.2 scanned.1

/-- `check_integrity`, of which each transaction sees its own database. -/
def checkIntegrityBetween (rowsDb trackedDb applyDb : Database)
    (answers : Answers) (storageId playlistId : Option Nat)
    (rescanTimeoutSec maxCandidates : Int) (checkedAt now : Time) :
    Except String Progress :=
  if rescanTimeoutSec ≤ 0 then
    .error "rescan_timeout_secは1以上にしてください"
  else if maxCandidates ≤ 0 then
    .error "max_candidates_per_source_idは1以上にしてください"
  else
    let scanned := scanBetween rowsDb trackedDb answers storageId playlistId
      maxCandidates.toNat
    .ok (applyDecisions applyDb scanned.1 scanned.2 checkedAt now)

/-- Without a change this is the check of one database. -/
theorem checkIntegrityBetween_self
    (db : Database) (answers : Answers) (storageId playlistId : Option Nat)
    (rescanTimeoutSec maxCandidates : Int) (checkedAt now : Time) :
    checkIntegrityBetween db db db answers storageId playlistId
        rescanTimeoutSec maxCandidates checkedAt now =
      checkIntegrity db answers storageId playlistId rescanTimeoutSec
        maxCandidates checkedAt now := rfl

/-! ## Candidates -/

/-- The rows of a storage whose file was not found. -/
def absentRows (answers : Answers) (rows : List ArtifactSnapshot)
    (storageId : Nat) : List ArtifactSnapshot :=
  (rows.filter fun row => row.storageId == storageId).filter fun row =>
    answers.exists row.artifactId == some false

/-- The one candidate of a row, which is no candidate of another row. -/
structure UniqueCandidate (tracked listed : List String)
    (absent : List ArtifactSnapshot) (row : ArtifactSnapshot)
    (path : String) : Prop where
  only : candidatesOf tracked listed row = [path]
  unclaimed : ∀ other ∈ absent, path ∈ candidatesOf tracked listed other →
    other = row

/-- Only a unique candidate is linked to. -/
theorem decideAbsent_eq_relink_iff
    {maxCandidates : Nat} {tracked listed : List String}
    {absent : List ArtifactSnapshot} (distinct : absent.Nodup)
    {row : ArtifactSnapshot} (isAbsent : row ∈ absent) (path : String) :
    decideAbsent maxCandidates tracked listed absent row = .relink path ↔
      UniqueCandidate tracked listed absent row path := by
  constructor
  · intro relinks
    rcases decideAbsent_relink relinks with ⟨isCandidate, claimed⟩
    rcases List.length_eq_one_iff.mp claimed with ⟨only, isOnly⟩
    have claimant (other : ArtifactSnapshot) (isOther : other ∈ absent)
        (claims : path ∈ candidatesOf tracked listed other) :
        other = only := by
      rw [← List.mem_singleton, ← isOnly, List.mem_filter]
      exact ⟨isOther, List.contains_iff_mem.mpr claims⟩
    constructor
    · rw [decideAbsent] at relinks
      split at relinks
      · cases relinks
      · next candidate same =>
          rw [same, List.mem_singleton] at isCandidate
          rw [same, isCandidate]
      · cases relinks
    · intro other isOther claims
      rw [claimant other isOther claims, claimant row isAbsent isCandidate]
  · intro unique
    classical
    have claimants : absent.filter (fun other =>
        (candidatesOf tracked listed other).contains path) =
          absent.filter fun other => other == row := by
      apply List.filter_congr
      intro other isOther
      rw [Bool.eq_iff_iff, List.contains_iff_mem, beq_iff_eq]
      constructor
      · exact unique.unclaimed other isOther
      · rintro rfl
        rw [unique.only]
        exact List.mem_singleton_self path
    have once : (absent.filter fun other =>
        (candidatesOf tracked listed other).contains path).length = 1 := by
      rw [claimants, ← List.countP_eq_length_filter]
      exact List.count_eq_one_of_mem distinct isAbsent
    rw [decideAbsent, unique.only]
    exact if_pos once

theorem decideAbsent_ne_present
    (maxCandidates : Nat) (tracked listed : List String)
    (absent : List ArtifactSnapshot) (row : ArtifactSnapshot) :
    decideAbsent maxCandidates tracked listed absent row ≠ .present := by
  unfold decideAbsent
  dsimp only
  split
  · simp
  · split <;> simp
  · simp

/-! ## What the first look at a storage rests on -/

section Scan

variable {trackedDb : Database} {answers : Answers} {maxCandidates : Nat}

/-- What a decision after the first look rests on. -/
structure Grounds (trackedDb : Database) (answers : Answers)
    (maxCandidates : Nat) (rows : List ArtifactSnapshot)
    (entry : ArtifactSnapshot × Decision) : Prop where
  isRow : entry.1 ∈ rows
  adapter : answers.adapter entry.1.storageId = true
  listing : absentRows answers rows entry.1.storageId ≠ [] →
    ∃ listed, answers.listing entry.1.storageId = .ok listed
  decided :
    (answers.exists entry.1.artifactId = some true ∧ entry.2 = .present) ∨
    answers.exists entry.1.artifactId = some false ∧
      ∃ listed, answers.listing entry.1.storageId = .ok listed ∧
        entry.2 = decideAbsent maxCandidates
          (trackedPaths trackedDb entry.1.storageId) listed
          (absentRows answers rows entry.1.storageId) entry.1

theorem grounds_of_mem_scanStorage
    {rows : List ArtifactSnapshot} {storageId : Nat}
    {report : IntegrityReport} {entry : ArtifactSnapshot × Decision}
    (member : entry ∈
      (scanStorage trackedDb answers maxCandidates report storageId
        (rows.filter fun row => row.storageId == storageId)).2) :
    Grounds trackedDb answers maxCandidates rows entry := by
  have inStorage := List.mem_filter.mp (mem_of_mem_scanStorage member)
  rcases entry with ⟨row, decision⟩
  have sameStorage : row.storageId = storageId := beq_iff_eq.mp inStorage.2
  subst sameStorage
  have ofPresent (inPresent : (row, decision) ∈
      ((rows.filter fun other => other.storageId == row.storageId).filter
        fun other => answers.exists other.artifactId == some true).map
          fun other => (other, Decision.present)) :
      answers.exists row.artifactId = some true ∧ decision = .present := by
    rcases List.mem_map.mp inPresent with ⟨other, isPresent, same⟩
    rcases Prod.mk.inj same with ⟨sameRow, sameDecision⟩
    rw [← sameRow]
    exact ⟨beq_iff_eq.mp (List.mem_filter.mp isPresent).2, sameDecision.symm⟩
  simp only [scanStorage] at member
  split at member
  · cases member
  · next created =>
      rw [Bool.not_eq_true', Bool.not_eq_false] at created
      split at member
      · cases member
      · split at member
        · next noneAbsent =>
            exact
              { isRow := inStorage.1
                adapter := created
                listing := fun someAbsent =>
                  absurd (List.isEmpty_iff.mp noneAbsent) someAbsent
                decided := Or.inl (ofPresent member) }
        · split at member
          · cases member
          · next listed isListed =>
              constructor
              · exact inStorage.1
              · exact created
              · exact fun _ => ⟨listed, isListed⟩
              · rcases List.mem_append.mp member with inAbsent | inPresent
                · rcases List.mem_map.mp inAbsent with
                    ⟨other, isAbsent, same⟩
                  rcases Prod.mk.inj same with ⟨rfl, rfl⟩
                  have notFound := (List.mem_filter.mp isAbsent).2
                  exact Or.inr
                    ⟨beq_iff_eq.mp notFound, listed, isListed, rfl⟩
                · exact Or.inl (ofPresent inPresent)

/-! ## What a decision rests on in the end -/

/-- What an entry of `revalidated_decisions` rests on. -/
structure Sound (trackedDb : Database) (answers : Answers)
    (rows : List ArtifactSnapshot) (entry : ArtifactSnapshot × Decision) :
    Prop where
  isRow : entry.1 ∈ rows
  adapter : answers.adapter entry.1.storageId = true
  first : answers.exists entry.1.artifactId ≠ none
  second : answers.existsAgain entry.1.artifactId ≠ none
  listing : absentRows answers rows entry.1.storageId ≠ [] →
    ∃ listed, answers.listing entry.1.storageId = .ok listed
  present : entry.2 = .present →
    answers.existsAgain entry.1.artifactId = some true
  absent : entry.2 ≠ .present →
    answers.exists entry.1.artifactId = some false ∧
    answers.existsAgain entry.1.artifactId = some false ∧
    ∃ listed, answers.listing entry.1.storageId = .ok listed ∧
      ∀ path, entry.2 = .relink path ↔
        UniqueCandidate (trackedPaths trackedDb entry.1.storageId) listed
          (absentRows answers rows entry.1.storageId) entry.1 path
  relink : ∀ path, entry.2 = .relink path →
    answers.candidateExists entry.1.artifactId = some true

/-- The second look keeps a decision, or finds the file after all. -/
theorem revalidate_eq_ok_iff
    (row : ArtifactSnapshot) (before after : Decision) :
    revalidate answers row before = .ok after ↔
      (answers.existsAgain row.artifactId = some true ∧ after = .present) ∨
      answers.existsAgain row.artifactId = some false ∧ before = after ∧
        after ≠ .present ∧
        ∀ path, after = .relink path →
          answers.candidateExists row.artifactId = some true := by
  rw [revalidate.eq_def]
  rcases again : answers.existsAgain row.artifactId with _ | _ | _
  · simp
  · cases before with
    | present =>
        constructor
        · rintro ⟨⟩
        · rintro (⟨⟨⟩, -⟩ | ⟨-, rfl, notPresent, -⟩)
          exact absurd rfl notPresent
    | missing kind candidates =>
        constructor
        · rintro ⟨⟩
          simp
        · rintro (⟨⟨⟩, -⟩ | ⟨-, rfl, -, -⟩)
          rfl
    | relink path =>
        rcases answers.candidateExists row.artifactId with _ | _ | _
        · constructor
          · rintro ⟨⟩
          · rintro (⟨⟨⟩, -⟩ | ⟨-, rfl, -, candidate⟩)
            cases candidate path rfl
        · constructor
          · rintro ⟨⟩
          · rintro (⟨⟨⟩, -⟩ | ⟨-, rfl, -, candidate⟩)
            cases candidate path rfl
        · constructor
          · rintro ⟨⟩
            simp
          · rintro (⟨⟨⟩, -⟩ | ⟨-, rfl, -, -⟩)
            rfl
  · simp [eq_comm]

theorem mem_revalidateAll
    {entries : List (ArtifactSnapshot × Decision)} {report : IntegrityReport}
    {entry : ArtifactSnapshot × Decision}
    (member : entry ∈ (revalidateAll answers entries report).2) :
    ∃ before, (entry.1, before) ∈ entries ∧
      revalidate answers entry.1 before = .ok entry.2 := by
  induction entries generalizing report with
  | nil => cases member
  | cons first rest induction =>
      have later {report : IntegrityReport}
          (inRest : entry ∈ (revalidateAll answers rest report).2) :
          ∃ before, (entry.1, before) ∈ first :: rest ∧
            revalidate answers entry.1 before = .ok entry.2 := by
        rcases induction inRest with ⟨before, inList, decided⟩
        exact ⟨before, List.mem_cons_of_mem _ inList, decided⟩
      rw [revalidateAll] at member
      split at member
      · exact later member
      · next decision isDecision =>
          rcases List.mem_cons.mp member with rfl | inRest
          · exact ⟨first.2, List.mem_cons_self, isDecision⟩
          · exact later inRest

/-- Each row of the query is the row of an Artifact of its own. -/
theorem artifactIds_snapshots
    (db : Database) (storageId playlistId : Option Nat) :
    ((snapshots db storageId playlistId).map
      ArtifactSnapshot.artifactId).Nodup := by
  have distinct : (db.artifact.rows.map Prod.fst).Nodup :=
    db.artifact.ascending.imp Nat.ne_of_lt
  rw [List.Nodup, List.pairwise_map] at distinct ⊢
  rw [snapshots, List.pairwise_filterMap]
  apply distinct.imp
  have sameId (entry : Nat × ArtifactRow) (row : ArtifactSnapshot)
      (selected : ((snapshotOf db entry.1 entry.2).bind fun joined =>
        if storageId.all (· == joined.1.storageId) &&
            playlistId.all (· == joined.2) then some joined.1
        else none) = some row) : row.artifactId = entry.1 := by
    rcases Option.bind_eq_some_iff.mp selected with ⟨joined, isJoined, kept⟩
    split at kept
    · cases kept
      simp only [snapshotOf, Option.bind_eq_bind, Option.bind_eq_some_iff,
        Option.some.injEq] at isJoined
      rcases isJoined with ⟨target, -, item, -, -, -, -, -, rfl⟩
      rfl
    · cases kept
  intro left right different leftRow isLeft rightRow isRight
  rw [sameId left leftRow isLeft, sameId right rightRow isRight]
  exact different

section Between

variable {rowsDb : Database} {storageId playlistId : Option Nat}

theorem sound_of_mem_scanBetween
    {entry : ArtifactSnapshot × Decision}
    (member : entry ∈ (scanBetween rowsDb trackedDb answers storageId
      playlistId maxCandidates).2) :
    Sound trackedDb answers (snapshots rowsDb storageId playlistId)
      entry := by
  rcases mem_revalidateAll member with ⟨before, inScan, revalidated⟩
  rcases mem_scanStorage_of_mem_scanStorages inScan with
    ⟨group, inGroups, report, scanned⟩
  rw [grouped, List.mem_filter, List.mem_map] at inGroups
  rcases inGroups with ⟨⟨storage, -, rfl⟩, -⟩
  have grounds := grounds_of_mem_scanStorage scanned
  have isRow := grounds.isRow
  have distinct : (absentRows answers (snapshots rowsDb storageId playlistId)
      entry.1.storageId).Nodup :=
    ((artifactIds_snapshots rowsDb storageId playlistId).of_map.filter
      _).filter _
  rw [revalidate_eq_ok_iff] at revalidated
  constructor
  · exact isRow
  · exact grounds.adapter
  · rcases grounds.decided with ⟨found, -⟩ | ⟨notFound, -⟩
    · simp [found]
    · simp [notFound]
  · rcases revalidated with ⟨found, -⟩ | ⟨notFound, -⟩
    · simp [found]
    · simp [notFound]
  · exact grounds.listing
  · intro isPresent
    rcases revalidated with ⟨found, -⟩ | ⟨-, -, notPresent, -⟩
    · exact found
    · exact absurd isPresent notPresent
  · intro notPresent
    rcases revalidated with ⟨-, isPresent⟩ | ⟨notFound, same, -, -⟩
    · exact absurd isPresent notPresent
    · rcases grounds.decided with ⟨-, isPresent⟩ | ⟨absent, listed, isListed,
        decided⟩
      · exact absurd (same.symm.trans isPresent) notPresent
      · use absent, notFound, listed, isListed
        intro path
        have isAbsent : entry.1 ∈ absentRows answers
            (snapshots rowsDb storageId playlistId) entry.1.storageId := by
          rw [absentRows, List.mem_filter, List.mem_filter]
          exact ⟨⟨isRow, beq_self_eq_true _⟩, beq_iff_eq.mpr absent⟩
        rw [← same, show before = _ from decided]
        exact decideAbsent_eq_relink_iff distinct isAbsent path
  · intro path relinks
    rcases revalidated with ⟨-, isPresent⟩ | ⟨-, -, -, candidate⟩
    · rw [relinks] at isPresent
      cases isPresent
    · exact candidate path relinks

/-! ## One decision for each Artifact -/

/-- The Artifacts of a list of decisions. -/
def artifactIds (entries : List (ArtifactSnapshot × Decision)) : List Nat :=
  entries.map fun entry => entry.1.artifactId

theorem artifactIds_scanStorage
    {report : IntegrityReport} {storageId : Nat}
    {rows : List ArtifactSnapshot}
    (distinct : (rows.map ArtifactSnapshot.artifactId).Nodup) :
    (artifactIds (scanStorage trackedDb answers maxCandidates report
      storageId rows).2).Nodup := by
  have ofFilter (keep : ArtifactSnapshot → Bool)
      (decide : ArtifactSnapshot → Decision) :
      artifactIds ((rows.filter keep).map fun row => (row, decide row)) =
        (rows.filter keep).map ArtifactSnapshot.artifactId := by
    rw [artifactIds, List.map_map]
    rfl
  have filtered (keep : ArtifactSnapshot → Bool) :
      ((rows.filter keep).map ArtifactSnapshot.artifactId).Nodup :=
    distinct.sublist (List.filter_sublist.map _)
  simp only [scanStorage]
  split
  · exact List.nodup_nil
  · split
    · exact List.nodup_nil
    · split
      · rw [ofFilter]
        exact filtered _
      · split
        · exact List.nodup_nil
        · rw [artifactIds, List.map_append, ← artifactIds, ← artifactIds,
            ofFilter, ofFilter, List.nodup_append]
          constructor
          · exact filtered _
          constructor
          · exact filtered _
          · intro left inAbsent right inPresent same
            rcases List.mem_map.mp inAbsent with ⟨row, isAbsent, rfl⟩
            rcases List.mem_map.mp inPresent with ⟨other, isPresent, rfl⟩
            have notFound := (List.mem_filter.mp isAbsent).2
            have found := (List.mem_filter.mp isPresent).2
            rw [beq_iff_eq] at notFound found
            rw [same, found] at notFound
            cases notFound

/-- The groups are about different Artifacts. -/
def Apart (left right : Nat × List ArtifactSnapshot) : Prop :=
  ∀ row ∈ left.2, ∀ other ∈ right.2, row.artifactId ≠ other.artifactId

theorem artifactIds_scanStorages
    {groups : List (Nat × List ArtifactSnapshot)} {report : IntegrityReport}
    (apart : groups.Pairwise Apart)
    (distinct : ∀ group ∈ groups,
      (group.2.map ArtifactSnapshot.artifactId).Nodup) :
    (artifactIds (scanStorages trackedDb answers maxCandidates groups
      report).2).Nodup := by
  induction groups generalizing report with
  | nil => exact List.nodup_nil
  | cons group rest induction =>
      rcases List.pairwise_cons.mp apart with ⟨fromRest, restApart⟩
      rw [scanStorages, artifactIds, List.map_append, List.nodup_append]
      constructor
      · exact artifactIds_scanStorage (distinct group List.mem_cons_self)
      constructor
      · exact induction restApart fun other isOther =>
          distinct other (List.mem_cons_of_mem _ isOther)
      · intro left inGroup right inRest
        rcases List.mem_map.mp inGroup with ⟨entry, isEntry, rfl⟩
        rcases List.mem_map.mp inRest with ⟨later, isLater, rfl⟩
        rcases mem_of_mem_scanStorages isLater with ⟨other, isOther, inOther⟩
        exact fromRest other isOther entry.1 (mem_of_mem_scanStorage isEntry)
          later.1 inOther

theorem artifactIds_revalidateAll
    (entries : List (ArtifactSnapshot × Decision))
    (report : IntegrityReport) :
    (artifactIds (revalidateAll answers entries report).2).Sublist
      (artifactIds entries) := by
  induction entries generalizing report with
  | nil => exact List.Sublist.slnil
  | cons first rest induction =>
      rw [revalidateAll]
      split
      · exact (induction _).cons _
      · exact (induction _).cons_cons _

theorem artifactIds_scanBetween :
    (artifactIds (scanBetween rowsDb trackedDb answers storageId playlistId
      maxCandidates).2).Nodup := by
  have distinct := artifactIds_snapshots rowsDb storageId playlistId
  apply (artifactIds_scanStorages ?_ ?_).sublist
    (artifactIds_revalidateAll _ _)
  · have storages : rowsDb.storage.rows.Pairwise fun left right =>
        left.1 ≠ right.1 :=
      (List.pairwise_map.mp rowsDb.storage.ascending).imp Nat.ne_of_lt
    apply List.Pairwise.filter
    rw [List.pairwise_map]
    apply storages.imp
    intro left right different row inLeft other inRight same
    have isRow := List.mem_filter.mp inLeft
    have isOther := List.mem_filter.mp inRight
    have sameRow := List.inj_on_of_nodup_map distinct isRow.1 isOther.1 same
    rw [sameRow] at isRow
    exact different ((beq_iff_eq.mp isRow.2).symm.trans
      (beq_iff_eq.mp isOther.2))
  · intro group isGroup
    rw [grouped, List.mem_filter, List.mem_map] at isGroup
    rcases isGroup with ⟨⟨storage, -, rfl⟩, -⟩
    exact distinct.sublist (List.filter_sublist.map _)

end Between

end Scan

/-! ## Applying the decisions -/

section Apply

variable {checkedAt now : Time}

/-- Whether a snapshot is current is a matter of its two rows. -/
theorem isCurrent_congr
    {left right : Database} {snapshot : ArtifactSnapshot}
    (sameArtifact : left.artifact.get snapshot.artifactId =
      right.artifact.get snapshot.artifactId)
    (sameTarget : left.target = right.target) :
    isCurrent left snapshot = isCurrent right snapshot := by
  rw [isCurrent, isCurrent, sameArtifact, sameTarget]

/-- What one decision does to the row of a key. -/
theorem get_applyDecision
    (progress : Progress) (entry : ArtifactSnapshot × Decision) (key : Nat) :
    (applyDecision checkedAt now progress entry).db.artifact.get key =
        progress.db.artifact.get key ∨
      entry.1.artifactId = key ∧ isCurrent progress.db entry.1 = true ∧
        (applyDecision checkedAt now progress entry).db.artifact.get key =
          (progress.db.artifact.get key).map
            (touched checkedAt now entry) := by
  rw [applyDecision_eq]
  split
  · next accepted =>
      rw [Bool.and_eq_true] at accepted
      by_cases same : key = entry.1.artifactId
      · subst same
        exact Or.inr ⟨rfl, accepted.1, Table.get_modify_self _ _ _⟩
      · exact Or.inl (Table.get_modify_of_ne _ _ same)
  · exact Or.inl rfl

theorem target_applyDecision
    (progress : Progress) (entry : ArtifactSnapshot × Decision) :
    (applyDecision checkedAt now progress entry).db.target =
      progress.db.target := by
  rw [applyDecision_eq]
  split <;> rfl

/-- Of decisions about different Artifacts one at most touches a row. -/
theorem get_foldl_applyDecision
    {entries : List (ArtifactSnapshot × Decision)}
    (distinct : (artifactIds entries).Nodup) (progress : Progress)
    (key : Nat) :
    (entries.foldl (applyDecision checkedAt now) progress).db.artifact.get
        key = progress.db.artifact.get key ∨
      ∃ entry ∈ entries, entry.1.artifactId = key ∧
        isCurrent progress.db entry.1 = true ∧
        (entries.foldl (applyDecision checkedAt now) progress).db.artifact.get
          key = (progress.db.artifact.get key).map
            (touched checkedAt now entry) := by
  induction entries generalizing progress with
  | nil => exact Or.inl rfl
  | cons first rest induction =>
      rcases List.nodup_cons.mp distinct with ⟨fresh, restDistinct⟩
      have later := induction restDistinct
        (applyDecision checkedAt now progress first)
      rw [List.foldl_cons]
      rcases get_applyDecision progress
        first key with kept | ⟨isFirst, current, isTouched⟩
      · rw [kept] at later
        rcases later with unchanged | ⟨entry, isEntry, isKey, current, same⟩
        · exact Or.inl unchanged
        · right
          use entry, List.mem_cons_of_mem _ isEntry, isKey
          constructor
          · rw [← isKey] at kept
            rw [← isCurrent_congr kept (target_applyDecision progress first)]
            exact current
          · exact same
      · rcases later with unchanged | ⟨entry, isEntry, isKey, -⟩
        · exact Or.inr ⟨first, List.mem_cons_self, isFirst, current,
            unchanged.trans isTouched⟩
        · have again : first.1.artifactId ∈ artifactIds rest :=
            List.mem_map.mpr ⟨entry, isEntry, isKey.trans isFirst.symm⟩
          exact absurd again fresh

/-- The rows after all decisions. -/
theorem get_applyDecisions
    {entries : List (ArtifactSnapshot × Decision)}
    (distinct : (artifactIds entries).Nodup) (db : Database)
    (report : IntegrityReport) (key : Nat) :
    (applyDecisions db report entries checkedAt now).db.artifact.get key =
        db.artifact.get key ∨
      ∃ entry ∈ entries, entry.1.artifactId = key ∧
        isCurrent db entry.1 = true ∧
        (applyDecisions db report entries checkedAt now).db.artifact.get
          key = (db.artifact.get key).map (touched checkedAt now entry) := by
  have settled (progress : Progress) (targets : List Nat) :
      (targets.foldl (settleTarget now) progress).db.artifact =
        progress.db.artifact := by
    induction targets generalizing progress with
    | nil => rfl
    | cons target rest induction =>
        rw [List.foldl_cons, induction, artifact_settleTarget_eq]
  rw [applyDecisions, settled]
  exact get_foldl_applyDecision distinct { db, report } key

end Apply

/-! ## Changes of the database meanwhile -/

/-- A row which changes takes a new time. -/
structure Renewed (before after : Database) : Prop where
  artifact {key : Nat} {old new : ArtifactRow}
    (was : before.artifact.get key = some old)
    (is : after.artifact.get key = some new)
    (changed : new ≠ old) : new.updatedAt ≠ old.updatedAt
  target {key : Nat} {old new : TargetRow}
    (was : before.target.get key = some old)
    (is : after.target.get key = some new)
    (changed : new ≠ old) : new.updatedAt ≠ old.updatedAt

/-- The columns of a row of the query. -/
theorem columns_of_mem_snapshots
    {db : Database} {storageId playlistId : Option Nat}
    {row : ArtifactSnapshot}
    (member : row ∈ snapshots db storageId playlistId) :
    ∃ artifact target,
      db.artifact.get row.artifactId = some artifact ∧
      db.target.get row.targetId = some target ∧
      row.storageId = artifact.storageId ∧
      row.relativePath = artifact.relativePath ∧
      row.artifactUpdatedAt = artifact.updatedAt ∧
      row.targetUpdatedAt = target.updatedAt := by
  have current := isCurrent_of_mem_snapshots member
  rcases isSnapshotOf_of_mem_snapshots member with
    ⟨artifact, found, storage, -, path⟩
  rw [isCurrent, found] at current
  cases foundTarget : db.target.get row.targetId with
  | none =>
      rw [foundTarget] at current
      cases current
  | some target =>
      rw [foundTarget] at current
      simp only [Bool.and_eq_true, beq_iff_eq] at current
      exact ⟨artifact, target, found, rfl, storage, path,
        current.1.1.2.symm, current.2.symm⟩

/-- A snapshot which is still current has the rows it was taken of. -/
theorem same_of_isCurrent
    {before after : Database} (renewed : Renewed before after)
    {storageId playlistId : Option Nat} {row : ArtifactSnapshot}
    (member : row ∈ snapshots before storageId playlistId)
    (current : isCurrent after row = true) :
    after.artifact.get row.artifactId =
        before.artifact.get row.artifactId ∧
      after.target.get row.targetId = before.target.get row.targetId := by
  rcases columns_of_mem_snapshots member with
    ⟨artifact, target, foundArtifact, foundTarget, -, -, artifactTime,
      targetTime⟩
  rw [isCurrent] at current
  split at current
  · next laterArtifact laterTarget isArtifact isTarget =>
      simp only [Bool.and_eq_true, beq_iff_eq] at current
      constructor
      · by_contra changed
        rw [isArtifact, foundArtifact, Option.some.injEq] at changed
        exact renewed.artifact foundArtifact isArtifact changed
          (current.1.1.2.trans artifactTime)
      · by_contra changed
        rw [isTarget, foundTarget, Option.some.injEq] at changed
        exact renewed.target foundTarget isTarget changed
          (current.2.trans targetTime)
  · cases current

/-! ## The main result -/

section Main

variable {rowsDb trackedDb applyDb : Database} {answers : Answers}
  {storageId playlistId : Option Nat}

/-- Both looks and a complete listing found no file of the Artifact. -/
structure FoundMissing (trackedDb : Database) (answers : Answers)
    (rows : List ArtifactSnapshot) (row : ArtifactSnapshot) : Prop where
  first : answers.exists row.artifactId = some false
  second : answers.existsAgain row.artifactId = some false
  listing : ∃ listed, answers.listing row.storageId = .ok listed ∧
    ∀ path, ¬ UniqueCandidate (trackedPaths trackedDb row.storageId) listed
      (absentRows answers rows row.storageId) row path

/-- An adapter failed for the Artifact, or a row of it changed meanwhile. -/
inductive Disturbed (rowsDb trackedDb applyDb : Database)
    (answers : Answers) (rows : List ArtifactSnapshot)
    (row : ArtifactSnapshot) : Prop where
  | adapter (failed : answers.adapter row.storageId = false)
  | first (failed : answers.exists row.artifactId = none)
  | listing (asked : absentRows answers rows row.storageId ≠ [])
      (reason : String) (failed : answers.listing row.storageId =
        .error reason)
  | second (failed : answers.existsAgain row.artifactId = none)
  | candidate (absent : answers.existsAgain row.artifactId = some false)
      (listed : List String)
      (isListed : answers.listing row.storageId = .ok listed) (path : String)
      (asked : UniqueCandidate (trackedPaths trackedDb row.storageId) listed
        (absentRows answers rows row.storageId) row path)
      (failed : answers.candidateExists row.artifactId = none)
  | artifactChanged (changed : applyDb.artifact.get row.artifactId ≠
      rowsDb.artifact.get row.artifactId)
  | targetChanged (changed : applyDb.target.get row.targetId ≠
      rowsDb.target.get row.targetId)

/-- A decision is not applied after a failure or a change. -/
theorem Disturbed.not_current
    {rows : List ArtifactSnapshot} {entry : ArtifactSnapshot × Decision}
    (disturbed : Disturbed rowsDb trackedDb applyDb answers rows entry.1)
    (sound : Sound trackedDb answers rows entry)
    (same : applyDb.artifact.get entry.1.artifactId =
        rowsDb.artifact.get entry.1.artifactId ∧
      applyDb.target.get entry.1.targetId =
        rowsDb.target.get entry.1.targetId) : False := by
  cases disturbed with
  | adapter failed =>
      rw [sound.adapter] at failed
      cases failed
  | first failed => exact sound.first failed
  | listing asked reason failed =>
      rcases sound.listing asked with ⟨listed, isListed⟩
      rw [isListed] at failed
      cases failed
  | second failed => exact sound.second failed
  | candidate absent listed isListed path asked failed =>
      have notPresent : entry.2 ≠ .present := by
        intro isPresent
        rw [sound.present isPresent] at absent
        cases absent
      rcases sound.absent notPresent with
        ⟨-, -, other, isOther, relinks⟩
      cases isListed.symm.trans isOther
      have found := sound.relink path ((relinks path).mpr asked)
      rw [found] at failed
      cases failed
  | artifactChanged changed => exact changed same.1
  | targetChanged changed => exact changed same.2

/-- The check gave the Artifact another path. -/
def Relinked (before after : Database) (key : Nat) (row : ArtifactRow) :
    Prop :=
  after.artifact.get key = some row ∧ ∃ old,
    before.artifact.get key = some old ∧ row.relativePath ≠ old.relativePath

/-- A row which is touched was touched by a sound decision. -/
theorem touched_of_checked
    {rescanTimeoutSec maxCandidates : Int} {checkedAt now : Time}
    {progress : Progress} (renewed : Renewed rowsDb applyDb)
    (checked : checkIntegrityBetween rowsDb trackedDb applyDb answers
      storageId playlistId rescanTimeoutSec maxCandidates checkedAt now =
        .ok progress) (key : Nat) :
    progress.db.artifact.get key = applyDb.artifact.get key ∨
      ∃ entry, entry.1.artifactId = key ∧
        Sound trackedDb answers (snapshots rowsDb storageId playlistId)
          entry ∧
        (applyDb.artifact.get entry.1.artifactId =
            rowsDb.artifact.get entry.1.artifactId ∧
          applyDb.target.get entry.1.targetId =
            rowsDb.target.get entry.1.targetId) ∧
        progress.db.artifact.get key =
          (applyDb.artifact.get key).map (touched checkedAt now entry) := by
  rw [checkIntegrityBetween] at checked
  split at checked
  · cases checked
  · split at checked
    · cases checked
    · cases checked
      rcases get_applyDecisions artifactIds_scanBetween applyDb _ key with
        kept | ⟨entry, isEntry, isKey, current, isTouched⟩
      · exact Or.inl kept
      · have sound := sound_of_mem_scanBetween isEntry
        exact Or.inr ⟨entry, isKey, sound,
          same_of_isCurrent renewed sound.isRow current, isTouched⟩

/-- A relinked row was touched by the decision for its path. -/
theorem relink_of_relinked
    {rescanTimeoutSec maxCandidates : Int} {checkedAt now : Time}
    {progress : Progress} (renewed : Renewed rowsDb applyDb)
    (checked : checkIntegrityBetween rowsDb trackedDb applyDb answers
      storageId playlistId rescanTimeoutSec maxCandidates checkedAt now =
        .ok progress) {key : Nat} {row : ArtifactRow}
    (relinked : Relinked applyDb progress.db key row) :
    ∃ entry, entry.1.artifactId = key ∧
      Sound trackedDb answers (snapshots rowsDb storageId playlistId) entry ∧
      entry.2 = .relink row.relativePath ∧
      row.storageId = entry.1.storageId := by
  rcases relinked with ⟨isRow, old, wasRow, moved⟩
  rcases touched_of_checked renewed checked key with
    kept | ⟨entry, isKey, sound, same, isTouched⟩
  · rw [kept, wasRow, Option.some.injEq] at isRow
    exact absurd (congrArg ArtifactRow.relativePath isRow.symm) moved
  · rw [isTouched, wasRow, Option.map_some, Option.some.injEq] at isRow
    use entry, isKey, sound
    rcases columns_of_mem_snapshots sound.isRow with
      ⟨artifact, -, found, -, storage, -⟩
    rw [← same.1, isKey, wasRow, Option.some.injEq] at found
    have path : row.relativePath =
        (decided checkedAt old entry.2).relativePath := by
      rw [← isRow]
      exact column_touchArtifact ArtifactRow.relativePath (fun _ _ => rfl) _ _ _
    have sameStorage : row.storageId = old.storageId := by
      rw [← isRow]
      exact (column_touchArtifact ArtifactRow.storageId (fun _ _ => rfl) _ _
        _).trans (targetId_decided old entry.2).2
    constructor
    · rcases relativePath_decided checkedAt old entry.2 with unmoved | relinks
      · exact absurd (path.trans unmoved) moved
      · rw [path]
        exact relinks
    · rw [sameStorage, storage, found]

/--
An Artifact is newly marked missing only when both looks and a complete
listing found no file for it.  One for which an adapter failed or a row
changed meanwhile is as before.  No two Artifacts are linked to one file.
-/
theorem check_integrity_safe
    {rescanTimeoutSec maxCandidates : Int} {checkedAt now : Time}
    {progress : Progress} (renewed : Renewed rowsDb applyDb)
    (checked : checkIntegrityBetween rowsDb trackedDb applyDb answers
      storageId playlistId rescanTimeoutSec maxCandidates checkedAt now =
        .ok progress) :
    (∀ key row after, applyDb.artifact.get key = some row →
      progress.db.artifact.get key = some after →
      row.missingSince = none → after.missingSince ≠ none →
      ∃ snapshot ∈ snapshots rowsDb storageId playlistId,
        snapshot.artifactId = key ∧
        FoundMissing trackedDb answers
          (snapshots rowsDb storageId playlistId) snapshot) ∧
    (∀ snapshot ∈ snapshots rowsDb storageId playlistId,
      Disturbed rowsDb trackedDb applyDb answers
        (snapshots rowsDb storageId playlistId) snapshot →
      progress.db.artifact.get snapshot.artifactId =
        applyDb.artifact.get snapshot.artifactId) ∧
    (∀ left right leftRow rightRow,
      Relinked applyDb progress.db left leftRow →
      Relinked applyDb progress.db right rightRow → left ≠ right →
      (leftRow.storageId, leftRow.relativePath) ≠
        (rightRow.storageId, rightRow.relativePath)) := by
  constructor
  · intro key row after wasRow isRow clean marked
    rcases touched_of_checked renewed checked key with
      kept | ⟨entry, isKey, sound, -, isTouched⟩
    · rw [kept, wasRow, Option.some.injEq] at isRow
      rw [← isRow] at marked
      exact absurd clean marked
    · rw [isTouched, wasRow, Option.map_some, Option.some.injEq] at isRow
      have mark : after.missingSince =
          (decided checkedAt row entry.2).missingSince := by
        rw [← isRow]
        exact column_touchArtifact ArtifactRow.missingSince (fun _ _ => rfl)
          _ _ _
      rw [mark] at marked
      rcases missingSince_decided checkedAt row entry.2 with
        none | ⟨kind, candidates, isMissing⟩
      · exact absurd none marked
      · use entry.1, sound.isRow, isKey
        rcases sound.absent (by rw [isMissing]; simp) with
          ⟨first, second, listed, isListed, relinks⟩
        constructor
        · exact first
        · exact second
        · use listed, isListed
          intro path unique
          rw [isMissing] at relinks
          cases (relinks path).mpr unique
  constructor
  · intro snapshot isSnapshot disturbed
    rcases touched_of_checked renewed checked snapshot.artifactId with
      kept | ⟨entry, isKey, sound, same, -⟩
    · exact kept
    · have isEntry : entry.1 = snapshot :=
        List.inj_on_of_nodup_map
          (artifactIds_snapshots rowsDb storageId playlistId) sound.isRow
          isSnapshot isKey
      rw [← isEntry] at disturbed
      exact absurd (disturbed.not_current sound same) id
  · intro left right leftRow rightRow leftRelinked rightRelinked apart same
    rcases relink_of_relinked renewed checked leftRelinked with
      ⟨leftEntry, leftKey, leftSound, leftRelinks, leftStorage⟩
    rcases relink_of_relinked renewed checked rightRelinked with
      ⟨rightEntry, rightKey, rightSound, rightRelinks, rightStorage⟩
    have sameStorage : leftEntry.1.storageId = rightEntry.1.storageId := by
      rw [← leftStorage, ← rightStorage]
      exact congrArg Prod.fst same
    have samePath : rightRow.relativePath = leftRow.relativePath :=
      (congrArg Prod.snd same).symm
    rw [samePath] at rightRelinks
    rcases leftSound.absent (by rw [leftRelinks]; simp) with
      ⟨-, -, listed, isListed, leftUnique⟩
    rcases rightSound.absent (by rw [rightRelinks]; simp) with
      ⟨rightAbsent, -, rightListed, isRightListed, rightUnique⟩
    rw [← sameStorage] at isRightListed rightUnique
    cases isListed.symm.trans isRightListed
    have unique := (leftUnique _).mp leftRelinks
    have isCandidate : leftRow.relativePath ∈ candidatesOf
        (trackedPaths trackedDb leftEntry.1.storageId) listed
          rightEntry.1 := by
      rw [((rightUnique _).mp rightRelinks).only]
      exact List.mem_singleton_self _
    have isAbsent : rightEntry.1 ∈ absentRows answers
        (snapshots rowsDb storageId playlistId) leftEntry.1.storageId := by
      rw [absentRows, List.mem_filter, List.mem_filter, sameStorage]
      exact ⟨⟨rightSound.isRow, beq_self_eq_true _⟩,
        beq_iff_eq.mpr rightAbsent⟩
    have sameRow := unique.unclaimed _ isAbsent isCandidate
    rw [← leftKey, ← rightKey, sameRow] at apart
    exact apart rfl

end Main

/-- Four downloaded videos, of which the last is on a second storage. -/
def twoStorages : Database where
  storage :=
    (Table.empty.insert { name := "media", kind := .local }).insert
      { name := "nas", kind := .remote }
  playlist := Table.empty.insert { name := "List", folderName := "list" }
  item :=
    (((Table.empty.insert { playlistId := 1, sourceId := "first" }).insert
      { playlistId := 1, sourceId := "second" }).insert
      { playlistId := 1, sourceId := "third" }).insert
      { playlistId := 1, sourceId := "fourth" }
  target :=
    (((Table.empty.insert
      { itemId := 1, playlistProfileId := 1, status := .downloaded }).insert
      { itemId := 2, playlistProfileId := 1, status := .downloaded }).insert
      { itemId := 3, playlistProfileId := 1, status := .downloaded }).insert
      { itemId := 4, playlistProfileId := 1, status := .downloaded }
  artifact :=
    (((Table.empty.insert
      { targetId := 1, storageId := 1,
        relativePath := "list/A [first].mp4" }).insert
      { targetId := 2, storageId := 1,
        relativePath := "list/B [second].mp4" }).insert
      { targetId := 3, storageId := 1,
        relativePath := "list/C [third].mp4" }).insert
      { targetId := 4, storageId := 2,
        relativePath := "list/D [fourth].mp4" }

/-- Two files were moved, one was deleted, and the second storage is away. -/
def movedFiles : Answers where
  adapter storageId := storageId == 1
  «exists» _ := some false
  listing _ := .ok ["kept/B [second].mp4", "kept/C [third].mp4"]
  existsAgain _ := some false
  candidateExists _ := some true

theorem renewed_refl (db : Database) : Renewed db db where
  artifact was is changed := by
    rw [was, Option.some.injEq] at is
    exact absurd is.symm changed
  target was is changed := by
    rw [was, Option.some.injEq] at is
    exact absurd is.symm changed

/-- The paths of the Artifacts, and since when they are missing. -/
def pathsAndMarks (db : Database) : List (String × Option Time) :=
  db.artifact.rows.map fun entry =>
    (entry.2.relativePath, entry.2.missingSince)

theorem isExtensions_eq (tail : List Char) :
    isExtensions tail =
      let parts := (tail.splitOn '.').map String.ofList
      parts.head? == some "" && !parts.tail.isEmpty &&
        parts.tail.all fun part =>
          part != "" && !part.toList.contains '/' := by
  have splits : (String.ofList tail).splitOn "." =
      (tail.splitOn '.').map String.ofList := by
    have whole := PurePosixPath.splitOn_singleton (String.ofList tail) '.'
    rw [String.toList_ofList] at whole
    exact whole
  unfold isExtensions
  rw [splits]
  cases (tail.splitOn '.').map String.ofList with
  | nil => exact rfl
  | cons first rest => exact rfl

/-- The match, as it is computed on lists. -/
theorem matchesSourceId_eq (relativePath sourceId : String) :
    matchesSourceId relativePath sourceId =
      let parts := ((relativePath.toList.splitOn '/').map
        String.ofList).filter fun part => part != "" && part != "."
      let marker := "[".toList ++ sourceId.toList ++ "]".toList
      (parts.getLast?.getD "").toList.tails.any fun suffix =>
        marker.isPrefixOf suffix &&
          isExtensions (suffix.drop marker.length) := by
  have splits := PurePosixPath.splitOn_singleton relativePath '/'
  rw [matchesSourceId, PurePosixPath.name, PurePosixPath.ofString]
  rw [← splits]

/-- The joined row of a downloaded video. -/
def videoRow (key storageId : Nat) (relativePath sourceId : String) :
    ArtifactSnapshot :=
  ⟨key, key, storageId, relativePath, sourceId, 0, .downloaded, 0⟩

/-- One file is gone, two are found elsewhere, the last is not looked for. -/
theorem scanBetween_movedFiles :
    (scanBetween twoStorages twoStorages movedFiles none none 5).2 =
      [(videoRow 1 1 "list/A [first].mp4" "first", .missing "missing" []),
        (videoRow 2 1 "list/B [second].mp4" "second",
          .relink "kept/B [second].mp4"),
        (videoRow 3 1 "list/C [third].mp4" "third",
          .relink "kept/C [third].mp4")] := by
  have rows : grouped twoStorages (snapshots twoStorages none none) =
      [(1, [videoRow 1 1 "list/A [first].mp4" "first",
          videoRow 2 1 "list/B [second].mp4" "second",
          videoRow 3 1 "list/C [third].mp4" "third"]),
        (2, [videoRow 4 2 "list/D [fourth].mp4" "fourth"])] := by
    rfl
  rw [scanBetween, rows]
  simp only [scanStorages, scanStorage, decideAbsent, candidatesOf,
    matchesSourceId_eq, isExtensions_eq]
  rfl

theorem check_integrity_safe_movedFiles :
    ∃ progress,
      checkIntegrityBetween twoStorages twoStorages twoStorages movedFiles
        none none 600 5 7 8 = .ok progress ∧
      pathsAndMarks progress.db =
        [("list/A [first].mp4", some 7), ("kept/B [second].mp4", none),
          ("kept/C [third].mp4", none), ("list/D [fourth].mp4", none)] ∧
      (∃ snapshot ∈ snapshots twoStorages none none,
        snapshot.artifactId = 1 ∧
        FoundMissing twoStorages movedFiles (snapshots twoStorages none none)
          snapshot) ∧
      (∀ snapshot ∈ snapshots twoStorages none none,
        snapshot.storageId = 2 →
        progress.db.artifact.get snapshot.artifactId =
          twoStorages.artifact.get snapshot.artifactId) ∧
      ∀ left right leftRow rightRow,
        Relinked twoStorages progress.db left leftRow →
        Relinked twoStorages progress.db right rightRow → left ≠ right →
        (leftRow.storageId, leftRow.relativePath) ≠
          (rightRow.storageId, rightRow.relativePath) := by
  have evaluates : ∃ progress,
      checkIntegrityBetween twoStorages twoStorages twoStorages movedFiles
        none none 600 5 7 8 = .ok progress ∧
      pathsAndMarks progress.db =
        [("list/A [first].mp4", some 7), ("kept/B [second].mp4", none),
          ("kept/C [third].mp4", none), ("list/D [fourth].mp4", none)] ∧
      (progress.db.artifact.get 1).map ArtifactRow.missingSince =
        some (some 7) := by
    refine ⟨applyDecisions twoStorages (scanBetween twoStorages twoStorages
      movedFiles none none 5).1 (scanBetween twoStorages twoStorages
      movedFiles none none 5).2 7 8, rfl, ?_, ?_⟩
    · rw [scanBetween_movedFiles]
      rfl
    · rw [scanBetween_movedFiles]
      rfl
  rcases evaluates with ⟨progress, checked, paths, marked⟩
  have safe := check_integrity_safe (renewed_refl twoStorages) checked
  refine ⟨progress, checked, paths, ?_, ?_, safe.2.2⟩
  · rcases Option.map_eq_some_iff.mp marked with ⟨after, isRow, isMarked⟩
    apply safe.1 1 _ after rfl isRow rfl
    rw [isMarked]
    exact Option.some_ne_none 7
  · intro snapshot isSnapshot second
    apply safe.2.1 snapshot isSnapshot
    apply Disturbed.adapter
    rw [second]
    rfl

end Sluicery.Core.Integrity
