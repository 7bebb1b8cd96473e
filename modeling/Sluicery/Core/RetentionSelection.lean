import Mathlib.Data.String.Basic
import Sluicery.Core.Retention
import Sluicery.Library.Dates
import Sluicery.Library.Ranking

/-!
# What a retention policy selects

The candidates of `build_retention_plan` in terms of the database alone: the
Artifacts of DOWNLOADED Targets whose item is not among the newest ones of
the playlist, or is too old.  The order of the items is stated for any way to
compare their upload dates; the source compares the texts and takes
`99999999` for a missing one.
-/

namespace Sluicery.Core.RetentionSelection

open Sluicery.Library Sluicery.Db Sluicery.Storage Sluicery.Core.Retention

/-! ## `build_retention_plan` with the dates of the source -/

/-- `_parse_upload_date`, as an ordinal. -/
def parseUploadDate (value : String) : Option Int :=
  (strptimeDate value).map Date.toOrdinal

/--
`build_retention_plan`, of which the cutoff is a date: it may not lie before
the first one.
-/
def buildRetentionPlan
    (fingerprint : StorageKind → Option Json.Fields → String)
    (db : Database) (playlistId : Nat) (policy : RetentionPolicy)
    (maxDeletePerRun : Int) (today : Date)
    (inspect : Option (Place → Except String RemoteFile)) :
    Except String RetentionPlan :=
  match Retention.buildRetentionPlan fingerprint parseUploadDate db playlistId
      policy maxDeletePerRun today.toOrdinal inspect with
  | .error message => .error message
  | .ok plan =>
      if policy.enabled && policy.maxAgeDays.any fun maxAgeDays : Nat =>
          decide (today.toOrdinal - maxAgeDays < 1) then
        .error "date value out of range"
      else .ok plan

/-! ## The Artifacts and the items of a playlist -/

/-- A row of the playlist, by the tables. -/
structure InPlaylist (db : Database) (playlistId : Nat) (row : PlanRow) :
    Prop where
  artifact : db.artifact.get row.artifactId = some row.artifact
  target : db.target.get row.artifact.targetId = some row.target
  item : db.item.get row.target.itemId = some row.item
  playlist : row.item.playlistId = playlistId

/-- An Artifact has one row. -/
theorem InPlaylist.unique
    {db : Database} {playlistId : Nat} {left right : PlanRow}
    (isLeft : InPlaylist db playlistId left)
    (isRight : InPlaylist db playlistId right)
    (same : left.artifactId = right.artifactId) : left = right := by
  rcases left with ⟨artifactId, artifact, target, item⟩
  rcases right with ⟨otherId, otherArtifact, otherTarget, otherItem⟩
  cases same
  cases isLeft.artifact.symm.trans isRight.artifact
  cases isLeft.target.symm.trans isRight.target
  cases isLeft.item.symm.trans isRight.item
  rfl

theorem mem_planRows_iff
    (db : Database) (playlistId : Nat) (row : PlanRow) :
    row ∈ planRows db playlistId ↔ InPlaylist db playlistId row := by
  rw [planRows, List.mem_filterMap]
  constructor
  · rintro ⟨entry, isEntry, joined⟩
    simp only [planRow, Option.bind_eq_bind, Option.bind_eq_some_iff]
      at joined
    rcases joined with ⟨target, foundTarget, item, foundItem, rest⟩
    split at rest
    · next playlist =>
        cases rest
        exact
          { artifact := (Table.get_eq_some_iff _ _ _).mpr isEntry
            target := foundTarget
            item := foundItem
            playlist := playlist }
    · cases rest
  · intro holds
    use (row.artifactId, row.artifact)
    constructor
    · exact (Table.get_eq_some_iff _ _ _).mp holds.artifact
    · simp [planRow, holds.target, holds.item, holds.playlist]

/-- The Artifacts of a playlist. -/
def playlistArtifacts (db : Database) (playlistId : Nat) : Set Nat :=
  {artifactId | ∃ row, InPlaylist db playlistId row ∧
    row.artifactId = artifactId}

/-- Its items which have Artifacts, with their ids. -/
def playlistItems (db : Database) (playlistId : Nat) :
    Set (Nat × ItemRow) :=
  {item | ∃ row, InPlaylist db playlistId row ∧
    (row.target.itemId, row.item) = item}

theorem encard_playlistArtifacts (db : Database) (playlistId : Nat) :
    (playlistArtifacts db playlistId).encard =
      (planRows db playlistId).length := by
  have distinct : ((planRows db playlistId).map PlanRow.artifactId).Nodup :=
    List.nodup_iff_pairwise_ne.mpr
      ((planRows_ascend db playlistId).imp Nat.ne_of_lt)
  have asList : playlistArtifacts db playlistId =
      ↑((planRows db playlistId).map PlanRow.artifactId).toFinset := by
    ext artifactId
    simp [playlistArtifacts, mem_planRows_iff]
  rw [asList, Set.encard_coe_eq_coe_finsetCard,
    List.toFinset_card_of_nodup distinct, List.length_map]

theorem mem_planItems_iff
    (db : Database) (playlistId : Nat) (item : Nat × ItemRow) :
    item ∈ planItems (planRows db playlistId) ↔
      item ∈ playlistItems db playlistId := by
  simp [planItems, playlistItems, mem_planRows_iff]

theorem get_of_mem_playlistItems
    {db : Database} {playlistId : Nat} {item : Nat × ItemRow}
    (member : item ∈ playlistItems db playlistId) :
    db.item.get item.1 = some item.2 := by
  rcases member with ⟨row, holds, rfl⟩
  exact holds.item

/-! ## The newest items -/

section Newest

variable {UploadDate : Type*} [LinearOrder UploadDate]
  (dateOf : ItemRow → UploadDate)

/-- `item.playlist_index or 0`. -/
def indexOf (item : ItemRow) : Int :=
  item.playlistIndex.getD 0

/-- A later date, else a smaller index, else a larger id. -/
def Newer (left right : Nat × ItemRow) : Prop :=
  dateOf right.2 < dateOf left.2 ∨
    dateOf right.2 = dateOf left.2 ∧
      (indexOf left.2 < indexOf right.2 ∨
        indexOf left.2 = indexOf right.2 ∧ right.1 < left.1)

/-- The item is not among the `keepLatest` newest ones. -/
def OutsideLatest (db : Database) (playlistId keepLatest : Nat)
    (item : Nat × ItemRow) : Prop :=
  (keepLatest : ℕ∞) ≤
    {other | other ∈ playlistItems db playlistId ∧
      Newer dateOf other item}.encard

/-- The sort key of an item. -/
def recency (item : Nat × ItemRow) : UploadDate ×ₗ Int ×ₗ Nat :=
  toLex (dateOf item.2, toLex (-indexOf item.2, item.1))

theorem newer_iff (left right : Nat × ItemRow) :
    Newer dateOf left right ↔
      recency dateOf right < recency dateOf left := by
  simp only [Newer, recency, Prod.Lex.toLex_lt_toLex, neg_lt_neg_iff,
    neg_inj, eq_comm]

theorem outsideLatest_iff
    (db : Database) (playlistId keepLatest : Nat) (item : Nat × ItemRow) :
    OutsideLatest dateOf db playlistId keepLatest item ↔
      Ranking.Outside (recency dateOf) (playlistItems db playlistId)
        keepLatest item := by
  simp only [OutsideLatest, Ranking.Outside, newer_iff]

end Newest

/-- A missing upload date is later than every given one. -/
def missingIsNewest (item : ItemRow) : WithTop String :=
  match item.uploadDate with
  | none | some "" => ⊤
  | some date => date

/-- Of texts before `99999999` both ways to compare say the same. -/
theorem missingIsNewest_lt_iff
    {left right : ItemRow}
    (leftBefore : ∀ date, left.uploadDate = some date → date < "99999999")
    (rightBefore : ∀ date, right.uploadDate = some date →
      date < "99999999") :
    missingIsNewest left < missingIsNewest right ↔
      sortDate left < sortDate right := by
  have apart (item : ItemRow)
      (before : ∀ date, item.uploadDate = some date → date < "99999999") :
      (missingIsNewest item = ⊤ ∧ sortDate item = "99999999") ∨
        missingIsNewest item = sortDate item ∧
          sortDate item < "99999999" := by
    rw [missingIsNewest]
    split
    · next missing => exact Or.inl ⟨rfl, by simp [sortDate, missing]⟩
    · next missing => exact Or.inl ⟨rfl, by simp [sortDate, missing]⟩
    · next date nonempty given =>
        have same : sortDate item = date := by
          rw [sortDate, given]
          split
          · next missing => cases missing
          · next empty => exact absurd (Option.some.inj empty) nonempty
          · next other same => exact (Option.some.inj same).symm
        rw [same]
        exact Or.inr ⟨rfl, before date given⟩
  rcases apart left leftBefore with ⟨leftTop, leftLast⟩ | ⟨leftText, leftLess⟩
  · rcases apart right rightBefore with
      ⟨rightTop, rightLast⟩ | ⟨rightText, rightLess⟩
    · simp [leftTop, rightTop, leftLast, rightLast]
    · rw [leftTop, rightText, leftLast]
      exact iff_of_false not_top_lt rightLess.asymm
  · rcases apart right rightBefore with
      ⟨rightTop, rightLast⟩ | ⟨rightText, rightLess⟩
    · rw [leftText, rightTop, rightLast]
      exact iff_of_true (WithTop.coe_lt_top _) leftLess
    · rw [leftText, rightText, WithTop.coe_lt_coe]

theorem newerOrSame_iff (left right : Nat × ItemRow) :
    newerOrSame left right = true ↔
      recency sortDate right ≤ recency sortDate left := by
  simp only [newerOrSame, recency, indexOf, Prod.Lex.toLex_le_toLex,
    Bool.or_eq_true, Bool.and_eq_true, beq_iff_eq, decide_eq_true_eq,
    eq_comm (a := sortDate left.2),
    eq_comm (a := -left.2.playlistIndex.getD 0)]

/-- The sort keys tell the items of a playlist apart. -/
theorem recency_separates
    (db : Database) (playlistId : Nat) :
    ∀ left ∈ planItems (planRows db playlistId),
      ∀ right ∈ planItems (planRows db playlistId),
        recency sortDate left = recency sortDate right → left = right := by
  intro left isLeft right isRight same
  have foundLeft := get_of_mem_playlistItems
    ((mem_planItems_iff db playlistId left).mp isLeft)
  have foundRight := get_of_mem_playlistItems
    ((mem_planItems_iff db playlistId right).mp isRight)
  have sameId : left.1 = right.1 :=
    congrArg (fun key => (ofLex (ofLex key).2).2) same
  rw [sameId, foundRight] at foundLeft
  exact Prod.ext sameId (Option.some.inj foundLeft).symm

/-- What `keep_latest` selects. -/
theorem mem_beyondLatest_iff
    (db : Database) (playlistId keepLatest : Nat) (item : Nat × ItemRow) :
    item ∈ ((planItems (planRows db playlistId)).mergeSort
        newerOrSame).drop keepLatest ↔
      item ∈ playlistItems db playlistId ∧
        OutsideLatest sortDate db playlistId keepLatest item := by
  have distinct : (planItems (planRows db playlistId)).Nodup :=
    List.nodup_dedup _
  rw [Ranking.mem_drop_mergeSort_iff (recency sortDate) newerOrSame_iff
    distinct (recency_separates db playlistId), outsideLatest_iff]
  simp only [mem_planItems_iff]
  rfl

/-! ## The selection -/

/-- The upload date is valid and before the cutoff. -/
def TooOld (today : Date) (maxAgeDays : Nat) (item : ItemRow) : Prop :=
  ∃ text uploaded, item.uploadDate = some text ∧
    strptimeDate text = some uploaded ∧
    uploaded.toOrdinal < today.toOrdinal - maxAgeDays

theorem tooOld_iff (today : Date) (maxAgeDays : Nat) (item : ItemRow) :
    (item.uploadDate.bind parseUploadDate).any (fun uploaded =>
        decide (uploaded < today.toOrdinal - maxAgeDays)) = true ↔
      TooOld today maxAgeDays item := by
  simp only [Option.any_eq_true, Option.bind_eq_some_iff, parseUploadDate,
    Option.map_eq_some_iff, decide_eq_true_eq, TooOld]
  constructor
  · rintro ⟨_, ⟨text, given, uploaded, parsed, rfl⟩, before⟩
    exact ⟨text, uploaded, given, parsed, before⟩
  · rintro ⟨text, uploaded, given, parsed, before⟩
    exact ⟨_, ⟨text, given, uploaded, parsed, rfl⟩, before⟩

section Selected

variable {UploadDate : Type*} [LinearOrder UploadDate]
  (dateOf : ItemRow → UploadDate)

/-- The item of a row is selected by one of the two rules. -/
def ItemSelected (db : Database) (playlistId : Nat)
    (policy : RetentionPolicy) (today : Date) (row : PlanRow) : Prop :=
  (∃ keepLatest, policy.keepLatest = some keepLatest ∧
    OutsideLatest dateOf db playlistId keepLatest
      (row.target.itemId, row.item)) ∨
  ∃ maxAgeDays, policy.maxAgeDays = some maxAgeDays ∧
    TooOld today maxAgeDays row.item

/-- An Artifact of a DOWNLOADED Target of a selected item. -/
def Selected (db : Database) (playlistId : Nat) (policy : RetentionPolicy)
    (today : Date) (artifactId : Nat) : Prop :=
  ∃ row, InPlaylist db playlistId row ∧ row.artifactId = artifactId ∧
    row.target.status = .downloaded ∧
    ItemSelected dateOf db playlistId policy today row

/-- `raised` has the same bounds or greater ones. -/
structure Raises (policy raised : RetentionPolicy) : Prop where
  enabled : raised.enabled = policy.enabled
  keepLatest : Option.Rel (· ≤ ·) policy.keepLatest raised.keepLatest
  maxAgeDays : Option.Rel (· ≤ ·) policy.maxAgeDays raised.maxAgeDays

/-- The dates of the items are texts before `99999999`. -/
def DatesBeforeMissing (db : Database) (playlistId : Nat) : Prop :=
  ∀ item ∈ playlistItems db playlistId, ∀ date,
    item.2.uploadDate = some date → date < "99999999"

/-- With such dates a missing date is the newest. -/
theorem selected_missingIsNewest_iff
    {db : Database} {playlistId : Nat}
    (before : DatesBeforeMissing db playlistId)
    (policy : RetentionPolicy) (today : Date) (artifactId : Nat) :
    Selected missingIsNewest db playlistId policy today artifactId ↔
      Selected sortDate db playlistId policy today artifactId := by
  have sameNewer (left right : Nat × ItemRow)
      (isLeft : left ∈ playlistItems db playlistId)
      (isRight : right ∈ playlistItems db playlistId) :
      Newer missingIsNewest left right ↔ Newer sortDate left right := by
    have later := missingIsNewest_lt_iff (before right isRight)
      (before left isLeft)
    have earlier := missingIsNewest_lt_iff (before left isLeft)
      (before right isRight)
    have same : missingIsNewest right.2 = missingIsNewest left.2 ↔
        sortDate right.2 = sortDate left.2 := by
      rw [eq_iff_le_not_lt, eq_iff_le_not_lt, ← not_lt, ← not_lt, later,
        earlier]
    rw [Newer, Newer, later, same]
  have sameOutside (keepLatest : Nat) (item : Nat × ItemRow)
      (isItem : item ∈ playlistItems db playlistId) :
      OutsideLatest missingIsNewest db playlistId keepLatest item ↔
        OutsideLatest sortDate db playlistId keepLatest item := by
    have sameSet :
        {other | other ∈ playlistItems db playlistId ∧
          Newer missingIsNewest other item} =
        {other | other ∈ playlistItems db playlistId ∧
          Newer sortDate other item} := by
      ext other
      exact and_congr_right fun isOther => sameNewer other item isOther isItem
    rw [OutsideLatest, OutsideLatest, sameSet]
  apply exists_congr
  intro row
  apply and_congr_right
  intro holds
  rw [ItemSelected, ItemSelected]
  simp only [sameOutside _ (row.target.itemId, row.item) ⟨row, holds, rfl⟩]

theorem TooOld.of_le
    {today : Date} {fewer more : Nat} (le : fewer ≤ more) {item : ItemRow}
    (tooOld : TooOld today more item) : TooOld today fewer item := by
  rcases tooOld with ⟨text, uploaded, given, parsed, before⟩
  use text, uploaded
  simp only [given, parsed, true_and]
  omega

/-- Raised bounds select less. -/
theorem Selected.of_raises
    {policy raised : RetentionPolicy} (raises : Raises policy raised)
    {db : Database} {playlistId : Nat} {today : Date} {artifactId : Nat}
    (selected : Selected dateOf db playlistId raised today artifactId) :
    Selected dateOf db playlistId policy today artifactId := by
  rcases selected with ⟨row, holds, isArtifact, downloaded, byRule⟩
  use row, holds, isArtifact, downloaded
  have keep := raises.keepLatest
  have age := raises.maxAgeDays
  rcases byRule with ⟨bound, isBound, outside⟩ | ⟨bound, isBound, tooOld⟩
  · rw [isBound] at keep
    rcases optional : policy.keepLatest with _ | fewer
    · rw [optional] at keep
      cases keep
    · rw [optional] at keep
      cases keep with
      | some le =>
          rw [outsideLatest_iff] at outside
          exact Or.inl ⟨fewer, optional,
            (outsideLatest_iff ..).mpr (outside.of_le _ le)⟩
  · rw [isBound] at age
    rcases optional : policy.maxAgeDays with _ | fewer
    · rw [optional] at age
      cases age
    · rw [optional] at age
      cases age with
      | some le => exact Or.inr ⟨fewer, optional, tooOld.of_le le⟩

end Selected

/-- `item.id in selected_item_ids`. -/
theorem mem_selectedItemIds_iff
    {db : Database} {playlistId : Nat} {row : PlanRow}
    (holds : InPlaylist db playlistId row)
    (policy : RetentionPolicy) (today : Date) :
    row.target.itemId ∈ selectedItemIds parseUploadDate policy
        today.toOrdinal (planRows db playlistId) ↔
      ItemSelected sortDate db playlistId policy today row := by
  have isItem : (row.target.itemId, row.item) ∈
      playlistItems db playlistId := ⟨row, holds, rfl⟩
  -- An id occurs with the item of its row only.
  have byId (condition : Nat × ItemRow → Prop) :
      (∃ item, (item ∈ playlistItems db playlistId ∧ condition item) ∧
          item.1 = row.target.itemId) ↔
        condition (row.target.itemId, row.item) := by
    constructor
    · rintro ⟨⟨itemId, item⟩, ⟨member, met⟩, rfl⟩
      have found := get_of_mem_playlistItems member
      rw [holds.item] at found
      cases found
      exact met
    · intro met
      exact ⟨_, ⟨isItem, met⟩, rfl⟩
  rw [selectedItemIds, List.mem_append, ItemSelected]
  apply or_congr
  · rcases policy.keepLatest with _ | keepLatest
    · simp
    · simp only [List.mem_map, mem_beyondLatest_iff, byId,
        Option.some.injEq, exists_eq_left']
  · rcases policy.maxAgeDays with _ | maxAgeDays
    · simp
    · simp only [List.mem_map, List.mem_filter, mem_planItems_iff, byId,
        Option.some.injEq, exists_eq_left', tooOld_iff]

/-! ## The plan -/

section Plan

variable {fingerprint : StorageKind → Option Json.Fields → String}
  {db : Database} {playlistId : Nat} {policy : RetentionPolicy}
  {maxDeletePerRun : Int} {today : Date}
  {inspect : Option (Place → Except String RemoteFile)}
  {plan : RetentionPlan}

/-- The condition on the rows of candidates. -/
def selects (db : Database) (playlistId : Nat) (policy : RetentionPolicy)
    (today : Date) (row : PlanRow) : Bool :=
  (selectedItemIds parseUploadDate policy today.toOrdinal
    (planRows db playlistId)).contains row.target.itemId &&
      row.target.status == .downloaded

/-- The rows of candidates. -/
def selectedRows (db : Database) (playlistId : Nat)
    (policy : RetentionPolicy) (today : Date) : List PlanRow :=
  (planRows db playlistId).filter (selects db playlistId policy today)

theorem mem_selectedRows_iff (row : PlanRow) :
    row ∈ selectedRows db playlistId policy today ↔
      InPlaylist db playlistId row ∧ row.target.status = .downloaded ∧
        ItemSelected sortDate db playlistId policy today row := by
  rw [selectedRows, List.mem_filter, mem_planRows_iff, selects,
    Bool.and_eq_true, List.contains_iff_mem, beq_iff_eq]
  constructor
  · rintro ⟨holds, selected, downloaded⟩
    exact ⟨holds, downloaded,
      (mem_selectedItemIds_iff holds policy today).mp selected⟩
  · rintro ⟨holds, downloaded, selected⟩
    exact ⟨holds,
      (mem_selectedItemIds_iff holds policy today).mpr selected, downloaded⟩

theorem blockedReasons_of_deletable (deletable : plan.deletable = true) :
    plan.blockedReasons = [] :=
  List.isEmpty_iff.mp (Bool.and_eq_true_iff.mp deletable).2

/-- What an enabled plan holds. -/
structure Planned
    (fingerprint : StorageKind → Option Json.Fields → String)
    (db : Database) (playlistId : Nat) (policy : RetentionPolicy)
    (maxDeletePerRun : Int) (today : Date)
    (inspect : Option (Place → Except String RemoteFile))
    (plan : RetentionPlan) : Prop where
  candidates : plan.candidates =
    (selectedRows db playlistId policy today).filterMap
      (candidateOf fingerprint db inspect)
  totalArtifacts : plan.totalArtifacts = (planRows db playlistId).length
  examined : plan.deletable = true →
    ∀ row ∈ selectedRows db playlistId policy today,
      blockedReason db inspect row = none
  limited : plan.deletable = true →
    (plan.candidates.length : Int) ≤ maxDeletePerRun
  minority : plan.deletable = true →
    plan.candidates.length * 2 ≤ plan.totalArtifacts

theorem planned_of_build
    (built : buildRetentionPlan fingerprint db playlistId policy
      maxDeletePerRun today inspect = .ok plan)
    (enabled : policy.enabled = true) :
    Planned fingerprint db playlistId policy maxDeletePerRun today inspect
      plan := by
  rw [buildRetentionPlan] at built
  split at built
  · cases built
  · next inner planned =>
      split at built
      · cases built
      · cases built
        rw [Retention.buildRetentionPlan] at planned
        split at planned
        · cases planned
        · split at planned
          · cases planned
          · simp only [enabled, not_true_eq_false, if_false, Except.ok.injEq]
              at planned
            subst planned
            constructor
            · rfl
            · rfl
            · intro deletable
              have noReason := blockedReasons_of_deletable deletable
              simp only [List.append_eq_nil_iff] at noReason
              exact List.filterMap_eq_nil_iff.mp noReason.1.1
            · intro deletable
              have noReason := blockedReasons_of_deletable deletable
              simp only [List.append_eq_nil_iff] at noReason
              by_contra past
              rw [if_pos (Int.not_le.mp past)] at noReason
              cases noReason.1.2
            · intro deletable
              have noReason := blockedReasons_of_deletable deletable
              simp only [List.append_eq_nil_iff] at noReason
              by_contra most
              have nonempty : 0 < (planRows db playlistId).length := by
                by_contra empty
                have noRow : planRows db playlistId = [] := by
                  simpa using empty
                simp [noRow] at most
              have notMost := noReason.2
              rw [if_pos ⟨nonempty, Nat.not_le.mp most⟩] at notMost
              cases notMost

/-- The candidates of a plan, by their rows. -/
theorem Planned.mem_candidates_iff
    (planned : Planned fingerprint db playlistId policy maxDeletePerRun today
      inspect plan) (candidate : RetentionCandidate) :
    candidate ∈ plan.candidates ↔
      ∃ row ∈ selectedRows db playlistId policy today,
        candidateOf fingerprint db inspect row = some candidate := by
  rw [planned.candidates, List.mem_filterMap]

/-- The Storage of an Artifact is there. -/
def Stored (db : Database) (artifactId : Nat) : Prop :=
  ∃ artifact storage, db.artifact.get artifactId = some artifact ∧
    db.storage.get artifact.storageId = some storage

theorem Planned.mem_artifactIds_iff
    (planned : Planned fingerprint db playlistId policy maxDeletePerRun today
      inspect plan) (artifactId : Nat) :
    artifactId ∈ plan.candidates.map RetentionCandidate.artifactId ↔
      Selected sortDate db playlistId policy today artifactId ∧
        Stored db artifactId := by
  simp only [List.mem_map, planned.mem_candidates_iff, mem_selectedRows_iff]
  constructor
  · rintro ⟨candidate, ⟨row, ⟨holds, downloaded, selected⟩, isCandidate⟩,
      rfl⟩
    rw [candidateOf_artifactId _ isCandidate]
    rcases Option.map_eq_some_iff.mp isCandidate with ⟨storage, found, -⟩
    constructor
    · exact ⟨row, holds, rfl, downloaded, selected⟩
    · exact ⟨row.artifact, storage, holds.artifact, found⟩
  · rintro ⟨⟨row, holds, rfl, downloaded, selected⟩,
      artifact, storage, foundArtifact, foundStorage⟩
    rw [holds.artifact] at foundArtifact
    cases foundArtifact
    have some : (candidateOf fingerprint db inspect row).isSome := by
      rw [candidateOf, foundStorage]
      rfl
    rcases Option.isSome_iff_exists.mp some with ⟨candidate, isCandidate⟩
    use candidate
    constructor
    · exact ⟨row, ⟨holds, downloaded, selected⟩, isCandidate⟩
    · exact candidateOf_artifactId _ isCandidate

/-- An identity with which a candidate may be deleted. -/
def Verified (inspect : Place → Except String RemoteFile)
    (candidate : RetentionCandidate) : Prop :=
  ∃ identity, inspect candidate.place = .ok identity ∧
    candidate.fileIdentity = some identity ∧
    (identity.hashes ≠ [] ∨ identity.fileId ≠ none) ∧
    ∀ filesize, candidate.filesize = some filesize →
      identity.size = some filesize

theorem inspected_of_examineFile
    {inspect : Place → Except String RemoteFile} {row : PlanRow}
    {identity : RemoteFile}
    (examined : examineFile inspect row = .ok identity) :
    inspect (row.artifact.storageId, row.artifact.relativePath) =
        .ok identity ∧
      identity.isWeak = false ∧
      ∀ filesize, row.artifact.filesize = some filesize →
        identity.size = some filesize := by
  rw [examineFile] at examined
  split at examined
  · cases examined
  · next inspected =>
      split at examined
      · cases examined
      · next strong =>
          split at examined
          · cases examined
          · next sameSize =>
              cases examined
              constructor
              · exact inspected
              · constructor
                · exact Bool.eq_false_iff.mpr strong
                · intro filesize recorded
                  simpa [recorded] using sameSize

/-- Where no reason is added, the identity of the candidate is verified. -/
theorem verified_of_blockedReason
    {inspect : Place → Except String RemoteFile} {row : PlanRow}
    {candidate : RetentionCandidate}
    (isCandidate : candidateOf fingerprint db (some inspect) row =
      some candidate)
    (noReason : blockedReason db (some inspect) row = none) :
    Verified inspect candidate := by
  rcases Option.map_eq_some_iff.mp isCandidate with ⟨storage, found, rfl⟩
  rw [blockedReason, found] at noReason
  dsimp only at noReason
  split at noReason
  · next identity examined =>
      rcases inspected_of_examineFile examined with
        ⟨inspected, strong, sameSize⟩
      use identity, inspected
      constructor
      · simp [fileIdentity, inspected, Except.toOption]
      · constructor
        · simpa [RemoteFile.isWeak, imp_iff_not_or,
            Option.isSome_iff_ne_none] using strong
        · exact sameSize
  · cases noReason

/-! ## The main result -/

/--
The candidates of an enabled policy are the stored Artifacts which the
policy selects; raising its bounds adds none.  A deletable plan has selected
no Artifact without a Storage, at most half of the playlist's Artifacts and at
most the configured number of them, each with a verified identity.
-/
theorem retention_selection
    (built : buildRetentionPlan fingerprint db playlistId policy
      maxDeletePerRun today inspect = .ok plan)
    (enabled : policy.enabled = true) :
    (∀ artifactId,
      artifactId ∈ plan.candidates.map RetentionCandidate.artifactId ↔
        Selected sortDate db playlistId policy today artifactId ∧
          Stored db artifactId) ∧
    (DatesBeforeMissing db playlistId →
      ∀ artifactId,
        Selected missingIsNewest db playlistId policy today artifactId ↔
          Selected sortDate db playlistId policy today artifactId) ∧
    (∀ raised raisedMax raisedInspect raisedPlan, Raises policy raised →
      buildRetentionPlan fingerprint db playlistId raised raisedMax today
        raisedInspect = .ok raisedPlan →
      raisedPlan.candidates.map RetentionCandidate.artifactId ⊆
        plan.candidates.map RetentionCandidate.artifactId) ∧
    (plan.deletable = true →
      (∀ artifactId,
        Selected sortDate db playlistId policy today artifactId →
          Stored db artifactId) ∧
      ((plan.candidates.length * 2 : Nat) : ℕ∞) ≤
        (playlistArtifacts db playlistId).encard ∧
      (plan.candidates.length : Int) ≤ maxDeletePerRun ∧
      ∀ look, inspect = some look →
        ∀ candidate ∈ plan.candidates, Verified look candidate) := by
  have planned := planned_of_build built enabled
  constructor
  · exact planned.mem_artifactIds_iff
  constructor
  · intro before
    exact selected_missingIsNewest_iff before policy today
  constructor
  · intro raised raisedMax raisedInspect raisedPlan raises raisedBuilt
    have raisedPlanned := planned_of_build raisedBuilt
      (raises.enabled.trans enabled)
    intro artifactId member
    rw [raisedPlanned.mem_artifactIds_iff] at member
    rw [planned.mem_artifactIds_iff]
    exact ⟨member.1.of_raises _ raises, member.2⟩
  · intro deletable
    have examined := planned.examined deletable
    constructor
    · rintro artifactId ⟨row, holds, rfl, downloaded, selected⟩
      have noReason := examined row
        ((mem_selectedRows_iff row).mpr ⟨holds, downloaded, selected⟩)
      rcases found : db.storage.get row.artifact.storageId with _ | storage
      · simp [blockedReason, found] at noReason
      · exact ⟨row.artifact, storage, holds.artifact, found⟩
    constructor
    · rw [encard_playlistArtifacts, ← planned.totalArtifacts]
      exact_mod_cast planned.minority deletable
    constructor
    · exact planned.limited deletable
    · rintro look rfl candidate member
      rcases (planned.mem_candidates_iff candidate).mp member with
        ⟨row, isRow, isCandidate⟩
      exact verified_of_blockedReason isCandidate (examined row isRow)

end Plan

/-- A video of the playlist with this upload date. -/
def videoItem (sourceId : String) (uploadDate : Option String) : ItemRow where
  playlistId := 1
  sourceId := sourceId
  uploadDate := uploadDate

/-- A playlist with four downloaded videos, the newest one without a date. -/
def fourVideos : Database where
  storage := Table.empty.insert { name := "media", kind := .local }
  playlist := Table.empty.insert { name := "list", folderName := "list" }
  item :=
    (((Table.empty.insert (videoItem "first" none)).insert
      (videoItem "second" (some "20251224"))).insert
      (videoItem "third" (some "20250610"))).insert
      (videoItem "fourth" (some "20240105"))
  target :=
    (((Table.empty.insert
      { itemId := 1, playlistProfileId := 1, status := .downloaded }).insert
      { itemId := 2, playlistProfileId := 1, status := .downloaded }).insert
      { itemId := 3, playlistProfileId := 1, status := .downloaded }).insert
      { itemId := 4, playlistProfileId := 1, status := .downloaded }
  artifact :=
    (((Table.empty.insert
      { targetId := 1, storageId := 1, relativePath := "first.mp4" }).insert
      { targetId := 2, storageId := 1, relativePath := "second.mp4" }).insert
      { targetId := 3, storageId := 1, relativePath := "third.mp4" }).insert
      { targetId := 4, storageId := 1, relativePath := "fourth.mp4",
        filesize := some 10 }

/-- The first day of 2026. -/
def newYear : Date where
  year := 2026
  month := 1
  day := 1
  yearFits := by decide
  monthFits := by decide
  dayFits := by decide

/-- The policy which keeps the newest two items, for half a year. -/
def keepTwo : RetentionPolicy where
  enabled := true
  keepLatest := some 2
  maxAgeDays := some 180

/-- The policy which keeps three items, for a year. -/
def keepThree : RetentionPolicy where
  enabled := true
  keepLatest := some 3
  maxAgeDays := some 365

/-- Every file has ten bytes and a file id. -/
def tenBytes (place : Place) : Except String RemoteFile :=
  .ok { size := some 10, fileId := some "id", relativePath := place.2 }

theorem planItems_fourVideos :
    planItems (planRows fourVideos 1) =
      [(1, videoItem "first" none), (2, videoItem "second" (some "20251224")),
        (3, videoItem "third" (some "20250610")),
        (4, videoItem "fourth" (some "20240105"))] := by
  decide

theorem datesBeforeMissing_fourVideos : DatesBeforeMissing fourVideos 1 := by
  intro item isItem date isDate
  rw [← mem_planItems_iff, planItems_fourVideos] at isItem
  simp only [List.mem_cons, List.not_mem_nil, or_false] at isItem
  rcases isItem with rfl | rfl | rfl | rfl <;> cases isDate <;> decide

/-- The videos are stored in the order of their dates. -/
theorem selectedItemIds_fourVideos :
    selectedItemIds parseUploadDate keepTwo newYear.toOrdinal
        (planRows fourVideos 1) = [3, 4, 3, 4] ∧
      selectedItemIds parseUploadDate keepThree newYear.toOrdinal
        (planRows fourVideos 1) = [4, 4] := by
  have sorted : (planItems (planRows fourVideos 1)).mergeSort newerOrSame =
      planItems (planRows fourVideos 1) := by
    apply List.mergeSort_of_pairwise
    rw [planItems_fourVideos]
    decide
  rw [planItems_fourVideos] at sorted
  simp only [selectedItemIds, planItems_fourVideos, sorted]
  decide

theorem retention_selection_fourVideos :
    ∃ plan raisedPlan,
      buildRetentionPlan (fun _ _ => "config") fourVideos 1 keepTwo 20
        newYear (some tenBytes) = .ok plan ∧
      buildRetentionPlan (fun _ _ => "config") fourVideos 1 keepThree 20
        newYear none = .ok raisedPlan ∧
      plan.deletable = true ∧
      plan.candidates.map RetentionCandidate.artifactId = [3, 4] ∧
      raisedPlan.candidates.map RetentionCandidate.artifactId = [4] ∧
      (∀ artifactId,
        artifactId ∈ plan.candidates.map RetentionCandidate.artifactId ↔
          Selected sortDate fourVideos 1 keepTwo newYear artifactId ∧
            Stored fourVideos artifactId) ∧
      (∀ artifactId,
        Selected missingIsNewest fourVideos 1 keepTwo newYear artifactId ↔
          Selected sortDate fourVideos 1 keepTwo newYear artifactId) ∧
      raisedPlan.candidates.map RetentionCandidate.artifactId ⊆
        plan.candidates.map RetentionCandidate.artifactId ∧
      ((plan.candidates.length * 2 : Nat) : ℕ∞) ≤
        (playlistArtifacts fourVideos 1).encard ∧
      ∀ candidate ∈ plan.candidates, Verified tenBytes candidate := by
  have evaluates : ∃ plan raisedPlan,
      buildRetentionPlan (fun _ _ => "config") fourVideos 1 keepTwo 20
        newYear (some tenBytes) = .ok plan ∧
      buildRetentionPlan (fun _ _ => "config") fourVideos 1 keepThree 20
        newYear none = .ok raisedPlan ∧
      plan.deletable = true ∧
      plan.candidates.map RetentionCandidate.artifactId = [3, 4] ∧
      raisedPlan.candidates.map RetentionCandidate.artifactId = [4] := by
    refine ⟨_, _, rfl, rfl, ?_, ?_, ?_⟩
    · simp only [selectedItemIds_fourVideos]
      decide
    · simp only [selectedItemIds_fourVideos]
      decide
    · simp only [selectedItemIds_fourVideos]
      decide
  rcases evaluates with
    ⟨plan, raisedPlan, built, raisedBuilt, deletable, candidates, raised⟩
  have raises : Raises keepTwo keepThree :=
    ⟨rfl, .some (by decide), .some (by decide)⟩
  have selection := retention_selection built rfl
  rcases selection.2.2.2 deletable with ⟨-, minority, -, verified⟩
  exact ⟨plan, raisedPlan, built, raisedBuilt, deletable, candidates, raised,
    selection.1, selection.2.1 datesBeforeMissing_fourVideos,
    selection.2.2.1 keepThree 20 none raisedPlan raises raisedBuilt,
    minority, verified tenBytes rfl⟩

/-- An item whose upload date is no date. -/
def firstItem : ItemRow where
  playlistId := 1
  sourceId := "first"
  uploadDate := some "unknown"

/-- An item without an upload date. -/
def secondItem : ItemRow where
  playlistId := 1
  sourceId := "second"

/-- A playlist with both, and a downloaded file of each. -/
def unknownDate : Database where
  storage := Table.empty.insert { name := "media", kind := .local }
  playlist := Table.empty.insert { name := "list", folderName := "list" }
  item := (Table.empty.insert firstItem).insert secondItem
  target :=
    (Table.empty.insert
      { itemId := 1, playlistProfileId := 1, status := .downloaded }).insert
      { itemId := 2, playlistProfileId := 1, status := .downloaded }
  artifact :=
    (Table.empty.insert
      { targetId := 1, storageId := 1, relativePath := "first.mp4" }).insert
      { targetId := 2, storageId := 1, relativePath := "second.mp4" }

/-- The policy which keeps the newest item. -/
def keepOne : RetentionPolicy where
  enabled := true
  keepLatest := some 1

/-- The plan of a preview under this policy. -/
def planKeepOne (db : Database) : Except String RetentionPlan :=
  buildRetentionPlan (fun _ _ => "config") db 1 keepOne 20 newYear none

theorem playlistItems_unknownDate (item : Nat × ItemRow) :
    item ∈ playlistItems unknownDate 1 ↔
      item = (1, firstItem) ∨ item = (2, secondItem) := by
  have items : planItems (planRows unknownDate 1) =
      [(1, firstItem), (2, secondItem)] := by decide
  rw [← mem_planItems_iff, items, List.mem_cons, List.mem_singleton]

/-- The Artifact without an upload date, with its Target and item. -/
def secondRow : PlanRow where
  artifactId := 2
  artifact := { targetId := 2, storageId := 1, relativePath := "second.mp4" }
  target := { itemId := 2, playlistProfileId := 1, status := .downloaded }
  item := secondItem

theorem inPlaylist_secondRow : InPlaylist unknownDate 1 secondRow where
  artifact := rfl
  target := rfl
  item := rfl
  playlist := rfl

/-- The text `unknown` is after `99999999`, so that the source selects it. -/
theorem selected_secondRow :
    Selected sortDate unknownDate 1 keepOne newYear 2 := by
  use secondRow, inPlaylist_secondRow, rfl, rfl
  left
  use 1, rfl
  rw [OutsideLatest, Nat.cast_one, Set.one_le_encard_iff_nonempty]
  use (1, firstItem)
  constructor
  · exact (playlistItems_unknownDate _).mpr (Or.inl rfl)
  · exact Or.inl (by decide)

/-- A missing date would keep it. -/
theorem not_selected_secondRow :
    ¬ Selected missingIsNewest unknownDate 1 keepOne newYear 2 := by
  rintro ⟨row, holds, isSecond, -, ⟨keepLatest, isOne, outside⟩ | byAge⟩
  · cases isOne
    cases holds.unique inPlaylist_secondRow isSecond
    rw [OutsideLatest, Nat.cast_one, Set.one_le_encard_iff_nonempty]
      at outside
    rcases outside with ⟨other, isOther, newer⟩
    rcases (playlistItems_unknownDate other).mp isOther with rfl | rfl
    · simp [Newer, missingIsNewest, firstItem, secondRow, secondItem] at newer
    · simp [Newer, secondRow] at newer
  · rcases byAge with ⟨maxAgeDays, impossible, -⟩
    cases impossible

/-- A missing date is not the newest besides a text that is no date. -/
theorem missing_date_not_newest :
    ∃ plan, planKeepOne unknownDate = .ok plan ∧
      ¬ ∀ artifactId,
        artifactId ∈ plan.candidates.map RetentionCandidate.artifactId ↔
          Selected missingIsNewest unknownDate 1 keepOne newYear artifactId ∧
            Stored unknownDate artifactId := by
  rcases built : planKeepOne unknownDate with message | plan
  · cases built
  · use plan, rfl
    intro agrees
    have planned := planned_of_build built rfl
    have isCandidate := (planned.mem_artifactIds_iff 2).mpr
      ⟨selected_secondRow, _, _, rfl, rfl⟩
    exact not_selected_secondRow ((agrees 2).mp isCandidate).1

end Sluicery.Core.RetentionSelection
