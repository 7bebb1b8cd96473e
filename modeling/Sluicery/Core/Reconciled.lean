import Sluicery.Core.Discovery
import Sluicery.Library.Returning
import Mathlib.Data.List.ProdSigma

/-!
# A Playlist after a discovery

The Items of the Playlist are followed through the upserts, the transitions
and the creation of the Targets.  Ids are unique within a Playlist, so that an
upsert finds the one row which there was before, or none.
-/

namespace Sluicery.Core.Discovery

open Sluicery.Library Sluicery.Db

/-- The columns of `UniqueConstraint("playlist_id", "source_id")`. -/
def identity (item : ItemRow) : Nat × String :=
  (item.playlistId, item.sourceId)

/-! ## Upserts -/

section Upserts

variable (call : Call)

/-- An Item of the Playlist takes the columns of its entry. -/
def seenBy (done : List Entry) (item : ItemRow) : ItemRow :=
  if item.playlistId = call.playlistId then
    match done.find? fun entry => entry.sourceId == item.sourceId with
    | some entry => writeEntry call entry item
    | none => item
  else item

/-- No Item of the Playlist has the id. -/
def Unknown (items : Table ItemRow) (sourceId : String) : Prop :=
  ∀ key item, items.get key = some item →
    identity item ≠ (call.playlistId, sourceId)

variable {call} {done : List Entry}

/-- What the columns keep which a discovery does not write. -/
structure SameOrigin (item item' : ItemRow) : Prop where
  identity : identity item' = identity item
  membership : item'.membership = item.membership
  firstSeenAt : item'.firstSeenAt = item.firstSeenAt
  delistedAt : item'.delistedAt = item.delistedAt

theorem sameOrigin_seenBy (item : ItemRow) :
    SameOrigin item (seenBy call done item) := by
  unfold seenBy
  split
  · split
    · next entry found =>
        have sameId := List.find?_some found
        rw [beq_iff_eq] at sameId
        constructor
        · simp only [identity, writeEntry, sameId]
        · rfl
        · rfl
        · rfl
    · exact ⟨rfl, rfl, rfl, rfl⟩
  · exact ⟨rfl, rfl, rfl, rfl⟩

theorem seenBy_of_absent {item : ItemRow}
    (absent : item.sourceId ∉ done.map Entry.sourceId) :
    seenBy call done item = item := by
  have none : done.find? (fun entry => entry.sourceId == item.sourceId) =
      none := by
    rw [List.find?_eq_none]
    intro entry member
    rw [beq_iff_eq]
    intro same
    apply absent
    rw [← same]
    exact List.mem_map_of_mem member
  simp only [seenBy, none, ite_self]

theorem seenBy_append_of_ne {item : ItemRow} {entry : Entry}
    (differs : identity item ≠ (call.playlistId, entry.sourceId)) :
    seenBy call (done ++ [entry]) item = seenBy call done item := by
  unfold seenBy
  split
  · next inPlaylist =>
      have notEntry : entry.sourceId ≠ item.sourceId := by
        intro same
        apply differs
        rw [identity, inPlaylist, same]
      simp [List.find?_append, notEntry]
  · rfl

theorem seenBy_append_of_eq {item : ItemRow} {entry : Entry}
    (same : identity item = (call.playlistId, entry.sourceId))
    (new : entry.sourceId ∉ done.map Entry.sourceId) :
    seenBy call (done ++ [entry]) item = writeEntry call entry item := by
  simp only [identity, Prod.mk.injEq] at same
  have none : done.find? (fun entry => entry.sourceId == item.sourceId) =
      none := by
    rw [List.find?_eq_none]
    intro other member
    rw [beq_iff_eq]
    intro isSame
    apply new
    rw [← same.2, ← isSame]
    exact List.mem_map_of_mem member
  rw [seenBy, if_pos same.1, List.find?_append, none]
  simp [same.2]

theorem identity_newItem (entry : Entry) :
    identity (newItem call entry) = (call.playlistId, entry.sourceId) :=
  rfl

theorem getBySourceId_some
    {items : Table ItemRow} {sourceId : String} {found : Nat × ItemRow}
    (isFound : getBySourceId call items sourceId = some found) :
    items.get found.1 = some found.2 ∧
      identity found.2 = (call.playlistId, sourceId) := by
  have member := (Table.mem_select_iff _ _ _ _).mp
    (List.mem_of_mem_head? isFound)
  rw [Bool.and_eq_true, beq_iff_eq, beq_iff_eq] at member
  exact ⟨member.1, Prod.ext member.2.1 member.2.2⟩

theorem getBySourceId_none
    {items : Table ItemRow} {sourceId : String}
    (isNone : getBySourceId call items sourceId = none) :
    Unknown call items sourceId := by
  intro key item found same
  simp only [identity, Prod.mk.injEq] at same
  have member := (Table.mem_select_iff items (fun _ item =>
    item.playlistId == call.playlistId && item.sourceId == sourceId) key
      item).mpr ⟨found, by simp [same.1, same.2]⟩
  rw [getBySourceId, List.head?_eq_none_iff] at isNone
  rw [isNone] at member
  cases member

/-- The Items after the upserts of distinct entries. -/
structure Upserted (call : Call) (before : Table ItemRow)
    (done : List Entry) (written : List (Nat × Entry))
    (after : Table ItemRow) : Prop where
  entries : written.map Prod.snd = done
  kept : ∀ key item, before.get key = some item →
    after.get key = some (seenBy call done item)
  new : ∀ key item, before.get key = none → after.get key = some item →
    ∃ entry, (key, entry) ∈ written ∧ item = newItem call entry ∧
      Unknown call before entry.sourceId
  found : ∀ key entry, (key, entry) ∈ written → ∃ item,
    after.get key = some item ∧
      identity item = (call.playlistId, entry.sourceId)
  unique : after.UniqueBy identity

theorem Upserted.mem_done {before after : Table ItemRow}
    {written : List (Nat × Entry)} {key : Nat} {entry : Entry}
    (upserted : Upserted call before done written after)
    (member : (key, entry) ∈ written) : entry ∈ done := by
  rw [← upserted.entries]
  exact List.mem_map_of_mem member

theorem upserted_nil {before : Table ItemRow}
    (unique : before.UniqueBy identity) :
    Upserted call before [] [] before where
  entries := rfl
  kept key item found := by
    rw [seenBy_of_absent (by simp)]
    exact found
  new key item missing found := by
    rw [missing] at found
    cases found
  found key entry member := by cases member
  unique := unique

/-- A row with a new id is an old row, which nobody has written. -/
theorem Upserted.old_of_found
    {before after : Table ItemRow} {written : List (Nat × Entry)}
    {entry : Entry} {key : Nat} {item : ItemRow}
    (upserted : Upserted call before done written after)
    (distinct : entry.sourceId ∉ done.map Entry.sourceId)
    (found : after.get key = some item)
    (sameId : identity item = (call.playlistId, entry.sourceId)) :
    before.get key = some item := by
  cases isOld : before.get key with
  | none =>
      rcases upserted.new key item isOld found with ⟨other, member, rfl, _⟩
      rw [identity_newItem, Prod.mk.injEq] at sameId
      exact absurd (sameId.2 ▸ List.mem_map_of_mem
        (upserted.mem_done member)) distinct
  | some old =>
      have same := upserted.kept key old isOld
      rw [found, Option.some.injEq] at same
      have origin := (@sameOrigin_seenBy call done old).identity
      rw [← same, sameId] at origin
      have absent : old.sourceId ∉ done.map Entry.sourceId := by
        rw [← (Prod.mk.inj origin).2]
        exact distinct
      rw [same, seenBy_of_absent absent]

/-- The row of the entry is there, and takes its columns. -/
theorem Upserted.modified
    {before after : Table ItemRow} {written : List (Nat × Entry)}
    {entry : Entry} {key : Nat} {item : ItemRow}
    (upserted : Upserted call before done written after)
    (old : before.get key = some item) (found : after.get key = some item)
    (sameId : identity item = (call.playlistId, entry.sourceId))
    (sameRow : identity (writeEntry call entry item) = identity item)
    (others : ∀ other old, other ≠ key → before.get other = some old →
      identity old ≠ (call.playlistId, entry.sourceId))
    (distinct : entry.sourceId ∉ done.map Entry.sourceId) :
    Upserted call before (done ++ [entry]) (written ++ [(key, entry)])
      (after.modify key (writeEntry call entry)) := by
  have isChanged : (after.modify key (writeEntry call entry)).get key =
      some (writeEntry call entry item) := by
    rw [Table.get_modify_self, found, Option.map_some]
  constructor
  · rw [List.map_append, upserted.entries]
    rfl
  · intro other row isOld
    by_cases same : other = key
    · subst same
      rw [old, Option.some.injEq] at isOld
      rw [isChanged, ← isOld, seenBy_append_of_eq sameId distinct]
    · rw [Table.get_modify_of_ne _ _ same, upserted.kept other row isOld,
        seenBy_append_of_ne (others other row same isOld)]
  · intro other row missing isNew
    have differs : other ≠ key := by
      rintro rfl
      rw [old] at missing
      cases missing
    rw [Table.get_modify_of_ne _ _ differs] at isNew
    rcases upserted.new other row missing isNew with
      ⟨entry', member, isRow, unknown⟩
    exact ⟨entry', List.mem_append_left _ member, isRow, unknown⟩
  · intro other entry' member
    rcases List.mem_append.mp member with already | isLast
    · rcases upserted.found other entry' already with ⟨row, isRow, ofEntry⟩
      by_cases same : other = key
      · subst same
        rw [found, Option.some.injEq] at isRow
        exact ⟨_, isChanged, by rw [sameRow, isRow, ofEntry]⟩
      · refine ⟨row, ?_, ofEntry⟩
        rw [Table.get_modify_of_ne _ _ same, isRow]
    · rw [List.mem_singleton, Prod.mk.injEq] at isLast
      rcases isLast with ⟨rfl, rfl⟩
      exact ⟨_, isChanged, by rw [sameRow, sameId]⟩
  · intro left right leftRow rightRow foundLeft foundRight same
    have origin : ∀ {other row},
        (after.modify key (writeEntry call entry)).get other = some row →
          ∃ row', after.get other = some row' ∧
            identity row' = identity row := by
      intro other row isRow
      by_cases isKey : other = key
      · subst isKey
        rw [isChanged, Option.some.injEq] at isRow
        exact ⟨item, found, by rw [← isRow, sameRow]⟩
      · rw [Table.get_modify_of_ne _ _ isKey] at isRow
        exact ⟨row, isRow, rfl⟩
    rcases origin foundLeft with ⟨leftRow', isLeft, sameLeft⟩
    rcases origin foundRight with ⟨rightRow', isRight, sameRight⟩
    apply upserted.unique left right leftRow' rightRow' isLeft isRight
    rw [sameLeft, sameRight, same]

/-- No row has the id, and a new one is inserted. -/
theorem Upserted.inserted
    {before after : Table ItemRow} {written : List (Nat × Entry)}
    {entry : Entry} (upserted : Upserted call before done written after)
    (unknown : Unknown call after entry.sourceId) :
    Upserted call before (done ++ [entry])
      (written ++ [(after.nextKey, entry)])
      (after.insert (newItem call entry)) := by
  have unknownBefore : Unknown call before entry.sourceId := by
    intro key row isOld same
    apply unknown key _ (upserted.kept key row isOld)
    rw [(sameOrigin_seenBy row).identity, same]
  constructor
  · rw [List.map_append, upserted.entries]
    rfl
  · intro key row isOld
    rw [seenBy_append_of_ne (unknownBefore key row isOld)]
    exact Table.get_insert_of_some _ (upserted.kept key row isOld)
  · intro key row missing isNew
    cases isAfter : after.get key with
    | none =>
        have isRow := Table.eq_of_get_insert isAfter isNew
        have isKey : key = after.nextKey := by
          by_contra differs
          rw [Table.get_insert, if_neg differs, isAfter] at isNew
          cases isNew
        refine ⟨entry, ?_, isRow, unknownBefore⟩
        rw [isKey]
        exact List.mem_append_right _ List.mem_cons_self
    | some old =>
        have same := Table.get_insert_of_some (newItem call entry) isAfter
        rw [isNew, Option.some.injEq] at same
        rw [← same] at isAfter
        rcases upserted.new key row missing isAfter with
          ⟨other, member, isRow, unknown'⟩
        exact ⟨other, List.mem_append_left _ member, isRow, unknown'⟩
  · intro key other member
    rcases List.mem_append.mp member with already | isLast
    · rcases upserted.found key other already with ⟨row, isRow, ofEntry⟩
      exact ⟨row, Table.get_insert_of_some _ isRow, ofEntry⟩
    · rw [List.mem_singleton, Prod.mk.injEq] at isLast
      rcases isLast with ⟨rfl, rfl⟩
      exact ⟨_, Table.get_insert_nextKey _ _, identity_newItem _⟩
  · intro left right leftRow rightRow foundLeft foundRight same
    rw [Table.get_insert] at foundLeft foundRight
    split at foundLeft
    · next isLeft =>
        split at foundRight
        · next isRight => rw [isLeft, isRight]
        · rw [← Option.some.inj foundLeft, identity_newItem] at same
          exact absurd same.symm (unknown right rightRow foundRight)
    · split at foundRight
      · rw [← Option.some.inj foundRight, identity_newItem] at same
        exact absurd same (unknown left leftRow foundLeft)
      · exact upserted.unique left right leftRow rightRow foundLeft
          foundRight same

/-- One turn of the loop. -/
theorem Upserted.step
    {before after : Table ItemRow} {written : List (Nat × Entry)}
    {hasPlaylist : Bool} {entry : Entry}
    {next : List (Nat × Entry) × Table ItemRow}
    (upserted : Upserted call before done written after)
    (unique : before.UniqueBy identity)
    (distinct : entry.sourceId ∉ done.map Entry.sourceId)
    (takes : upsert call hasPlaylist (written, after) entry = .ok next) :
    Upserted call before (done ++ [entry]) next.1 next.2 := by
  unfold upsert at takes
  split at takes
  · cases takes
  · split at takes
    · next key item isFound =>
        cases takes
        have here : after.get key = some item ∧
            identity item = (call.playlistId, entry.sourceId) :=
          getBySourceId_some isFound
        rcases here with ⟨found, sameId⟩
        have old := upserted.old_of_found distinct found sameId
        have others : ∀ other old, other ≠ key →
            before.get other = some old →
              identity old ≠ (call.playlistId, entry.sourceId) := by
          intro other row differs isOld same
          exact differs (unique other key row item isOld old
            (same.trans sameId.symm))
        have sameRow : identity (writeEntry call entry item) =
            identity item := by
          rw [sameId]
          simp only [identity, writeEntry, Prod.mk.injEq] at sameId ⊢
          exact ⟨sameId.1, trivial⟩
        exact upserted.modified old found sameId sameRow others distinct
    · next isNone =>
        split at takes
        · cases takes
          exact upserted.inserted (getBySourceId_none isNone)
        · cases takes

/-- The whole loop, over entries with distinct ids. -/
theorem upserted_foldlM
    {before : Table ItemRow} {hasPlaylist : Bool}
    (unique : before.UniqueBy identity)
    {result : List (Nat × Entry) × Table ItemRow} (rest : List Entry) :
    ∀ {done : List Entry} {written : List (Nat × Entry)}
      {after : Table ItemRow},
      Upserted call before done written after →
        ((done ++ rest).map Entry.sourceId).Nodup →
          rest.foldlM (upsert call hasPlaylist) (written, after) =
            .ok result →
            Upserted call before (done ++ rest) result.1 result.2 := by
  induction rest with
  | nil =>
      intro done written after upserted _ ends
      cases ends
      rw [List.append_nil]
      exact upserted
  | cons entry rest induction =>
      intro done written after upserted distinct takes
      rw [List.foldlM_cons] at takes
      cases isNext : upsert call hasPlaylist (written, after) entry with
      | error message =>
          rw [isNext] at takes
          cases takes
      | ok next =>
          rw [isNext] at takes
          have new : entry.sourceId ∉ done.map Entry.sourceId := by
            rw [List.map_append, List.nodup_append] at distinct
            intro member
            exact distinct.2.2 _ member entry.sourceId
              (List.mem_map_of_mem List.mem_cons_self) rfl
          rw [List.append_cons] at distinct ⊢
          exact induction (upserted.step unique new isNext) distinct takes

theorem upserted_upsertMany
    {before : Table ItemRow} {hasPlaylist : Bool} {entries : List Entry}
    {result : List (Nat × Entry) × Table ItemRow}
    (unique : before.UniqueBy identity)
    (distinct : (entries.map Entry.sourceId).Nodup)
    (runs : upsertMany call hasPlaylist before entries = .ok result) :
    Upserted call before entries result.1 result.2 :=
  upserted_foldlM unique entries (upserted_nil unique) distinct runs

theorem returns_upsertMany
    (before : Table ItemRow) (entries : List Entry) :
    Returns (upsertMany call true before entries) ↔
      ∀ entry ∈ entries, call.storable entry = true := by
  apply returns_foldlM
  intro done entry
  unfold upsert
  cases call.storable entry with
  | false => simp
  | true =>
      simp only [not_true_eq_false, if_false, if_true, iff_true]
      split <;> exact returns_ok _

end Upserts

/-! ## Transitions -/

/-- Items with another membership take the new one. -/
theorem foldlM_transitionItem
    (call : Call) (membership : ItemMembership) (keys : List Nat) :
    ∀ {items : Table ItemRow}, keys.Nodup →
      (∀ key ∈ keys, ∃ item, items.get key = some item ∧
        item.membership ≠ membership) →
      ∃ after, keys.foldlM (transitionItem call membership) items =
          .ok after ∧
        ∀ key, after.get key =
          if key ∈ keys then
            (items.get key).map (setMembership call membership)
          else items.get key := by
  induction keys with
  | nil =>
      intro items _ _
      exact ⟨items, rfl, fun key => by simp⟩
  | cons key rest induction =>
      intro items distinct ready
      rw [List.nodup_cons] at distinct
      rcases ready key List.mem_cons_self with ⟨item, found, differs⟩
      have takes : transitionItem call membership items key =
          .ok (items.modify key (setMembership call membership)) := by
        simp only [transitionItem, found, if_neg differs]
      have readyNext : ∀ other ∈ rest, ∃ item,
          (items.modify key (setMembership call membership)).get other =
            some item ∧ item.membership ≠ membership := by
        intro other member
        have isOther : other ≠ key := by
          rintro rfl
          exact distinct.1 member
        rcases ready other (List.mem_cons_of_mem _ member) with
          ⟨item, found, differs⟩
        refine ⟨item, ?_, differs⟩
        rw [Table.get_modify_of_ne _ _ isOther, found]
      rcases induction distinct.2 readyNext with ⟨after, runs, isAfter⟩
      refine ⟨after, ?_, ?_⟩
      · rw [List.foldlM_cons, takes]
        exact runs
      · intro other
        rw [isAfter other]
        by_cases isKey : other = key
        · subst isKey
          rw [if_neg distinct.1, if_pos List.mem_cons_self,
            Table.get_modify_self]
        · rw [Table.get_modify_of_ne _ _ isKey]
          simp only [List.mem_cons, isKey, false_or]

/-! ## What a discovery finds -/

/-- An entry with this id has been discovered. -/
def IsDiscovered (entries : List Entry) (sourceId : String) : Prop :=
  sourceId ≠ "" ∧ ∃ entry ∈ entries, entry.sourceId = sourceId

theorem mem_ids_discovered_iff (entries : List Entry) (sourceId : String) :
    sourceId ∈ (discovered entries).map Entry.sourceId ↔
      IsDiscovered entries sourceId := by
  rw [discovered, Keyed.mem_keys_collect_iff]
  simp only [List.mem_map, List.mem_filter, bne_iff_ne, IsDiscovered]
  constructor
  · rintro ⟨entry, ⟨member, notEmpty⟩, rfl⟩
    exact ⟨notEmpty, entry, member, rfl⟩
  · rintro ⟨notEmpty, entry, member, rfl⟩
    exact ⟨entry, ⟨member, notEmpty⟩, rfl⟩

section Findings

variable {call : Call} {items : Table ItemRow} {entries : List Entry}

theorem nodup_discovered (entries : List Entry) :
    ((discovered entries).map Entry.sourceId).Nodup :=
  Keyed.nodup_collect _ _

theorem any_discovered_iff (sourceId : String) :
    ((discovered entries).any fun entry => entry.sourceId == sourceId) =
      true ↔ IsDiscovered entries sourceId := by
  rw [← mem_ids_discovered_iff]
  simp [List.any_eq_true]

theorem mem_listForPlaylist_iff {found : Nat × ItemRow} :
    found ∈ listForPlaylist call items ↔
      items.get found.1 = some found.2 ∧
        found.2.playlistId = call.playlistId := by
  rw [listForPlaylist, Table.mem_select_iff, beq_iff_eq]

theorem nodup_keys_filter (condition : Nat × ItemRow → Bool) :
    (((listForPlaylist call items).filter condition).map Prod.fst).Nodup := by
  have ascending := items.ascending.sublist
    ((List.filter_sublist (p := condition)).trans
      (List.filter_sublist (l := items.rows)
        (p := fun found => found.2.playlistId == call.playlistId)) |>.map
          Prod.fst)
  exact ascending.imp Nat.ne_of_lt

theorem mem_delisted_iff {key : Nat} :
    key ∈ (findings call items entries).delisted ↔ ∃ item,
      items.get key = some item ∧ item.playlistId = call.playlistId ∧
        item.membership = .active ∧ ¬ IsDiscovered entries item.sourceId := by
  simp only [findings, List.mem_map, List.mem_filter,
    mem_listForPlaylist_iff, Bool.and_eq_true, beq_iff_eq,
    Bool.not_eq_true', Bool.eq_false_iff, ne_eq, any_discovered_iff]
  constructor
  · rintro ⟨⟨key, item⟩, ⟨⟨found, inPlaylist⟩, isActive, absent⟩, rfl⟩
    exact ⟨item, found, inPlaylist, isActive, absent⟩
  · rintro ⟨item, found, inPlaylist, isActive, absent⟩
    exact ⟨(key, item), ⟨⟨found, inPlaylist⟩, isActive, absent⟩, rfl⟩

theorem mem_reappeared_iff {key : Nat} :
    key ∈ (findings call items entries).reappeared ↔ ∃ item,
      items.get key = some item ∧ item.playlistId = call.playlistId ∧
        item.membership = .delisted ∧
        IsDiscovered entries item.sourceId := by
  simp only [findings, List.mem_map, List.mem_filter,
    mem_listForPlaylist_iff, Bool.and_eq_true, beq_iff_eq,
    any_discovered_iff]
  constructor
  · rintro ⟨⟨key, item⟩, ⟨⟨found, inPlaylist⟩, isDelisted, present⟩, rfl⟩
    exact ⟨item, found, inPlaylist, isDelisted, present⟩
  · rintro ⟨item, found, inPlaylist, isDelisted, present⟩
    exact ⟨(key, item), ⟨⟨found, inPlaylist⟩, isDelisted, present⟩, rfl⟩

theorem mem_newEntries_iff {entry : Entry} :
    entry ∈ (findings call items entries).newEntries ↔
      entry ∈ discovered entries ∧ Unknown call items entry.sourceId := by
  simp only [findings, List.mem_filter, Bool.not_eq_true',
    Bool.eq_false_iff, ne_eq, List.any_eq_true, mem_listForPlaylist_iff,
    beq_iff_eq, not_exists, not_and, and_imp, Prod.forall]
  apply and_congr_right
  intro _
  constructor
  · intro unknown key item found same
    simp only [identity, Prod.mk.injEq] at same
    exact unknown key item found same.1 same.2
  · intro unknown key item found inPlaylist same
    apply unknown key item found
    rw [identity, inPlaylist, same]

end Findings

/-! ## The writes -/

section Writes

variable {call : Call} {db after : Database} {entries : List Entry}

/-- The Items which `apply_discovery` finds to be new. -/
def newItemIds (call : Call) (items : Table ItemRow) (entries : List Entry)
    (written : List (Nat × Entry)) : List Nat :=
  (written.filter fun pair =>
    (findings call items entries).newEntries.any fun entry =>
      entry.sourceId == pair.2.sourceId).map Prod.fst

/-- The database after the writes. -/
structure Writes (call : Call) (db : Database) (entries : List Entry)
    (written : List (Nat × Entry)) (upserted : Table ItemRow)
    (after : Database) : Prop where
  upserts :
    Upserted call db.item (discovered entries) written upserted
  items : ∀ key, after.item.get key =
    if key ∈ (findings call db.item entries).reappeared then
      (upserted.get key).map (setMembership call .active)
    else if key ∈ (findings call db.item entries).delisted then
      (upserted.get key).map (setMembership call .delisted)
    else upserted.get key
  rest : after = { db with
    item := after.item
    target := createMissingForItems db.target
      (newItemIds call db.item entries written)
      (listEnabledForPlaylist db.playlistProfile call.playlistId)
      call.flushedAt
    playlist := db.playlist.modify call.playlistId fun playlist =>
      { playlist with lastDiscoverAt := some call.observedAt } }

/-- Upserted Items can make the transitions which were found. -/
theorem transitions_of_upserted
    {written : List (Nat × Entry)} {upserted : Table ItemRow}
    (upserts :
      Upserted call db.item (discovered entries) written upserted) :
    ∃ delisted item,
      (findings call db.item entries).delisted.foldlM
          (transitionItem call .delisted) upserted = .ok delisted ∧
        (findings call db.item entries).reappeared.foldlM
          (transitionItem call .active) delisted = .ok item ∧
        ∀ key, item.get key =
          if key ∈ (findings call db.item entries).reappeared then
            (upserted.get key).map (setMembership call .active)
          else if key ∈ (findings call db.item entries).delisted then
            (upserted.get key).map (setMembership call .delisted)
          else upserted.get key := by
  have keepsMembership : ∀ key item, db.item.get key = some item →
      ∃ item', upserted.get key = some item' ∧
        item'.membership = item.membership := by
    intro key item found
    exact ⟨_, upserts.kept key item found,
      (sameOrigin_seenBy item).membership⟩
  rcases @foldlM_transitionItem call .delisted
      (findings call db.item entries).delisted upserted
      (nodup_keys_filter _) (by
        intro key member
        rcases mem_delisted_iff.mp member with ⟨item, found, _, isActive, _⟩
        rcases keepsMembership key item found with ⟨item', found', same⟩
        refine ⟨item', found', ?_⟩
        rw [same, isActive]
        decide) with ⟨delisted, runs, isDelisted⟩
  have notBoth : ∀ key ∈ (findings call db.item entries).reappeared,
      key ∉ (findings call db.item entries).delisted := by
    intro key isBack isGone
    rcases mem_reappeared_iff.mp isBack with ⟨item, found, _, _, present⟩
    rcases mem_delisted_iff.mp isGone with ⟨other, isOther, _, _, absent⟩
    rw [found] at isOther
    cases isOther
    exact absent present
  rcases @foldlM_transitionItem call .active
      (findings call db.item entries).reappeared delisted
      (nodup_keys_filter _) (by
        intro key member
        rcases mem_reappeared_iff.mp member with
          ⟨item, found, _, wasDelisted, _⟩
        rcases keepsMembership key item found with ⟨item', found', same⟩
        refine ⟨item', ?_, ?_⟩
        · rw [isDelisted key, if_neg (notBoth key member), found']
        · rw [same, wasDelisted]
          decide) with ⟨item, runs', isItem⟩
  refine ⟨delisted, item, runs, runs', ?_⟩
  intro key
  rw [isItem key]
  split
  · next isBack => rw [isDelisted key, if_neg (notBoth key isBack)]
  · exact isDelisted key

/-- A discovery which is written. -/
theorem writes_of_ok
    (unique : db.item.UniqueBy identity)
    (writes : writeDiscovery call db entries = .ok after) :
    ∃ written upserted, Writes call db entries written upserted after := by
  unfold writeDiscovery at writes
  dsimp only at writes
  cases isUpserted : upsertMany call
      (db.playlist.get call.playlistId).isSome db.item
      (discovered entries) with
  | error message =>
      rw [isUpserted] at writes
      cases writes
  | ok result =>
      have upserts := upserted_upsertMany unique (nodup_discovered entries)
        isUpserted
      rcases transitions_of_upserted upserts with
        ⟨delisted, item, runs, runs', isItem⟩
      rw [isUpserted] at writes
      simp only [bind, Except.bind, runs, runs'] at writes
      split at writes
      · cases writes
        exact ⟨result.1, result.2, upserts, isItem, rfl⟩
      · cases writes

/-- A discovery is written if its Playlist exists and its values fit. -/
theorem returns_writeDiscovery
    (unique : db.item.UniqueBy identity) :
    Returns (writeDiscovery call db entries) ↔
      db.playlist.get call.playlistId ≠ none ∧
        ∀ entry ∈ discovered entries, call.storable entry = true := by
  unfold writeDiscovery
  dsimp only
  cases isUpserted : upsertMany call
      (db.playlist.get call.playlistId).isSome db.item
      (discovered entries) with
  | error message =>
      apply iff_of_false (not_returns_error _)
      rintro ⟨hasPlaylist, storable⟩
      rw [Option.isSome_iff_ne_none.mpr hasPlaylist] at isUpserted
      rcases (returns_upsertMany _ _).mpr storable with ⟨result, isResult⟩
      rw [isUpserted] at isResult
      cases isResult
  | ok result =>
      have upserts := upserted_upsertMany unique (nodup_discovered entries)
        isUpserted
      rcases transitions_of_upserted upserts with
        ⟨delisted, item, runs, runs', _⟩
      simp only [bind, Except.bind, runs, runs']
      split
      · next hasPlaylist =>
          apply iff_of_true (returns_ok _)
          rw [hasPlaylist] at isUpserted
          exact ⟨Option.isSome_iff_ne_none.mp hasPlaylist,
            (returns_upsertMany _ _).mp ⟨result, isUpserted⟩⟩
      · next noPlaylist =>
          apply iff_of_false (not_returns_error _)
          rintro ⟨hasPlaylist, _⟩
          exact noPlaylist (Option.isSome_iff_ne_none.mpr hasPlaylist)

end Writes

/-! ## The Items afterwards -/

section Items

variable {call : Call} {db after : Database} {entries : List Entry}
  {written : List (Nat × Entry)} {upserted : Table ItemRow}

theorem isDiscovered_iff_find {sourceId : String} :
    IsDiscovered entries sourceId ↔ ∃ entry ∈ discovered entries,
      entry.sourceId = sourceId ∧
        (discovered entries).find?
          (fun entry => entry.sourceId == sourceId) = some entry := by
  rw [← mem_ids_discovered_iff]
  constructor
  · intro member
    rcases List.mem_map.mp member with ⟨entry, isEntry, rfl⟩
    cases found : (discovered entries).find?
        fun other => other.sourceId == entry.sourceId with
    | none =>
        have differs := List.find?_eq_none.mp found entry isEntry
        simp at differs
    | some other =>
        have same := List.find?_some found
        rw [beq_iff_eq] at same
        exact ⟨other, List.mem_of_find?_eq_some found, same, rfl⟩
  · rintro ⟨entry, member, rfl, _⟩
    exact List.mem_map_of_mem member

/-- Items of other Playlists stay as they are. -/
theorem Writes.other
    (writes : Writes call db entries written upserted after) {key : Nat}
    {item : ItemRow} (found : db.item.get key = some item)
    (elsewhere : item.playlistId ≠ call.playlistId) :
    after.item.get key = some item := by
  have notBack : key ∉ (findings call db.item entries).reappeared := by
    intro member
    rcases mem_reappeared_iff.mp member with ⟨other, isOther, inPlaylist, _⟩
    rw [found] at isOther
    cases isOther
    exact elsewhere inPlaylist
  have notGone : key ∉ (findings call db.item entries).delisted := by
    intro member
    rcases mem_delisted_iff.mp member with ⟨other, isOther, inPlaylist, _⟩
    rw [found] at isOther
    cases isOther
    exact elsewhere inPlaylist
  rw [writes.items key, if_neg notBack, if_neg notGone,
    writes.upserts.kept key item found, seenBy, if_neg elsewhere]

/-- An Item which is gone is delisted, or has been before. -/
theorem Writes.absent
    (writes : Writes call db entries written upserted after) {key : Nat}
    {item : ItemRow} (found : db.item.get key = some item)
    (inPlaylist : item.playlistId = call.playlistId)
    (absent : ¬ IsDiscovered entries item.sourceId) :
    after.item.get key = some
      (if item.membership = .active then setMembership call .delisted item
        else item) := by
  have notBack : key ∉ (findings call db.item entries).reappeared := by
    intro member
    rcases mem_reappeared_iff.mp member with ⟨other, isOther, _, _, present⟩
    rw [found] at isOther
    cases isOther
    exact absent present
  have same := writes.upserts.kept key item found
  rw [← mem_ids_discovered_iff] at absent
  rw [seenBy_of_absent absent] at same
  rw [mem_ids_discovered_iff] at absent
  rw [writes.items key, if_neg notBack, same, Option.map_some]
  by_cases isActive : item.membership = .active
  · rw [if_pos isActive, if_pos (mem_delisted_iff.mpr
      ⟨item, found, inPlaylist, isActive, absent⟩)]
  · have notGone : key ∉ (findings call db.item entries).delisted := by
      intro member
      rcases mem_delisted_iff.mp member with ⟨other, isOther, _, active, _⟩
      rw [found] at isOther
      cases isOther
      exact isActive active
    rw [if_neg isActive, if_neg notGone]

/-- An Item which is present takes its entry, and is active. -/
theorem Writes.present
    (writes : Writes call db entries written upserted after) {key : Nat}
    {item : ItemRow} (found : db.item.get key = some item)
    (inPlaylist : item.playlistId = call.playlistId)
    (present : IsDiscovered entries item.sourceId) :
    ∃ entry ∈ discovered entries, entry.sourceId = item.sourceId ∧
      after.item.get key = some
        (if item.membership = .delisted then
          setMembership call .active (writeEntry call entry item)
        else writeEntry call entry item) := by
  rcases isDiscovered_iff_find.mp present with
    ⟨entry, member, sameId, isFound⟩
  refine ⟨entry, member, sameId, ?_⟩
  have isSeen := writes.upserts.kept key item found
  simp only [seenBy, if_pos inPlaylist, isFound] at isSeen
  have notGone : key ∉ (findings call db.item entries).delisted := by
    intro isGone
    rcases mem_delisted_iff.mp isGone with ⟨other, isOther, _, _, absent⟩
    rw [found] at isOther
    cases isOther
    exact absent present
  rw [writes.items key, isSeen, Option.map_some]
  by_cases wasDelisted : item.membership = .delisted
  · rw [if_pos wasDelisted, if_pos (mem_reappeared_iff.mpr
      ⟨item, found, inPlaylist, wasDelisted, present⟩)]
  · have notBack : key ∉ (findings call db.item entries).reappeared := by
      intro isBack
      rcases mem_reappeared_iff.mp isBack with ⟨other, isOther, _, was, _⟩
      rw [found] at isOther
      cases isOther
      exact wasDelisted was
    rw [if_neg wasDelisted, if_neg notBack, if_neg notGone]

/-- A new Item has an entry with a new id. -/
theorem Writes.new
    (writes : Writes call db entries written upserted after) {key : Nat}
    (missing : db.item.get key = none) :
    after.item.get key = upserted.get key := by
  have notBack : key ∉ (findings call db.item entries).reappeared := by
    intro member
    rcases mem_reappeared_iff.mp member with ⟨item, found, _⟩
    rw [missing] at found
    cases found
  have notGone : key ∉ (findings call db.item entries).delisted := by
    intro member
    rcases mem_delisted_iff.mp member with ⟨item, found, _⟩
    rw [missing] at found
    cases found
  rw [writes.items key, if_neg notBack, if_neg notGone]

/-- A transition leaves the Playlist and the id of an Item alone. -/
theorem Writes.origin
    (writes : Writes call db entries written upserted after) {key : Nat}
    {item : ItemRow} (found : after.item.get key = some item) :
    ∃ old, upserted.get key = some old ∧ identity old = identity item := by
  have unchanged : ∀ membership old,
      identity (setMembership call membership old) = identity old := by
    intro membership old
    cases membership <;> rfl
  rw [writes.items key] at found
  split at found
  · rcases Option.map_eq_some_iff.mp found with ⟨old, isOld, rfl⟩
    exact ⟨old, isOld, (unchanged _ _).symm⟩
  · split at found
    · rcases Option.map_eq_some_iff.mp found with ⟨old, isOld, rfl⟩
      exact ⟨old, isOld, (unchanged _ _).symm⟩
    · exact ⟨item, found, rfl⟩

theorem Writes.isSome_iff
    (writes : Writes call db entries written upserted after) (key : Nat) :
    after.item.get key ≠ none ↔ upserted.get key ≠ none := by
  rw [writes.items key]
  split
  · simp
  · split <;> simp

theorem Writes.unique
    (writes : Writes call db entries written upserted after) :
    after.item.UniqueBy identity := by
  intro left right leftRow rightRow foundLeft foundRight same
  rcases writes.origin foundLeft with ⟨oldLeft, isLeft, sameLeft⟩
  rcases writes.origin foundRight with ⟨oldRight, isRight, sameRight⟩
  apply writes.upserts.unique left right oldLeft oldRight isLeft isRight
  rw [sameLeft, sameRight, same]

/-- The active Items are those which were discovered. -/
theorem Writes.active_iff
    (writes : Writes call db entries written upserted after)
    (sourceId : String) :
    (∃ key item, after.item.get key = some item ∧
      item.playlistId = call.playlistId ∧ item.sourceId = sourceId ∧
      item.membership = .active) ↔ IsDiscovered entries sourceId := by
  constructor
  · rintro ⟨key, item, found, inPlaylist, rfl, isActive⟩
    rcases writes.origin found with ⟨seen, isSeen, sameId⟩
    cases isOld : db.item.get key with
    | none =>
        rcases writes.upserts.new key seen isOld isSeen with
          ⟨entry, member, rfl, _⟩
        rw [identity_newItem, identity, Prod.mk.injEq] at sameId
        rw [← sameId.2, ← mem_ids_discovered_iff]
        exact List.mem_map_of_mem (writes.upserts.mem_done member)
    | some old =>
        by_contra absent
        have kept := writes.upserts.kept key old isOld
        rw [isSeen, Option.some.injEq] at kept
        have origin := (@sameOrigin_seenBy call (discovered entries)
          old).identity
        rw [← kept, sameId] at origin
        simp only [identity, Prod.mk.injEq] at origin
        have gone := writes.absent isOld (origin.1.symm.trans inPlaylist)
          (origin.2 ▸ absent)
        rw [found, Option.some.injEq] at gone
        rw [gone] at isActive
        split at isActive
        · cases isActive
        · next wasDelisted => exact wasDelisted isActive
  · intro present
    rcases isDiscovered_iff_find.mp present with ⟨entry, member, rfl, _⟩
    rw [← writes.upserts.entries] at member
    rcases List.mem_map.mp member with ⟨⟨key, other⟩, isWritten, same⟩
    dsimp only at same
    subst same
    rcases writes.upserts.found key other isWritten with
      ⟨seen, isSeen, sameId⟩
    simp only [identity, Prod.mk.injEq] at sameId
    cases isOld : db.item.get key with
    | none =>
        rcases writes.upserts.new key seen isOld isSeen with
          ⟨entry, _, rfl, _⟩
        exact ⟨key, _, (writes.new isOld).trans isSeen, sameId.1, sameId.2,
          rfl⟩
    | some old =>
        have kept := writes.upserts.kept key old isOld
        rw [isSeen, Option.some.injEq] at kept
        have origin := (@sameOrigin_seenBy call (discovered entries)
          old).identity
        rw [← kept] at origin
        simp only [identity, Prod.mk.injEq] at origin
        have inPlaylist := origin.1.symm.trans sameId.1
        have isId := origin.2.symm.trans sameId.2
        rcases writes.present isOld inPlaylist (isId ▸ present) with
          ⟨entry, _, isEntry, isNow⟩
        refine ⟨key, _, isNow, ?_⟩
        split
        · exact ⟨inPlaylist, isEntry.trans isId, rfl⟩
        · next notDelisted =>
            refine ⟨inPlaylist, isEntry.trans isId, ?_⟩
            show old.membership = .active
            cases isMembership : old.membership with
            | active => rfl
            | delisted => exact absurd isMembership notDelisted

end Items

/-! ## The Targets afterwards -/

/-- An enabled assignment of the Playlist. -/
def IsEnabled (db : Database) (playlistId assignmentId : Nat) : Prop :=
  ∃ assignment, db.playlistProfile.get assignmentId = some assignment ∧
    assignment.playlistId = playlistId ∧ assignment.enabled = true

theorem mem_listEnabledForPlaylist_iff
    {db : Database} {playlistId assignmentId : Nat} :
    assignmentId ∈ listEnabledForPlaylist db.playlistProfile playlistId ↔
      IsEnabled db playlistId assignmentId := by
  simp only [listEnabledForPlaylist, List.mem_map, List.mem_mergeSort,
    Prod.exists, exists_and_right, exists_eq_right, Table.mem_select_iff,
    Bool.and_eq_true, beq_iff_eq, IsEnabled]

theorem nodup_listEnabledForPlaylist
    (assignments : Table PlaylistProfileRow) (playlistId : Nat) :
    (listEnabledForPlaylist assignments playlistId).Nodup := by
  have ascending := assignments.ascending.sublist
    ((List.filter_sublist (l := assignments.rows) (p := fun entry =>
      entry.2.playlistId == playlistId && entry.2.enabled)).map Prod.fst)
  have distinct := ascending.imp Nat.ne_of_lt
  rw [listEnabledForPlaylist]
  exact ((List.mergeSort_perm _ _).map Prod.fst).nodup_iff.mpr distinct

section Targets

variable {targets : Table TargetRow} {itemIds assignmentIds : List Nat}
  {now : Time}

/-- The rows which are created. -/
def missingTargets (targets : Table TargetRow)
    (itemIds assignmentIds : List Nat) (now : Time) : List TargetRow :=
  ((itemIds.flatMap fun itemId =>
      assignmentIds.map fun profileId => (itemId, profileId)).filter
    fun pair => !targets.any fun _ target =>
      target.itemId == pair.1 && target.playlistProfileId == pair.2).map
    fun pair =>
      { itemId := pair.1, playlistProfileId := pair.2, updatedAt := now }

theorem mem_missingTargets_iff {row : TargetRow} :
    row ∈ missingTargets targets itemIds assignmentIds now ↔
      row.itemId ∈ itemIds ∧ row.playlistProfileId ∈ assignmentIds ∧
        row = { itemId := row.itemId
                playlistProfileId := row.playlistProfileId
                updatedAt := now } ∧
        ∀ key target, targets.get key = some target →
          target.itemId = row.itemId →
            target.playlistProfileId ≠ row.playlistProfileId := by
  simp only [missingTargets, List.mem_map, List.mem_filter,
    List.mem_flatMap, Bool.not_eq_true', Bool.eq_false_iff, ne_eq,
    Table.any_eq_true_iff, Bool.and_eq_true, beq_iff_eq, not_exists, not_and]
  constructor
  · rintro ⟨pair, ⟨⟨itemId, isItem, assignmentId, isAssignment, rfl⟩,
      missing⟩, rfl⟩
    exact ⟨isItem, isAssignment, rfl, missing⟩
  · rintro ⟨isItem, isAssignment, isRow, missing⟩
    exact ⟨(row.itemId, row.playlistProfileId),
      ⟨⟨row.itemId, isItem, row.playlistProfileId, isAssignment, rfl⟩,
        missing⟩, isRow.symm⟩

theorem nodup_missingTargets
    (distinctItems : itemIds.Nodup) (distinctAssignments : assignmentIds.Nodup) :
    (missingTargets targets itemIds assignmentIds now).Nodup := by
  have distinct : (itemIds.flatMap fun itemId =>
      assignmentIds.map fun profileId => (itemId, profileId)).Nodup :=
    distinctItems.product distinctAssignments
  apply List.Nodup.map _ (distinct.filter _)
  intro left right same
  simp only [TargetRow.mk.injEq, and_true] at same
  exact Prod.ext same.1 same.2

/-- Each new Item has one Target for each enabled assignment. -/
structure CreatesTargets (db after : Database) (playlistId : Nat) : Prop where
  kept : ∀ key target, db.target.get key = some target →
    after.target.get key = some target
  new : ∀ key target, db.target.get key = none →
    after.target.get key = some target →
      target.status = .pending ∧
        IsEnabled db playlistId target.playlistProfileId ∧
        db.item.get target.itemId = none ∧
        after.item.get target.itemId ≠ none
  one : ∀ itemId assignmentId, db.item.get itemId = none →
    after.item.get itemId ≠ none → IsEnabled db playlistId assignmentId →
      ∃ key, (∃ target, after.target.get key = some target ∧
          target.itemId = itemId ∧
          target.playlistProfileId = assignmentId ∧
          target.status = .pending) ∧
        ∀ other target, after.target.get other = some target →
          target.itemId = itemId →
            target.playlistProfileId = assignmentId → other = key

end Targets

section Created

variable {call : Call} {db after : Database} {entries : List Entry}
  {written : List (Nat × Entry)} {upserted : Table ItemRow}

theorem any_newEntries_iff {items : Table ItemRow} {entry : Entry}
    (member : entry ∈ discovered entries) :
    ((findings call items entries).newEntries.any fun new =>
        new.sourceId == entry.sourceId) = true ↔
      Unknown call items entry.sourceId := by
  rw [List.any_eq_true]
  constructor
  · rintro ⟨new, isNew, sameId⟩
    rw [beq_iff_eq] at sameId
    rw [← sameId]
    exact (mem_newEntries_iff.mp isNew).2
  · intro unknown
    exact ⟨entry, mem_newEntries_iff.mpr ⟨member, unknown⟩, by simp⟩

/-- The new Items are the rows which there are now only. -/
theorem Writes.mem_newItemIds_iff
    (writes : Writes call db entries written upserted after) {key : Nat} :
    key ∈ newItemIds call db.item entries written ↔
      db.item.get key = none ∧ after.item.get key ≠ none := by
  rw [writes.isSome_iff, newItemIds, List.mem_map]
  constructor
  · rintro ⟨⟨key, entry⟩, member, rfl⟩
    rcases List.mem_filter.mp member with ⟨inWritten, isNew⟩
    rw [any_newEntries_iff (writes.upserts.mem_done inWritten)] at isNew
    rcases writes.upserts.found key entry inWritten with
      ⟨item, found, sameId⟩
    constructor
    · cases isOld : db.item.get key with
      | none => rfl
      | some old =>
          have kept := writes.upserts.kept key old isOld
          rw [found, Option.some.injEq] at kept
          have origin := (@sameOrigin_seenBy call (discovered entries)
            old).identity
          rw [← kept, sameId] at origin
          exact absurd origin.symm (isNew key old isOld)
    · simp [found]
  · rintro ⟨missing, present⟩
    rcases Option.ne_none_iff_exists'.mp present with ⟨item, found⟩
    rcases writes.upserts.new key item missing found with
      ⟨entry, member, _, unknown⟩
    refine ⟨(key, entry), ?_, rfl⟩
    rw [List.mem_filter, any_newEntries_iff (writes.upserts.mem_done member)]
    exact ⟨member, unknown⟩

theorem Writes.nodup_newItemIds
    (writes : Writes call db entries written upserted after) :
    (newItemIds call db.item entries written).Nodup := by
  have distinctEntries : (written.map fun pair =>
      pair.2.sourceId).Nodup := by
    have distinct := nodup_discovered entries
    rw [← writes.upserts.entries, List.map_map] at distinct
    exact distinct
  apply List.Nodup.map_on _
    ((List.Nodup.of_map _ distinctEntries).filter _)
  rintro ⟨key, left⟩ isLeft ⟨other, right⟩ isRight same
  dsimp only at same
  subst same
  rcases writes.upserts.found key left (List.mem_of_mem_filter isLeft) with
    ⟨item, found, ofLeft⟩
  rcases writes.upserts.found key right (List.mem_of_mem_filter isRight) with
    ⟨item', found', ofRight⟩
  rw [found, Option.some.injEq] at found'
  rw [← found', ofLeft, Prod.mk.injEq] at ofRight
  exact List.inj_on_of_nodup_map distinctEntries
    (List.mem_of_mem_filter isLeft) (List.mem_of_mem_filter isRight)
    ofRight.2

/-- No Target names an Item which is not there. -/
def TargetsHaveItems (db : Database) : Prop :=
  ∀ key target, db.target.get key = some target →
    db.item.get target.itemId ≠ none

theorem Writes.targets
    (writes : Writes call db entries written upserted after)
    (references : TargetsHaveItems db) :
    CreatesTargets db after call.playlistId := by
  have isTarget : after.target = db.target.insertAll
      (missingTargets db.target (newItemIds call db.item entries written)
        (listEnabledForPlaylist db.playlistProfile call.playlistId)
        call.flushedAt) := by
    rw [writes.rest]
    rfl
  have isMember : ∀ {key target}, db.target.get key = none →
      after.target.get key = some target →
        target ∈ missingTargets db.target
          (newItemIds call db.item entries written)
          (listEnabledForPlaylist db.playlistProfile call.playlistId)
          call.flushedAt := by
    intro key target missing found
    rw [isTarget] at found
    exact Table.mem_of_get_insertAll missing found
  constructor
  · intro key target found
    rw [isTarget]
    exact Table.get_insertAll_of_some _ found
  · intro key target missing found
    rcases mem_missingTargets_iff.mp (isMember missing found) with
      ⟨isItem, isAssignment, isRow, _⟩
    rw [writes.mem_newItemIds_iff] at isItem
    refine ⟨?_, mem_listEnabledForPlaylist_iff.mp isAssignment, isItem.1,
      isItem.2⟩
    rw [isRow]
  · intro itemId assignmentId missing present enabled
    have isNew : ({ itemId, playlistProfileId := assignmentId,
                    updatedAt := call.flushedAt } : TargetRow) ∈
        missingTargets db.target (newItemIds call db.item entries written)
          (listEnabledForPlaylist db.playlistProfile call.playlistId)
          call.flushedAt := by
      rw [mem_missingTargets_iff]
      refine ⟨writes.mem_newItemIds_iff.mpr ⟨missing, present⟩,
        mem_listEnabledForPlaylist_iff.mpr enabled, rfl, ?_⟩
      intro key target found ofItem
      exact absurd (ofItem ▸ missing) (references key target found)
    rcases Table.exists_get_insertAll db.target isNew with
      ⟨key, isFree, found⟩
    rw [← isTarget] at found
    refine ⟨key, ⟨_, found, rfl, rfl, rfl⟩, ?_⟩
    intro other target isOther ofItem ofAssignment
    cases isOld : db.target.get other with
    | some old =>
        have kept := Table.get_insertAll_of_some (missingTargets db.target
          (newItemIds call db.item entries written)
          (listEnabledForPlaylist db.playlistProfile call.playlistId)
          call.flushedAt) isOld
        rw [← isTarget, isOther, Option.some.injEq] at kept
        rw [← kept] at isOld
        exact absurd (ofItem ▸ missing) (references other target isOld)
    | none =>
        have sameRow := (mem_missingTargets_iff.mp
          (isMember isOld isOther)).2.2.1
        rw [ofItem, ofAssignment] at sameRow
        rw [sameRow] at isOther
        rw [isTarget] at isOther found
        exact Table.insertAll_injective
          (nodup_missingTargets writes.nodup_newItemIds
            (nodup_listEnabledForPlaylist _ _)) isOld isFree isOther found

end Created

/-! ## The whole call -/

section Statistics

variable {call : Call} {db after : Database} {entries : List Entry}
  {written : List (Nat × Entry)} {upserted : Table ItemRow}

/-- Rows are counted by a list of their keys. -/
theorem count_eq_length
    {items : Table ItemRow} {condition : Nat → ItemRow → Bool}
    {keys : List Nat} (distinct : keys.Nodup)
    (listed : ∀ key, key ∈ keys ↔ ∃ item, items.get key = some item ∧
      condition key item = true) :
    items.count condition = keys.length := by
  have distinctRows : ((items.select condition).map Prod.fst).Nodup :=
    (items.ascending.imp Nat.ne_of_lt).sublist
      (List.filter_sublist.map Prod.fst)
  have sameKeys : ∀ key, key ∈ (items.select condition).map Prod.fst ↔
      key ∈ keys := by
    intro key
    rw [listed]
    simp only [List.mem_map, Prod.exists, exists_and_right, exists_eq_right,
      Table.mem_select_iff]
  have permuted := (List.perm_ext_iff_of_nodup distinctRows distinct).mpr
    sameKeys
  rw [Table.count, ← permuted.length_eq, List.length_map]

theorem Writes.count_new
    (writes : Writes call db entries written upserted after) :
    after.item.count (fun key _ => (db.item.get key).isNone) =
      (findings call db.item entries).newEntries.length := by
  have isLength : (newItemIds call db.item entries written).length =
      (findings call db.item entries).newEntries.length := by
    have filtered : (findings call db.item entries).newEntries =
        (discovered entries).filter fun entry =>
          (findings call db.item entries).newEntries.any fun new =>
            new.sourceId == entry.sourceId := by
      refine List.filter_congr fun entry member => ?_
      have isNew : entry ∈ discovered entries ∧
          (!(listForPlaylist call db.item).any fun found =>
            found.2.sourceId == entry.sourceId) = true ↔
          entry ∈ discovered entries ∧
            Unknown call db.item entry.sourceId :=
        List.mem_filter.symm.trans mem_newEntries_iff
      rw [Bool.eq_iff_iff, any_newEntries_iff member]
      simpa only [member, true_and] using isNew
    rw [filtered, newItemIds, List.length_map, ← writes.upserts.entries,
      List.filter_map, List.length_map]
    rfl
  rw [← isLength]
  apply count_eq_length writes.nodup_newItemIds
  intro key
  rw [writes.mem_newItemIds_iff, Option.ne_none_iff_exists']
  constructor
  · rintro ⟨missing, item, found⟩
    exact ⟨item, found, by rw [missing]; rfl⟩
  · rintro ⟨item, found, missing⟩
    exact ⟨Option.isNone_iff_eq_none.mp missing, item, found⟩

/-- An Item which was active, and is delisted now. -/
def wasDelisted (db : Database) (key : Nat) (item : ItemRow) : Bool :=
  item.membership == .delisted &&
    (db.item.get key).any fun old => old.membership == .active

theorem Writes.count_delisted
    (writes : Writes call db entries written upserted after) :
    after.item.count (wasDelisted db) =
      (findings call db.item entries).delisted.length := by
  apply count_eq_length (nodup_keys_filter _)
  intro key
  constructor
  · intro member
    rcases mem_delisted_iff.mp member with
      ⟨old, isOld, inPlaylist, isActive, absent⟩
    refine ⟨_, writes.absent isOld inPlaylist absent, ?_⟩
    simp [wasDelisted, isOld, isActive, setMembership]
  · rintro ⟨item, found, wasDelisted⟩
    simp only [Discovery.wasDelisted, Bool.and_eq_true, beq_iff_eq,
      Option.any_eq_true] at wasDelisted
    rcases wasDelisted with ⟨isDelisted, old, isOld, wasActive⟩
    by_cases inPlaylist : old.playlistId = call.playlistId
    · by_cases present : IsDiscovered entries old.sourceId
      · rcases writes.present isOld inPlaylist present with
          ⟨entry, _, _, isNow⟩
        rw [found, Option.some.injEq, if_neg (by simp [wasActive])] at isNow
        rw [isNow] at isDelisted
        change old.membership = .delisted at isDelisted
        rw [wasActive] at isDelisted
        cases isDelisted
      · exact mem_delisted_iff.mpr
          ⟨old, isOld, inPlaylist, wasActive, present⟩
    · have isNow := writes.other isOld inPlaylist
      rw [found, Option.some.injEq] at isNow
      rw [isNow, wasActive] at isDelisted
      cases isDelisted

end Statistics

/-- A Playlist in line with what was discovered. -/
structure Reconciles (call : Call) (db : Database) (entries : List Entry)
    (stats : SyncStats) (after : Database) : Prop where
  active : ∀ sourceId, (∃ key item, after.item.get key = some item ∧
    item.playlistId = call.playlistId ∧ item.sourceId = sourceId ∧
    item.membership = .active) ↔ IsDiscovered entries sourceId
  onePerId : after.item.UniqueBy identity
  absent : ∀ key item, db.item.get key = some item →
    item.playlistId = call.playlistId →
      ¬ IsDiscovered entries item.sourceId →
        after.item.get key = some
          (if item.membership = .active then
            { item with membership := .delisted
                        delistedAt := some call.observedAt }
          else item)
  present : ∀ key item, db.item.get key = some item →
    item.playlistId = call.playlistId →
      IsDiscovered entries item.sourceId →
        ∃ entry now, entry ∈ discovered entries ∧
          entry.sourceId = item.sourceId ∧
          after.item.get key = some now ∧
          now = { writeEntry call entry item with
            membership := .active, delistedAt := now.delistedAt } ∧
          now.firstSeenAt = item.firstSeenAt ∧
          now.delistedAt =
            if item.membership = .delisted then none else item.delistedAt
  new : ∀ key item, db.item.get key = none →
    after.item.get key = some item →
      ∃ entry ∈ discovered entries, item = newItem call entry ∧
        Unknown call db.item entry.sourceId
  targets : CreatesTargets db after call.playlistId
  /-- The Items of other Playlists, and all other tables. -/
  elsewhere : ∀ key item, db.item.get key = some item →
    item.playlistId ≠ call.playlistId → after.item.get key = some item
  playlists : ∀ key, key ≠ call.playlistId →
    after.playlist.get key = db.playlist.get key
  frame : after = { db with
    item := after.item, target := after.target, playlist := after.playlist }
  statistics : stats =
    { newItems := after.item.count fun key _ => (db.item.get key).isNone
      delistedItems := after.item.count (wasDelisted db) }

theorem Writes.reconciles
    {call : Call} {db after : Database} {entries : List Entry}
    {written : List (Nat × Entry)} {upserted : Table ItemRow}
    (writes : Writes call db entries written upserted after)
    (references : TargetsHaveItems db) :
    Reconciles call db entries
      { newItems := (findings call db.item entries).newEntries.length
        delistedItems := (findings call db.item entries).delisted.length }
      after where
  active := writes.active_iff
  onePerId := writes.unique
  absent _ _ found inPlaylist absent :=
    writes.absent found inPlaylist absent
  present key item found inPlaylist present := by
    rcases writes.present found inPlaylist present with
      ⟨entry, member, sameId, isNow⟩
    refine ⟨entry, _, member, sameId, isNow, ?_, ?_, ?_⟩
    · split
      · rfl
      · next notDelisted =>
          have isActive : item.membership = .active := by
            cases isMembership : item.membership with
            | active => rfl
            | delisted => exact absurd isMembership notDelisted
          simp only [writeEntry, isActive]
    · split <;> rfl
    · split <;> rfl
  new key item missing found := by
    rw [writes.new missing] at found
    rcases writes.upserts.new key item missing found with
      ⟨entry, member, isItem, unknown⟩
    exact ⟨entry, writes.upserts.mem_done member, isItem, unknown⟩
  targets := writes.targets references
  elsewhere _ _ found elsewhere := writes.other found elsewhere
  playlists key other := by
    rw [writes.rest]
    exact Table.get_modify_of_ne _ _ other
  frame := by
    rw [writes.rest]
  statistics := by
    rw [writes.count_new, writes.count_delisted]

theorem discovered_isEmpty_iff (entries : List Entry) :
    (discovered entries).isEmpty = true ↔
      ¬ ∃ sourceId, IsDiscovered entries sourceId := by
  simp only [← mem_ids_discovered_iff]
  cases discovered entries with
  | nil => simp
  | cons entry rest =>
      simp only [List.isEmpty_cons, Bool.false_eq_true, false_iff, not_not]
      exact ⟨entry.sourceId, List.mem_map_of_mem List.mem_cons_self⟩

/-- A discovery reconciles the Playlist, or changes nothing. -/
theorem apply_discovery_reconciles
    (call : Call) {db : Database} (unique : db.item.UniqueBy identity)
    (references : TargetsHaveItems db) (entries : List Entry)
    (dryRun : Bool) :
    (dryRun = false → (∃ sourceId, IsDiscovered entries sourceId) →
      (Returns (applyDiscovery call db entries dryRun).1 ↔
        db.playlist.get call.playlistId ≠ none ∧
          ∀ entry ∈ discovered entries, call.storable entry = true) ∧
      ∀ stats, (applyDiscovery call db entries dryRun).1 = .ok stats →
        Reconciles call db entries stats
          (applyDiscovery call db entries dryRun).2) ∧
    (dryRun = true ∨ (¬ ∃ sourceId, IsDiscovered entries sourceId) ∨
      ¬ Returns (applyDiscovery call db entries dryRun).1 →
        (applyDiscovery call db entries dryRun).2 = db) := by
  constructor
  · rintro rfl hasId
    have notEmpty : ¬ (discovered entries).isEmpty = true := by
      rw [discovered_isEmpty_iff, not_not]
      exact hasId
    have returns := @returns_writeDiscovery call db entries unique
    simp only [applyDiscovery, if_neg notEmpty, Bool.false_eq_true, if_false]
    cases isWritten : writeDiscovery call db entries with
    | error message =>
        rw [isWritten] at returns
        constructor
        · rw [← returns]
          exact iff_of_false (not_returns_error _) (not_returns_error _)
        · intro stats impossible
          cases impossible
    | ok after =>
        rw [isWritten] at returns
        constructor
        · rw [← returns]
          exact iff_of_true (returns_ok _) (returns_ok _)
        · intro stats isStats
          cases isStats
          rcases writes_of_ok unique isWritten with
            ⟨written, upserted, writes⟩
          exact writes.reconciles references
  · intro changesNothing
    unfold applyDiscovery
    split
    · rfl
    · next notEmpty =>
        dsimp only
        split
        · rfl
        · next notDry =>
            split
            · next after isWritten =>
                exfalso
                rcases changesNothing with isDry | noId | raises
                · exact notDry isDry
                · exact notEmpty ((discovered_isEmpty_iff entries).mpr noId)
                · apply raises
                  simp [applyDiscovery, notEmpty, notDry, isWritten]
            · rfl

/-- A Playlist with an active and a delisted Item, and one assignment. -/
def twoItems : Database where
  playlist :=
    Table.empty.insert { name := "clips", folderName := "clips" }
  playlistProfile := Table.empty.insert
    { playlistId := 1, profileId := 1, storageId := 1 }
  item := (Table.empty.insert { playlistId := 1, sourceId := "gone" }).insert
    { playlistId := 1, sourceId := "back", membership := .delisted,
      delistedAt := some 5 }

/-- Everything can be stored. -/
def nightly : Call where
  playlistId := 1
  observedAt := 10
  flushedAt := 11
  storable _ := true

/-- One Item is back, one is new and listed twice, one is gone. -/
def threeEntries : List Entry :=
  [{ sourceId := "new", sourceUrl := "https://example.com/old" },
    { sourceId := "back", sourceUrl := "https://example.com/back" },
    { sourceId := "new", sourceUrl := "https://example.com/new" }]

theorem apply_discovery_reconciles_threeEntries :
    Reconciles nightly twoItems threeEntries
      { newItems := 1, delistedItems := 1 }
      (applyDiscovery nightly twoItems threeEntries false).2 := by
  have unique : twoItems.item.UniqueBy identity :=
    Table.uniqueBy_of_nodup (by decide)
  have references : TargetsHaveItems twoItems := by
    intro key target found
    cases found
  have isOk : (applyDiscovery nightly twoItems threeEntries false).1 =
      .ok { newItems := 1, delistedItems := 1 } := by
    decide +kernel
  exact ((apply_discovery_reconciles nightly unique references threeEntries
    false).1 rfl ⟨"new", by decide, _, List.mem_cons_self, rfl⟩).2 _ isOk

end Sluicery.Core.Discovery
