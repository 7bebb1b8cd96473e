import Sluicery.Db.Models
import Sluicery.Library.Insertions
import Sluicery.Library.Keyed
import Sluicery.Library.UniqueColumn
import Mathlib.Data.List.Sort

/-!
# Applying a discovery

`apply_discovery` brings the Items of a Playlist in line with what yt-dlp has
listed: it writes the entries, delists the Items which are gone, brings back
those which reappear, and creates the Targets of new Items.  All of it is one
transaction, which an exception rolls back.
-/

namespace Sluicery.Core.Discovery

open Sluicery.Library Sluicery.Db

/-! ## Items -/

/-- An entry of a discovery; one without an id has the empty id. -/
structure Entry where
  sourceId : String
  sourceUrl : String
  title : Option String := none
  uploader : Option String := none
  duration : Option Int := none
  uploadDate : Option String := none
  playlistIndex : Option Int := none
  metadataJson : Json.Fields := []
deriving DecidableEq

/-- The call: the Playlist and the times, and what SQLite can store. -/
structure Call where
  playlistId : Nat
  observedAt : Time
  /-- When new Items are flushed. -/
  flushedAt : Time
  storable : Entry → Bool

section Items

variable (call : Call)

/-- `list_for_playlist`. -/
def listForPlaylist (items : Table ItemRow) : List (Nat × ItemRow) :=
  items.select fun _ item => item.playlistId == call.playlistId

/-- `get_by_source_id`. -/
def getBySourceId (items : Table ItemRow) (sourceId : String) :
    Option (Nat × ItemRow) :=
  (items.select fun _ item =>
    item.playlistId == call.playlistId && item.sourceId == sourceId).head?

/-- The columns which a discovery writes. -/
def writeEntry (entry : Entry) (item : ItemRow) : ItemRow :=
  { item with
    sourceId := entry.sourceId
    sourceUrl := entry.sourceUrl
    title := entry.title
    uploader := entry.uploader
    duration := entry.duration
    uploadDate := entry.uploadDate
    playlistIndex := entry.playlistIndex
    metadataJson := some entry.metadataJson
    lastSeenAt := call.observedAt }

/-- A new Item. -/
def newItem (entry : Entry) : ItemRow :=
  writeEntry call entry
    { playlistId := call.playlistId, sourceId := entry.sourceId
      firstSeenAt := call.flushedAt }

/-- One turn of `upsert_many`, with the keys of the Items so far. -/
def upsert (hasPlaylist : Bool) (done : List (Nat × Entry) × Table ItemRow)
    (entry : Entry) :
    Except String (List (Nat × Entry) × Table ItemRow) :=
  if ¬ call.storable entry then
    .error "SQLiteに保存できない値です"
  else
    match getBySourceId call done.2 entry.sourceId with
    | some (key, _) =>
        .ok (done.1 ++ [(key, entry)],
          done.2.modify key (writeEntry call entry))
    | none =>
        if hasPlaylist then
          .ok (done.1 ++ [(done.2.nextKey, entry)],
            done.2.insert (newItem call entry))
        else .error "FOREIGN KEY constraint failed"

/-- `upsert_many`. -/
def upsertMany (hasPlaylist : Bool) (items : Table ItemRow)
    (entries : List Entry) :
    Except String (List (Nat × Entry) × Table ItemRow) :=
  entries.foldlM (upsert call hasPlaylist) ([], items)

/-- `compare_and_set_membership`, for an Item with another membership. -/
def setMembership (membership : ItemMembership) (item : ItemRow) : ItemRow :=
  match membership with
  | .delisted =>
      { item with membership := .delisted, delistedAt := some call.observedAt }
  | .active =>
      { item with membership := .active, delistedAt := none,
                  lastSeenAt := call.observedAt }

/-- `ItemMembership.value`. -/
def membershipValue : ItemMembership → String
  | .active => "active"
  | .delisted => "delisted"

/-- `transition_item`. -/
def transitionItem (membership : ItemMembership) (items : Table ItemRow)
    (itemId : Nat) : Except String (Table ItemRow) :=
  match items.get itemId with
  | none => .error ("Item " ++ toString itemId ++ " が見つかりません")
  | some item =>
      if item.membership = membership then
        .error ("Item: " ++ membershipValue item.membership ++ " -> " ++
          membershipValue membership)
      else .ok (items.modify itemId (setMembership call membership))

end Items

/-! ## Targets -/

/-- `list_enabled_for_playlist`. -/
def listEnabledForPlaylist (assignments : Table PlaylistProfileRow)
    (playlistId : Nat) : List Nat :=
  ((assignments.select fun _ assignment =>
      assignment.playlistId == playlistId && assignment.enabled).mergeSort
    fun left right =>
      decide (left.2.sortOrder < right.2.sortOrder ∨
        left.2.sortOrder = right.2.sortOrder ∧ left.1 ≤ right.1)).map Prod.fst

/-- `create_missing_for_items`. -/
def createMissingForItems (targets : Table TargetRow)
    (itemIds playlistProfileIds : List Nat) (now : Time) : Table TargetRow :=
  let missing := (itemIds.flatMap fun itemId =>
      playlistProfileIds.map fun profileId => (itemId, profileId)).filter
    fun pair => !targets.any fun _ target =>
      target.itemId == pair.1 && target.playlistProfileId == pair.2
  targets.insertAll (missing.map fun pair =>
    { itemId := pair.1, playlistProfileId := pair.2, updatedAt := now })

/-! ## `apply_discovery` -/

structure SyncStats where
  newItems : Nat := 0
  delistedItems : Nat := 0
  targetsQueued : Nat := 0
  targetsRemaining : Nat := 0
  downloaded : Nat := 0
  failed : Nat := 0
  blocked : Nat := 0
  emptyResult : Bool := false
deriving DecidableEq, Repr

/-- The entries by id; of a repeated id the last one counts. -/
def discovered (entries : List Entry) : List Entry :=
  Keyed.collect Entry.sourceId
    (entries.filter fun entry => entry.sourceId != "")

/-- What a discovery finds before it writes. -/
structure Findings where
  newEntries : List Entry
  delisted : List Nat
  reappeared : List Nat

def findings (call : Call) (items : Table ItemRow) (entries : List Entry) :
    Findings :=
  let existing := listForPlaylist call items
  let isDiscovered (item : ItemRow) : Bool :=
    (discovered entries).any fun entry => entry.sourceId == item.sourceId
  { newEntries := (discovered entries).filter fun entry =>
      !existing.any fun found => found.2.sourceId == entry.sourceId
    delisted := (existing.filter fun found =>
      found.2.membership == .active && !isDiscovered found.2).map Prod.fst
    reappeared := (existing.filter fun found =>
      found.2.membership == .delisted && isDiscovered found.2).map Prod.fst }

/-- The writes, up to the commit. -/
def writeDiscovery (call : Call) (db : Database) (entries : List Entry) :
    Except String Database := do
  let found := findings call db.item entries
  let hasPlaylist := (db.playlist.get call.playlistId).isSome
  let upserted ← upsertMany call hasPlaylist db.item (discovered entries)
  let delisted ←
    found.delisted.foldlM (transitionItem call .delisted) upserted.2
  let item ← found.reappeared.foldlM (transitionItem call .active) delisted
  let newItemIds := (upserted.1.filter fun written =>
    found.newEntries.any fun entry =>
      entry.sourceId == written.2.sourceId).map Prod.fst
  let target := createMissingForItems db.target newItemIds
    (listEnabledForPlaylist db.playlistProfile call.playlistId)
    call.flushedAt
  if hasPlaylist then
    return { db with
      item, target
      playlist := db.playlist.modify call.playlistId fun playlist =>
        { playlist with lastDiscoverAt := some call.observedAt } }
  else
    .error ("Playlist " ++ toString call.playlistId ++ " が見つかりません")

/-- `apply_discovery`; what was written before an exception is rolled back. -/
def applyDiscovery (call : Call) (db : Database) (entries : List Entry)
    (dryRun : Bool) : Except String SyncStats × Database :=
  if (discovered entries).isEmpty then (.ok { emptyResult := true }, db)
  else
    let found := findings call db.item entries
    let stats : SyncStats :=
      { newItems := found.newEntries.length
        delistedItems := found.delisted.length }
    if dryRun then (.ok stats, db)
    else
      match writeDiscovery call db entries with
      | .ok after => (.ok stats, after)
      | .error message => (.error message, db)

end Sluicery.Core.Discovery
