import Mathlib.Data.List.Pairwise
import Mathlib.Data.List.Nodup

/-!
# Relational tables with integer primary keys

A table is a list of keyed rows in ascending key order.  The order is carried
as a field, so a table with a repeated key cannot be built.  The operations
are the four statements a repository layer issues against one table: lookup
by key, `INSERT` with the next key, `UPDATE ... WHERE` and `DELETE` by key.

Every operation has one lemma which says what `get` returns afterwards, and
`ext_get` says that `get` determines the table.  Nothing outside this module
needs to look at the list of rows, except for a `SELECT` in key order.
-/

namespace Sluicery.Library

universe u

/-- Keyed rows in strictly ascending key order. -/
structure Table (Row : Type u) where
  rows : List (Nat × Row)
  ascending : (rows.map Prod.fst).Pairwise (· < ·)

namespace Table

variable {Row : Type u}

/-! ## Statements -/

/-- The table without rows. -/
def empty : Table Row := ⟨[], List.Pairwise.nil⟩

/-- Lookup by primary key. -/
def get (table : Table Row) (key : Nat) : Option Row :=
  (table.rows.find? fun entry => entry.1 == key).map Prod.snd

/-- The key of the next inserted row: one past the greatest key in use. -/
def nextKey (table : Table Row) : Nat :=
  match table.rows.getLast? with
  | none => 1
  | some entry => entry.1 + 1

/-- `SELECT * WHERE`, in key order. -/
def select (table : Table Row) (condition : Nat → Row → Bool) :
    List (Nat × Row) :=
  table.rows.filter fun entry => condition entry.1 entry.2

/-- `SELECT count(*) WHERE`, which is also the row count of an `UPDATE`. -/
def count (table : Table Row) (condition : Nat → Row → Bool) : Nat :=
  (table.select condition).length

/-- `EXISTS (SELECT * WHERE)`. -/
def any (table : Table Row) (condition : Nat → Row → Bool) : Bool :=
  table.rows.any fun entry => condition entry.1 entry.2

/-- `UPDATE ... SET change WHERE condition`. -/
def updateWhere (table : Table Row)
    (condition : Nat → Row → Bool) (change : Row → Row) : Table Row where
  rows := table.rows.map fun entry =>
    (entry.1, if condition entry.1 entry.2 then change entry.2 else entry.2)
  ascending := by
    simpa [List.map_map, Function.comp_def] using table.ascending

/-- `DELETE` of one row. -/
def erase (table : Table Row) (key : Nat) : Table Row where
  rows := table.rows.filter fun entry => entry.1 != key
  ascending :=
    table.ascending.sublist (List.filter_sublist.map Prod.fst)

/-- `DELETE WHERE condition`. -/
def deleteWhere (table : Table Row) (condition : Nat → Row → Bool) :
    Table Row where
  rows := table.rows.filter fun entry => !condition entry.1 entry.2
  ascending :=
    table.ascending.sublist (List.filter_sublist.map Prod.fst)

theorem le_getLast_of_mem
    {entries : List (Nat × Row)} {entry last : Nat × Row}
    (ascending : (entries.map Prod.fst).Pairwise (· < ·))
    (member : entry ∈ entries)
    (isLast : entries.getLast? = some last) :
    entry.1 ≤ last.1 := by
  obtain ⟨front, rfl⟩ := List.getLast?_eq_some_iff.mp isLast
  rw [List.map_append, List.pairwise_append] at ascending
  rcases List.mem_append.mp member with inFront | isEntry
  · exact Nat.le_of_lt
      (ascending.2.2 _ (List.mem_map_of_mem inFront) _ (by simp))
  · simp only [List.mem_singleton] at isEntry
    exact Nat.le_of_eq (by rw [isEntry])

/-- Every key in use lies below the next key. -/
theorem lt_nextKey_of_mem
    (table : Table Row) {entry : Nat × Row}
    (member : entry ∈ table.rows) :
    entry.1 < table.nextKey := by
  unfold nextKey
  cases isLast : table.rows.getLast? with
  | none =>
      rw [List.getLast?_eq_none_iff] at isLast
      simp [isLast] at member
  | some last =>
      exact Nat.lt_succ_of_le
        (le_getLast_of_mem table.ascending member isLast)

/-- `INSERT` of one row under the next key. -/
def insert (table : Table Row) (row : Row) : Table Row where
  rows := table.rows ++ [(table.nextKey, row)]
  ascending := by
    rw [List.map_append, List.pairwise_append]
    refine ⟨table.ascending, by simp, ?_⟩
    intro key inKeys next isNext
    obtain ⟨entry, member, rfl⟩ := List.mem_map.mp inKeys
    simp only [List.map_cons, List.map_nil, List.mem_singleton] at isNext
    rw [isNext]
    exact table.lt_nextKey_of_mem member

/-! ## What `get` returns -/

theorem get_eq_some_iff
    (table : Table Row) (key : Nat) (row : Row) :
    table.get key = some row ↔ (key, row) ∈ table.rows := by
  unfold get
  constructor
  · intro found
    obtain ⟨entry, isEntry, rfl⟩ := Option.map_eq_some_iff.mp found
    have sameKey := List.find?_some isEntry
    simp only [beq_iff_eq] at sameKey
    rw [← sameKey]
    exact List.mem_of_find?_eq_some isEntry
  · intro member
    have distinct : (table.rows.map Prod.fst).Nodup :=
      table.ascending.imp Nat.ne_of_lt
    cases found : table.rows.find? (fun entry => entry.1 == key) with
    | none =>
        have absent := List.find?_eq_none.mp found _ member
        simp at absent
    | some entry =>
        have sameKey := List.find?_some found
        simp only [beq_iff_eq] at sameKey
        have sameEntry : entry = (key, row) :=
          List.inj_on_of_nodup_map distinct
            (List.mem_of_find?_eq_some found) member sameKey
        simp [sameEntry]

@[simp]
theorem get_empty (key : Nat) : (empty : Table Row).get key = none := rfl

theorem get_nextKey (table : Table Row) : table.get table.nextKey = none := by
  cases found : table.get table.nextKey with
  | none => rfl
  | some row =>
      have below :=
        table.lt_nextKey_of_mem ((table.get_eq_some_iff _ _).mp found)
      exact absurd below (Nat.lt_irrefl _)

theorem lt_nextKey
    {table : Table Row} {key : Nat} {row : Row}
    (found : table.get key = some row) :
    key < table.nextKey :=
  table.lt_nextKey_of_mem ((table.get_eq_some_iff key row).mp found)

theorem get_insert (table : Table Row) (row : Row) (key : Nat) :
    (table.insert row).get key =
      if key = table.nextKey then some row else table.get key := by
  split
  · next isNext =>
      rw [isNext, get_eq_some_iff]
      simp [insert]
  · next notNext =>
      apply Option.ext
      intro found
      rw [get_eq_some_iff, get_eq_some_iff]
      simp [insert, notNext]

@[simp]
theorem get_insert_nextKey (table : Table Row) (row : Row) :
    (table.insert row).get table.nextKey = some row := by
  rw [get_insert, if_pos rfl]

theorem get_insert_of_some
    {table : Table Row} {key : Nat} {row : Row} (inserted : Row)
    (found : table.get key = some row) :
    (table.insert inserted).get key = some row := by
  rw [get_insert, if_neg (Nat.ne_of_lt (lt_nextKey found)), found]

/-- A key which an insertion takes holds the inserted row. -/
theorem eq_of_get_insert
    {table : Table Row} {inserted row : Row} {key : Nat}
    (missing : table.get key = none)
    (found : (table.insert inserted).get key = some row) :
    row = inserted := by
  rw [get_insert, missing] at found
  split at found
  · exact (Option.some.inj found).symm
  · cases found

/-- A key which is free after an insertion was free before. -/
theorem get_of_get_insert
    {table : Table Row} {row : Row} {key : Nat}
    (missing : (table.insert row).get key = none) :
    table.get key = none := by
  cases found : table.get key with
  | none => rfl
  | some old =>
      rw [get_insert_of_some row found] at missing
      cases missing

@[simp]
theorem nextKey_insert (table : Table Row) (row : Row) :
    (table.insert row).nextKey = table.nextKey + 1 := by
  simp [nextKey, insert]

theorem get_updateWhere
    (table : Table Row) (condition : Nat → Row → Bool) (change : Row → Row)
    (key : Nat) :
    (table.updateWhere condition change).get key =
      (table.get key).map fun row =>
        if condition key row then change row else row := by
  apply Option.ext
  intro updated
  rw [get_eq_some_iff, Option.map_eq_some_iff]
  simp only [updateWhere, List.mem_map, Prod.mk.injEq, Prod.exists]
  constructor
  · rintro ⟨key, row, member, rfl, rfl⟩
    exact ⟨row, (table.get_eq_some_iff _ _).mpr member, rfl⟩
  · rintro ⟨row, found, rfl⟩
    exact ⟨key, row, (table.get_eq_some_iff _ _).mp found, rfl, rfl⟩

theorem get_erase (table : Table Row) (erased key : Nat) :
    (table.erase erased).get key =
      if key = erased then none else table.get key := by
  apply Option.ext
  intro row
  rw [get_eq_some_iff]
  simp only [erase, List.mem_filter, bne_iff_ne, ne_eq,
    ← get_eq_some_iff]
  split
  · next same => simp [same]
  · next other => simp [other]

theorem get_deleteWhere_eq_some_iff
    (table : Table Row) (condition : Nat → Row → Bool) (key : Nat)
    (row : Row) :
    (table.deleteWhere condition).get key = some row ↔
      table.get key = some row ∧ condition key row = false := by
  rw [get_eq_some_iff, get_eq_some_iff, deleteWhere, List.mem_filter,
    Bool.not_eq_true']

theorem any_eq_true_iff
    (table : Table Row) (condition : Nat → Row → Bool) :
    table.any condition = true ↔
      ∃ key row, table.get key = some row ∧ condition key row = true := by
  simp only [any, List.any_eq_true, Prod.exists, get_eq_some_iff]

theorem mem_select_iff
    (table : Table Row) (condition : Nat → Row → Bool)
    (key : Nat) (row : Row) :
    (key, row) ∈ table.select condition ↔
      table.get key = some row ∧ condition key row = true := by
  simp only [select, List.mem_filter, get_eq_some_iff]

theorem count_pos_iff
    (table : Table Row) (condition : Nat → Row → Bool) :
    0 < table.count condition ↔
      ∃ key row, table.get key = some row ∧ condition key row = true := by
  rw [count, List.length_pos_iff_exists_mem, Prod.exists]
  simp only [mem_select_iff]

/-- No more rows meet a condition than there are keys for them. -/
theorem count_le_of_keys
    (table : Table Row) (condition : Nat → Row → Bool) (keys : List Nat)
    (listed : ∀ key row, table.get key = some row →
      condition key row = true → key ∈ keys) :
    table.count condition ≤ keys.length := by
  have distinct : ((table.select condition).map Prod.fst).Nodup :=
    (table.ascending.imp Nat.ne_of_lt).sublist (List.filter_sublist.map _)
  have contained : (table.select condition).map Prod.fst ⊆ keys := by
    intro key member
    rcases List.mem_map.mp member with ⟨⟨other, row⟩, isRow, rfl⟩
    rw [mem_select_iff] at isRow
    exact listed other row isRow.1 isRow.2
  have lengths := distinct.length_le_of_subset contained
  rwa [List.length_map] at lengths

/-! ## Updates of one row -/

/-- `UPDATE ... WHERE id = key`. -/
def modify (table : Table Row) (key : Nat) (change : Row → Row) :
    Table Row :=
  table.updateWhere (fun other _ => other == key) change

theorem get_modify
    (table : Table Row) (changed : Nat) (change : Row → Row) (key : Nat) :
    (table.modify changed change).get key =
      if key = changed then (table.get key).map change
      else table.get key := by
  rw [modify, get_updateWhere]
  by_cases same : key = changed
  · simp [same]
  · simp [same]

@[simp]
theorem get_modify_self
    (table : Table Row) (key : Nat) (change : Row → Row) :
    (table.modify key change).get key = (table.get key).map change := by
  rw [get_modify, if_pos rfl]

theorem get_modify_of_ne
    (table : Table Row) {changed key : Nat} (change : Row → Row)
    (other : key ≠ changed) :
    (table.modify changed change).get key = table.get key := by
  rw [get_modify, if_neg other]

/-! ## Equality -/

private theorem rows_eq_of_mem_iff
    {left right : List (Nat × Row)}
    (leftAscending : (left.map Prod.fst).Pairwise (· < ·))
    (rightAscending : (right.map Prod.fst).Pairwise (· < ·))
    (same : ∀ entry, entry ∈ left ↔ entry ∈ right) :
    left = right := by
  have perm : left.Perm right := by
    refine (List.perm_ext_iff_of_nodup ?_ ?_).mpr same
    · exact List.Nodup.of_map _ (leftAscending.imp Nat.ne_of_lt)
    · exact List.Nodup.of_map _ (rightAscending.imp Nat.ne_of_lt)
  rw [List.pairwise_map] at leftAscending rightAscending
  exact perm.eq_of_pairwise
    (fun _ _ _ _ below above => absurd below (Nat.lt_asymm above))
    leftAscending rightAscending

/-- A table is determined by its lookups. -/
theorem ext_get
    {left right : Table Row}
    (same : ∀ key, left.get key = right.get key) :
    left = right := by
  have sameRows : left.rows = right.rows := by
    apply rows_eq_of_mem_iff left.ascending right.ascending
    rintro ⟨key, row⟩
    rw [← get_eq_some_iff, ← get_eq_some_iff, same key]
  cases left
  cases right
  simpa using sameRows

/-- Only the row in the table matters to an update of one row. -/
theorem modify_congr
    {table : Table Row} {key : Nat} {row : Row} {left right : Row → Row}
    (found : table.get key = some row) (same : left row = right row) :
    table.modify key left = table.modify key right := by
  apply ext_get
  intro other
  rw [get_modify, get_modify]
  by_cases isKey : other = key
  · rw [if_pos isKey, if_pos isKey, isKey, found, Option.map_some,
      Option.map_some, same]
  · rw [if_neg isKey, if_neg isKey]

/-- An `UPDATE` whose condition holds of no row changes nothing. -/
theorem updateWhere_eq_self
    {table : Table Row} {condition : Nat → Row → Bool} (change : Row → Row)
    (never : ∀ key row, table.get key = some row →
      condition key row = false) :
    table.updateWhere condition change = table := by
  apply ext_get
  intro key
  rw [get_updateWhere]
  cases found : table.get key with
  | none => rfl
  | some row => simp [never key row found]

end Table

end Sluicery.Library
