import Sluicery.Library.Table

/-!
# Columns whose values name one row

A column is unique in a table when no two rows share its value.  An update
of one row keeps this when the new value is free; an update of several rows
keeps it when the new values differ from each other and from those of the
rows it leaves alone, whatever the rows it changes held before.
-/

namespace Sluicery.Library.Table

universe u v

variable {Row : Type u} {Value : Type v} {column : Row → Value}

/-- No two rows have the same value. -/
def UniqueBy (table : Table Row) (column : Row → Value) : Prop :=
  ∀ left right leftRow rightRow, table.get left = some leftRow →
    table.get right = some rightRow → column leftRow = column rightRow →
      left = right

/-- No other row has the value. -/
def FreeFor (table : Table Row) (column : Row → Value) (key : Nat)
    (value : Value) : Prop :=
  ∀ other row, table.get other = some row → column row = value → other = key

theorem uniqueBy_of_nodup
    {table : Table Row}
    (distinct : (table.rows.map fun entry => column entry.2).Nodup) :
    table.UniqueBy column := by
  intro left right leftRow rightRow foundLeft foundRight same
  rw [get_eq_some_iff] at foundLeft foundRight
  have sameEntry : (left, leftRow) = (right, rightRow) :=
    List.inj_on_of_nodup_map distinct foundLeft foundRight same
  exact congrArg Prod.fst sameEntry

/-- An update of the rows with the given keys. -/
theorem UniqueBy.relocate
    {before after : Table Row} (unique : before.UniqueBy column)
    (moved : Nat → Prop)
    (kept : ∀ key row, after.get key = some row → ¬ moved key →
      ∃ old, before.get key = some old ∧ column old = column row)
    (distinct : ∀ left right leftRow rightRow, moved left → moved right →
      after.get left = some leftRow → after.get right = some rightRow →
        column leftRow = column rightRow → left = right)
    (free : ∀ key row other old, moved key → after.get key = some row →
      before.get other = some old → column old = column row →
        moved other) :
    after.UniqueBy column := by
  intro left right leftRow rightRow foundLeft foundRight same
  by_cases leftMoved : moved left
  · by_cases rightMoved : moved right
    · exact distinct left right leftRow rightRow leftMoved rightMoved
        foundLeft foundRight same
    · rcases kept right rightRow foundRight rightMoved with
        ⟨old, foundOld, sameOld⟩
      exact absurd (free left leftRow right old leftMoved foundLeft foundOld
        (sameOld.trans same.symm)) rightMoved
  · rcases kept left leftRow foundLeft leftMoved with
      ⟨leftOld, foundLeftOld, sameLeft⟩
    by_cases rightMoved : moved right
    · exact absurd (free right rightRow left leftOld rightMoved foundRight
        foundLeftOld (sameLeft.trans same)) leftMoved
    · rcases kept right rightRow foundRight rightMoved with
        ⟨rightOld, foundRightOld, sameRight⟩
      apply unique left right leftOld rightOld foundLeftOld foundRightOld
      rw [sameLeft, sameRight, same]

/-- An update of one row to a free value. -/
theorem UniqueBy.modify
    {table : Table Row} (unique : table.UniqueBy column) {key : Nat}
    {change : Row → Row}
    (free : ∀ row, table.get key = some row →
      table.FreeFor column key (column (change row))) :
    (table.modify key change).UniqueBy column := by
  apply unique.relocate (· = key)
  · intro other row found notKey
    rw [get_modify_of_ne _ _ notKey] at found
    exact ⟨row, found, rfl⟩
  · rintro left right - - rfl rfl - - -
    rfl
  · rintro key row other old rfl found foundOld same
    rw [get_modify_self, Option.map_eq_some_iff] at found
    rcases found with ⟨before, foundBefore, rfl⟩
    exact free before foundBefore other old foundOld same

/-- A row which is there keeps its value. -/
theorem UniqueBy.freeFor
    {table : Table Row} (unique : table.UniqueBy column) {key : Nat}
    {row : Row} (found : table.get key = some row) :
    table.FreeFor column key (column row) :=
  fun other otherRow foundOther same =>
    unique other key otherRow row foundOther found same

/-- An update which leaves the column alone. -/
theorem UniqueBy.modify_same
    {table : Table Row} (unique : table.UniqueBy column) {key : Nat}
    {change : Row → Row} (same : ∀ row, column (change row) = column row) :
    (table.modify key change).UniqueBy column := by
  apply unique.modify
  intro row found
  rw [same row]
  exact unique.freeFor found

/-- A new row with a value which no row has. -/
theorem UniqueBy.insert
    {table : Table Row} (unique : table.UniqueBy column) {row : Row}
    (fresh : ∀ other old, table.get other = some old →
      column old ≠ column row) :
    (table.insert row).UniqueBy column := by
  apply unique.relocate (· = table.nextKey)
  · intro key other found old
    rw [get_insert, if_neg old] at found
    exact ⟨other, found, rfl⟩
  · rintro left right - - rfl rfl - - -
    rfl
  · rintro key new other old rfl found foundOld same
    rw [get_insert_nextKey] at found
    cases found
    exact absurd same (fresh other old foundOld)

/-- A value which another row has makes the column no key. -/
theorem not_uniqueBy_modify
    {table : Table Row} {key : Nat} {change : Row → Row} {row : Row}
    (found : table.get key = some row)
    (taken : ¬ table.FreeFor column key (column (change row))) :
    ¬ (table.modify key change).UniqueBy column := by
  intro unique
  apply taken
  intro other otherRow foundOther same
  by_contra notKey
  apply notKey
  apply unique other key otherRow (change row)
  · rw [get_modify_of_ne _ _ notKey, foundOther]
  · rw [get_modify_self, found, Option.map_some]
  · exact same

end Sluicery.Library.Table
