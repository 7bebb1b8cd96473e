import Sluicery.Library.Table

/-!
# What a step does to the rows of a table

A step which inserts and deletes nothing is described by the relation between
a row before and after it.  The relation knows the key of the row, and a
reflexive one allows that rows stay as they are.
-/

namespace Sluicery.Library

universe u

variable {Row : Type u} {change : Nat → Row → Row → Prop}
  {before middle after : Table Row}

/-- The same keys, and rows which change in the given ways only. -/
structure RowsMove (change : Nat → Row → Row → Prop)
    (before after : Table Row) : Prop where
  kept {key : Nat} {row : Row} (found : before.get key = some row) :
    ∃ row', after.get key = some row' ∧ change key row row'
  absent {key : Nat} (missing : before.get key = none) :
    after.get key = none

namespace RowsMove

/-- A row after the step comes from a row before it. -/
theorem origin
    (moves : RowsMove change before after) {key : Nat} {row' : Row}
    (found' : after.get key = some row') :
    ∃ row, before.get key = some row ∧ change key row row' := by
  cases found : before.get key with
  | none =>
      rw [moves.absent found] at found'
      cases found'
  | some row =>
      obtain ⟨again, foundAgain, changes⟩ := moves.kept found
      rw [found', Option.some.injEq] at foundAgain
      subst foundAgain
      exact ⟨row, rfl, changes⟩

theorem weaken
    {weaker : Nat → Row → Row → Prop}
    (moves : RowsMove change before after)
    (implies : ∀ key row row', before.get key = some row →
      change key row row' → weaker key row row') :
    RowsMove weaker before after where
  kept found := by
    rcases moves.kept found with ⟨row', found', changes⟩
    exact ⟨row', found', implies _ _ _ found changes⟩
  absent := moves.absent

theorem refl
    (reflexive : ∀ key row, change key row row) (table : Table Row) :
    RowsMove change table table where
  kept found := ⟨_, found, reflexive _ _⟩
  absent := id

theorem of_eq
    (reflexive : ∀ key row, change key row row) (same : after = before) :
    RowsMove change before after := by
  rw [same]
  exact .refl reflexive _

/-- Two steps, whose relations compose. -/
theorem trans
    {first second : Nat → Row → Row → Prop}
    (composes : ∀ key row row' row'', first key row row' →
      second key row' row'' → change key row row'')
    (moves : RowsMove first before middle)
    (moves' : RowsMove second middle after) :
    RowsMove change before after where
  kept found := by
    rcases moves.kept found with ⟨row', foundMiddle, changes⟩
    rcases moves'.kept foundMiddle with ⟨row'', found', changes'⟩
    exact ⟨row'', found', composes _ _ _ _ changes changes'⟩
  absent missing := moves'.absent (moves.absent missing)

/-- The update of one row. -/
theorem modify
    (table : Table Row) {key : Nat} {values : Row → Row}
    (reflexive : ∀ key row, change key row row)
    (changes : ∀ row, table.get key = some row →
      change key row (values row)) :
    RowsMove change table (table.modify key values) where
  kept {other row} found := by
    rw [Table.get_modify]
    by_cases same : other = key
    · subst same
      rw [if_pos rfl, found, Option.map_some]
      exact ⟨_, rfl, changes row found⟩
    · rw [if_neg same]
      exact ⟨row, found, reflexive _ _⟩
  absent {other} missing := by
    rw [Table.get_modify, missing, Option.map_none, ite_self]

/-- The update of the rows which meet a condition. -/
theorem updateWhere
    (table : Table Row) {condition : Nat → Row → Bool} {values : Row → Row}
    (reflexive : ∀ key row, change key row row)
    (changes : ∀ key row, table.get key = some row →
      condition key row = true → change key row (values row)) :
    RowsMove change table (table.updateWhere condition values) where
  kept {key row} found := by
    rw [Table.get_updateWhere, found, Option.map_some]
    by_cases meets : condition key row = true
    · rw [if_pos meets]
      exact ⟨_, rfl, changes key row found meets⟩
    · rw [if_neg meets]
      exact ⟨_, rfl, reflexive _ _⟩
  absent {key} missing := by
    rw [Table.get_updateWhere, missing, Option.map_none]

end RowsMove

end Sluicery.Library
