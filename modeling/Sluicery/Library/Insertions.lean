import Sluicery.Library.Table

/-!
# Several insertions

Rows which are inserted one after the other get keys of their own, and the
rows of the table stay where they are.
-/

namespace Sluicery.Library.Table

universe u

variable {Row : Type u}

/-- `INSERT` of rows, in their order. -/
def insertAll (table : Table Row) (rows : List Row) : Table Row :=
  rows.foldl insert table

theorem get_insertAll_of_some
    {table : Table Row} {key : Nat} {row : Row} (rows : List Row)
    (found : table.get key = some row) :
    (table.insertAll rows).get key = some row := by
  induction rows generalizing table with
  | nil => exact found
  | cons first rest induction =>
      exact induction (get_insert_of_some first found)

/-- A new row is one of those inserted. -/
theorem mem_of_get_insertAll
    {table : Table Row} {rows : List Row} {key : Nat} {row : Row}
    (missing : table.get key = none)
    (found : (table.insertAll rows).get key = some row) : row ∈ rows := by
  induction rows generalizing table with
  | nil =>
      rw [insertAll, List.foldl_nil, missing] at found
      cases found
  | cons first rest induction =>
      cases isInserted : (table.insert first).get key with
      | none => exact List.mem_cons_of_mem _ (induction isInserted found)
      | some inserted =>
          have same := get_insertAll_of_some rest isInserted
          rw [insertAll, List.foldl_cons] at found
          rw [insertAll, found] at same
          cases same
          rw [eq_of_get_insert missing isInserted]
          exact List.mem_cons_self

/-- Every row is inserted under a new key. -/
theorem exists_get_insertAll
    (table : Table Row) {rows : List Row} {row : Row} (member : row ∈ rows) :
    ∃ key, table.get key = none ∧
      (table.insertAll rows).get key = some row := by
  induction rows generalizing table with
  | nil => cases member
  | cons first rest induction =>
      rcases List.mem_cons.mp member with rfl | inRest
      · exact ⟨table.nextKey, get_nextKey table,
          get_insertAll_of_some rest (get_insert_nextKey table row)⟩
      · rcases induction (table.insert first) inRest with
          ⟨key, missing, found⟩
        exact ⟨key, get_of_get_insert missing, found⟩

/-- Different rows have different keys, and each row has one. -/
theorem insertAll_injective
    {table : Table Row} {rows : List Row} (distinct : rows.Nodup)
    {left right : Nat} {row : Row} (newLeft : table.get left = none)
    (newRight : table.get right = none)
    (foundLeft : (table.insertAll rows).get left = some row)
    (foundRight : (table.insertAll rows).get right = some row) :
    left = right := by
  induction rows generalizing table with
  | nil =>
      rw [insertAll, List.foldl_nil, newLeft] at foundLeft
      cases foundLeft
  | cons first rest induction =>
      rw [List.nodup_cons] at distinct
      -- A key of the first row is not the key of a later one.
      have later : ∀ {key other}, (table.insert first).get key = none →
          (table.insert first).get other ≠ none →
          table.get other = none →
          (table.insertAll (first :: rest)).get key = some row →
          (table.insertAll (first :: rest)).get other ≠ some row := by
        intro key other isLater isFirst newOther foundKey foundOther
        have inRest := mem_of_get_insertAll isLater foundKey
        rcases Option.ne_none_iff_exists'.mp isFirst with ⟨old, isOld⟩
        have same := get_insertAll_of_some rest isOld
        rw [insertAll, List.foldl_cons] at foundOther
        rw [insertAll, foundOther] at same
        cases same
        rw [eq_of_get_insert newOther isOld] at inRest
        exact distinct.1 inRest
      by_cases leftLater : (table.insert first).get left = none
      · by_cases rightLater : (table.insert first).get right = none
        · exact induction distinct.2 leftLater rightLater foundLeft
            foundRight
        · exact absurd foundRight
            (later leftLater rightLater newRight foundLeft)
      · by_cases rightLater : (table.insert first).get right = none
        · exact absurd foundLeft
            (later rightLater leftLater newLeft foundRight)
        · rw [get_insert] at leftLater rightLater
          have isNext : ∀ {key}, table.get key = none →
              (if key = table.nextKey then some first
                else table.get key) ≠ none → key = table.nextKey := by
            intro key missing present
            by_contra other
            rw [if_neg other] at present
            exact present missing
          rw [isNext newLeft leftLater, isNext newRight rightLater]

end Sluicery.Library.Table
