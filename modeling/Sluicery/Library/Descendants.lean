import Sluicery.Library.Table

/-!
# Closing the open descendants of a row

Rows of a table name at most one parent row.  `close` walks the table breadth
first from a frontier: each round marks the open rows whose parent lies in
the frontier, and these rows are the next frontier.  It is the loop a queue
runs to cancel everything that waits for a failed job.

`get_close` is the specification: a row is marked exactly when a chain of
open rows leads from it to the frontier.  The walk stops because a marked row
is no longer open, so one round for each open row is enough fuel.
-/

namespace Sluicery.Library

universe u

/-- How rows name their parent, which rows are open, and how they are closed. -/
structure Marking (Row : Type u) where
  parent : Row → Option Nat
  isOpen : Row → Bool
  mark : Row → Row
  isOpen_mark : ∀ row, isOpen (mark row) = false
  parent_mark : ∀ row, parent (mark row) = parent row

namespace Marking

variable {Row : Type u} (marking : Marking Row)

/-- An open row whose parent lies in the frontier. -/
def isChild (frontier : List Nat) (row : Row) : Bool :=
  marking.isOpen row &&
    match marking.parent row with
    | none => false
    | some parent => frontier.contains parent

/-- The keys of the open rows below the frontier. -/
def children (frontier : List Nat) (table : Table Row) : List Nat :=
  (table.select fun _ row => marking.isChild frontier row).map Prod.fst

/-- One round of the walk. -/
def closeRound (frontier : List Nat) (table : Table Row) : Table Row :=
  table.updateWhere
    (fun key row =>
      (marking.children frontier table).contains key && marking.isOpen row)
    marking.mark

/-- The walk, with the number of rows it marked. -/
def close : Nat → List Nat → Table Row → Table Row × Nat
  | 0, _, table => (table, 0)
  | fuel + 1, frontier, table =>
      let below := marking.children frontier table
      if below.isEmpty then (table, 0)
      else
        let rest := close fuel below (marking.closeRound frontier table)
        (rest.1, below.length + rest.2)

/-- A chain of open rows leads from the row to the frontier. -/
inductive OpenDescendant (table : Table Row) (frontier : List Nat) :
    Nat → Prop where
  | child {key parent : Nat} {row : Row}
      (found : table.get key = some row)
      (isOpen : marking.isOpen row = true)
      (named : marking.parent row = some parent)
      (inFrontier : parent ∈ frontier) :
      OpenDescendant table frontier key
  | step {key parent : Nat} {row : Row}
      (found : table.get key = some row)
      (isOpen : marking.isOpen row = true)
      (named : marking.parent row = some parent)
      (above : OpenDescendant table frontier parent) :
      OpenDescendant table frontier key

theorem isChild_eq_true_iff (frontier : List Nat) (row : Row) :
    marking.isChild frontier row = true ↔
      marking.isOpen row = true ∧
        ∃ parent, marking.parent row = some parent ∧ parent ∈ frontier := by
  unfold isChild
  cases marking.parent row <;> simp

theorem mem_children_iff
    (frontier : List Nat) (table : Table Row) (key : Nat) :
    key ∈ marking.children frontier table ↔
      ∃ row, table.get key = some row ∧
        marking.isOpen row = true ∧
        ∃ parent, marking.parent row = some parent ∧ parent ∈ frontier := by
  simp only [children, List.mem_map, Prod.exists, Table.mem_select_iff,
    isChild_eq_true_iff]
  constructor
  · rintro ⟨key, row, found, rfl⟩
    exact ⟨row, found⟩
  · rintro ⟨row, found⟩
    exact ⟨key, row, found, rfl⟩

/-- One round marks exactly the rows it collected. -/
theorem get_closeRound
    (frontier : List Nat) (table : Table Row) (key : Nat) :
    (marking.closeRound frontier table).get key =
      (table.get key).map fun row =>
        if key ∈ marking.children frontier table then marking.mark row
        else row := by
  rw [closeRound, Table.get_updateWhere]
  cases found : table.get key with
  | none => rfl
  | some row =>
      by_cases member : key ∈ marking.children frontier table
      · obtain ⟨child, foundChild, isOpen, -⟩ :=
          (marking.mem_children_iff frontier table key).mp member
        rw [found, Option.some.injEq] at foundChild
        subst foundChild
        simp [member, isOpen]
      · simp [member]

/-- The rows still open after a round are unchanged by it. -/
private theorem get_of_open_after_round
    {frontier : List Nat} {table : Table Row} {key : Nat} {row : Row}
    (found : (marking.closeRound frontier table).get key = some row)
    (isOpen : marking.isOpen row = true) :
    table.get key = some row ∧
      key ∉ marking.children frontier table := by
  rw [get_closeRound, Option.map_eq_some_iff] at found
  obtain ⟨before, foundBefore, changed⟩ := found
  split at changed
  · rw [← changed, marking.isOpen_mark] at isOpen
    cases isOpen
  · next outside =>
      exact ⟨changed ▸ foundBefore, outside⟩

/-- The descendants of a frontier are its children and their descendants. -/
theorem openDescendant_iff
    (frontier : List Nat) (table : Table Row) (key : Nat) :
    marking.OpenDescendant table frontier key ↔
      key ∈ marking.children frontier table ∨
        marking.OpenDescendant (marking.closeRound frontier table)
          (marking.children frontier table) key := by
  constructor
  · intro descendant
    induction descendant with
    | child found isOpen named inFrontier =>
        exact Or.inl ((marking.mem_children_iff _ _ _).mpr
          ⟨_, found, isOpen, _, named, inFrontier⟩)
    | @step key parent row found isOpen named above induction =>
        by_cases member : key ∈ marking.children frontier table
        · exact Or.inl member
        · have kept :
              (marking.closeRound frontier table).get key = some row := by
            rw [get_closeRound, found, Option.map_some, if_neg member]
          rcases induction with parentMember | parentDescendant
          · exact Or.inr (.child kept isOpen named parentMember)
          · exact Or.inr (.step kept isOpen named parentDescendant)
  · rintro (member | descendant)
    · obtain ⟨row, found, isOpen, parent, named, inFrontier⟩ :=
        (marking.mem_children_iff _ _ _).mp member
      exact .child found isOpen named inFrontier
    · induction descendant with
      | child found isOpen named inChildren =>
          have before := (marking.get_of_open_after_round found isOpen).1
          obtain ⟨row, foundParent, openParent, parent, namedParent,
            inFrontier⟩ := (marking.mem_children_iff _ _ _).mp inChildren
          exact .step before isOpen named
            (.child foundParent openParent namedParent inFrontier)
      | step found isOpen named _ induction =>
          exact .step (marking.get_of_open_after_round found isOpen).1
            isOpen named induction

/-! ## Enough fuel -/

/-- The number of rows still to be closed. -/
def openCount (table : Table Row) : Nat :=
  table.count fun _ row => marking.isOpen row

private theorem length_filter_map_le
    (entries : List (Nat × Row)) (change : Nat × Row → Row)
    (shrinks : ∀ entry ∈ entries,
      marking.isOpen (change entry) = true → marking.isOpen entry.2 = true) :
    ((entries.map fun entry => (entry.1, change entry)).filter
        fun entry => marking.isOpen entry.2).length ≤
      (entries.filter fun entry => marking.isOpen entry.2).length := by
  induction entries with
  | nil => simp
  | cons entry rest induction =>
      have tail := induction fun other member =>
        shrinks other (List.mem_cons_of_mem _ member)
      have head := shrinks entry List.mem_cons_self
      simp only [List.map_cons, List.filter_cons]
      by_cases changed : marking.isOpen (change entry) = true
      · simpa [changed, head changed] using tail
      · by_cases before : marking.isOpen entry.2 = true
        · simpa [changed, before] using Nat.le_succ_of_le tail
        · simpa [changed, before] using tail

private theorem length_filter_map_lt
    (entries : List (Nat × Row)) (change : Nat × Row → Row)
    (shrinks : ∀ entry ∈ entries,
      marking.isOpen (change entry) = true → marking.isOpen entry.2 = true)
    (closed : ∃ entry ∈ entries,
      marking.isOpen entry.2 = true ∧ marking.isOpen (change entry) = false) :
    ((entries.map fun entry => (entry.1, change entry)).filter
        fun entry => marking.isOpen entry.2).length <
      (entries.filter fun entry => marking.isOpen entry.2).length := by
  obtain ⟨entry, member, wasOpen, nowClosed⟩ := closed
  obtain ⟨front, back, rfl⟩ := List.append_of_mem member
  have frontLe := length_filter_map_le marking front change
    fun other inFront => shrinks other (by simp [inFront])
  have backLe := length_filter_map_le marking back change
    fun other inBack => shrinks other (by simp [inBack])
  simp only [List.map_append, List.map_cons, List.filter_append,
    List.filter_cons, List.length_append, wasOpen, nowClosed, if_true,
    Bool.false_eq_true, if_false, List.length_cons]
  omega

/-- A round which finds a child leaves fewer open rows. -/
theorem openCount_closeRound_lt
    {frontier : List Nat} {table : Table Row} {key : Nat}
    (member : key ∈ marking.children frontier table) :
    marking.openCount (marking.closeRound frontier table) <
      marking.openCount table := by
  obtain ⟨row, found, isOpen, -⟩ :=
    (marking.mem_children_iff frontier table key).mp member
  refine length_filter_map_lt marking table.rows _ ?_ ?_
  · intro entry _ stillOpen
    split at stillOpen
    · rw [marking.isOpen_mark] at stillOpen
      cases stillOpen
    · exact stillOpen
  · refine ⟨(key, row), (table.get_eq_some_iff key row).mp found,
      isOpen, ?_⟩
    simp [member, isOpen, marking.isOpen_mark]

theorem openCount_le_length (table : Table Row) :
    marking.openCount table ≤ table.rows.length :=
  List.length_filter_le _ _

/-- Without children there is no first link of any chain. -/
private theorem not_openDescendant_of_children_nil
    {frontier : List Nat} {table : Table Row}
    (none : marking.children frontier table = []) (key : Nat) :
    ¬ marking.OpenDescendant table frontier key := by
  intro descendant
  induction descendant with
  | child found isOpen named inFrontier =>
      have member := (marking.mem_children_iff _ _ _).mpr
        ⟨_, found, isOpen, _, named, inFrontier⟩
      simp [none] at member
  | step _ _ _ _ impossible => exact impossible

/-- The rows of a chain are open. -/
theorem OpenDescendant.isOpen
    {marking : Marking Row} {frontier : List Nat} {table : Table Row}
    {key : Nat}
    (descendant : marking.OpenDescendant table frontier key) :
    ∃ row, table.get key = some row ∧ marking.isOpen row = true := by
  cases descendant with
  | child found isOpen => exact ⟨_, found, isOpen⟩
  | step found isOpen => exact ⟨_, found, isOpen⟩

open scoped Classical in
/-- The walk marks exactly the open descendants of its frontier. -/
theorem get_close
    {fuel : Nat} {frontier : List Nat} {table : Table Row}
    (enough : marking.openCount table ≤ fuel) (key : Nat) :
    (marking.close fuel frontier table).1.get key =
      (table.get key).map fun row =>
        if marking.OpenDescendant table frontier key then marking.mark row
        else row := by
  induction fuel generalizing frontier table with
  | zero =>
      have noDescendant : ¬ marking.OpenDescendant table frontier key := by
        intro descendant
        have positive : 0 < marking.openCount table :=
          (table.count_pos_iff _).mpr ⟨key, descendant.isOpen⟩
        omega
      simp [close, noDescendant]
  | succ fuel induction =>
      rw [close]
      dsimp only
      by_cases none : (marking.children frontier table).isEmpty = true
      · rw [List.isEmpty_iff] at none
        have noDescendant := marking.not_openDescendant_of_children_nil none key
        simp [none, noDescendant]
      · rw [if_neg none]
        obtain ⟨child, member⟩ := List.exists_mem_of_ne_nil _
          (fun empty => none (List.isEmpty_iff.mpr empty))
        have fewer := marking.openCount_closeRound_lt member
        dsimp only
        rw [induction (by omega), get_closeRound, Option.map_map]
        congr 1
        funext row
        dsimp only [Function.comp]
        by_cases marked : key ∈ marking.children frontier table
        · -- A row marked in this round is closed for the later rounds.
          have descendant := (marking.openDescendant_iff frontier table
            key).mpr (Or.inl marked)
          have notAgain :
              ¬ marking.OpenDescendant (marking.closeRound frontier table)
                (marking.children frontier table) key := by
            intro again
            obtain ⟨row, found, isOpen⟩ := again.isOpen
            exact (marking.get_of_open_after_round found isOpen).2 marked
          simp [marked, descendant, notAgain]
        · have same := marking.openDescendant_iff frontier table key
          simp only [marked, false_or] at same
          simp [marked, same]

end Marking

end Sluicery.Library
