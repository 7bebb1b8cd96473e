import Mathlib.Logic.Relation
import Sluicery.Library.Table

/-!
# Rewriting the rows of a table

Statements such as `UPDATE` keep the keys of a table and change rows.  An
`Updates` lists the kinds of change of a system, each with the condition on
the row under which a statement makes it.  `Rewrites` relates two tables when
every row went through a chain of permitted changes.

A property of one row is proved once per kind of change and holds after every
statement by `Rewrites.forall_rows`; a column no change writes is the same
before and after by `Chain.same`.
-/

namespace Sluicery.Library

universe u v w

/-- The kinds of change of a row. -/
structure Updates (Row : Type u) (Change : Type v) where
  enabled : Change → Row → Prop
  values : Change → Row → Row

namespace Updates

variable {Row : Type u} {Change : Type v} (updates : Updates Row Change)

/-- One permitted change. -/
def Step (allowed : Change → Row → Prop) (old new : Row) : Prop :=
  ∃ change,
    updates.enabled change old ∧ allowed change old ∧
      new = updates.values change old

/-- A chain of permitted changes. -/
abbrev Chain (allowed : Change → Row → Prop) : Row → Row → Prop :=
  Relation.ReflTransGen (updates.Step allowed)

/-- The second table has the rows of the first after permitted changes. -/
structure Rewrites (allowed : Nat → Change → Row → Prop)
    (before after : Table Row) : Prop where
  found {key : Nat} {row : Row} (found : before.get key = some row) :
    ∃ row', after.get key = some row' ∧
      updates.Chain (allowed key) row row'
  absent {key : Nat} (missing : before.get key = none) :
    after.get key = none

variable {updates}

namespace Chain

variable {allowed : Change → Row → Prop} {old new : Row}

/-- What every permitted change preserves holds at the end of a chain. -/
theorem invariant
    (holds : Row → Prop)
    (chain : updates.Chain allowed old new)
    (initially : holds old)
    (preserved : ∀ change row, holds row → updates.enabled change row →
      allowed change row → holds (updates.values change row)) :
    holds new := by
  induction chain with
  | refl => exact initially
  | tail _ step induction =>
      obtain ⟨change, enabled, permitted, rfl⟩ := step
      exact preserved change _ induction enabled permitted

/-- A column which no permitted change writes. -/
theorem same
    {Column : Type w} (column : Row → Column)
    (chain : updates.Chain allowed old new)
    (keeps : ∀ change row, updates.enabled change row →
      allowed change row → column (updates.values change row) = column row) :
    column new = column old :=
  chain.invariant (fun row => column row = column old) rfl
    fun change row equal enabled permitted =>
      (keeps change row enabled permitted).trans equal

theorem weaken
    {permissive : Change → Row → Prop}
    (chain : updates.Chain allowed old new)
    (weaker : ∀ change row, allowed change row → permissive change row) :
    updates.Chain permissive old new :=
  Relation.ReflTransGen.mono
    (fun _ _ ⟨change, enabled, permitted, equal⟩ =>
      ⟨change, enabled, weaker _ _ permitted, equal⟩) _ _ chain

end Chain

namespace Rewrites

variable {allowed : Nat → Change → Row → Prop}
  {before middle after : Table Row}

theorem refl (table : Table Row) : updates.Rewrites allowed table table where
  found found := ⟨_, found, .refl⟩
  absent missing := missing

theorem trans
    (first : updates.Rewrites allowed before middle)
    (second : updates.Rewrites allowed middle after) :
    updates.Rewrites allowed before after where
  found found := by
    obtain ⟨row, foundMiddle, firstChain⟩ := first.found found
    obtain ⟨row', foundAfter, secondChain⟩ := second.found foundMiddle
    exact ⟨row', foundAfter, firstChain.trans secondChain⟩
  absent missing := second.absent (first.absent missing)

theorem weaken
    {permissive : Nat → Change → Row → Prop}
    (weaker : ∀ key change row,
      allowed key change row → permissive key change row)
    (rewrites : updates.Rewrites allowed before after) :
    updates.Rewrites permissive before after where
  found found := by
    obtain ⟨row', foundAfter, chain⟩ := rewrites.found found
    exact ⟨row', foundAfter, chain.weaken (weaker _)⟩
  absent := rewrites.absent

/-- A statement which maps every row to itself or to a permitted change. -/
theorem of_map
    (change : Nat → Row → Row)
    (mapped : ∀ key, after.get key = (before.get key).map (change key))
    (permitted : ∀ key row, before.get key = some row →
      change key row = row ∨
        updates.Step (allowed key) row (change key row)) :
    updates.Rewrites allowed before after where
  found found := by
    refine ⟨change _ _, by rw [mapped, found, Option.map_some], ?_⟩
    rcases permitted _ _ found with unchanged | step
    · rw [unchanged]
    · exact .single step
  absent missing := by rw [mapped, missing, Option.map_none]

theorem of_updateWhere
    {condition : Nat → Row → Bool} {values : Row → Row}
    (permitted : ∀ key row, before.get key = some row →
      condition key row = true →
        updates.Step (allowed key) row (values row)) :
    updates.Rewrites allowed before
      (before.updateWhere condition values) := by
  refine of_map _ (before.get_updateWhere condition values) ?_
  intro key row found
  by_cases meets : condition key row = true
  · rw [if_pos meets]
    exact Or.inr (permitted key row found meets)
  · exact Or.inl (if_neg meets)

/-- No row is new. -/
theorem origin
    {key : Nat} {row' : Row}
    (rewrites : updates.Rewrites allowed before after)
    (found : after.get key = some row') :
    ∃ row, before.get key = some row ∧
      updates.Chain (allowed key) row row' := by
  cases foundBefore : before.get key with
  | none =>
      rw [rewrites.absent foundBefore] at found
      cases found
  | some row =>
      obtain ⟨changed, foundAfter, chain⟩ := rewrites.found foundBefore
      rw [found, Option.some.injEq] at foundAfter
      exact ⟨row, rfl, foundAfter ▸ chain⟩

/-- A row without any permitted change is the same. -/
theorem unchanged
    {key : Nat}
    (rewrites : updates.Rewrites allowed before after)
    (forbidden : ∀ change row, ¬ allowed key change row) :
    after.get key = before.get key := by
  cases foundBefore : before.get key with
  | none => exact rewrites.absent foundBefore
  | some row =>
      obtain ⟨row', foundAfter, chain⟩ := rewrites.found foundBefore
      rw [foundAfter, Option.some.injEq]
      exact chain.invariant (fun other => other = row) rfl
        fun change other _ _ permitted =>
          absurd permitted (forbidden change other)

/-- An invariant of single rows. -/
theorem forall_rows
    {holds : Nat → Row → Prop}
    (rewrites : updates.Rewrites allowed before after)
    (initially : ∀ key row, before.get key = some row → holds key row)
    (preserved : ∀ key change row, holds key row →
      updates.enabled change row → allowed key change row →
        holds key (updates.values change row))
    {key : Nat} {row' : Row} (found : after.get key = some row') :
    holds key row' := by
  obtain ⟨row, foundBefore, chain⟩ := rewrites.origin found
  exact chain.invariant (holds key) (initially key row foundBefore)
    (preserved key)

end Rewrites

end Updates

end Sluicery.Library
