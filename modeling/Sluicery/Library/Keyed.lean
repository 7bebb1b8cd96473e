import Mathlib.Data.List.Basic
import Mathlib.Data.List.Nodup
import Mathlib.Data.List.Induction

/-!
# Dictionaries of records

A dictionary whose keys are a field of its values, as the list of the values
in insertion order.  A new value replaces the one with its key in place, so
that of the values which are put one after the other the last ones remain.
-/

namespace Sluicery.Library.Keyed

universe u v

variable {Item : Type u} {Key : Type v} [DecidableEq Key] (key : Item → Key)

/-- `items[key(item)] = item`. -/
def put : List Item → Item → List Item
  | [], item => [item]
  | first :: rest, item =>
      if key first = key item then item :: rest else first :: put rest item

/-- The dictionary of all items. -/
def collect (items : List Item) : List Item :=
  items.foldl (put key) []

theorem collect_append (items : List Item) (item : Item) :
    collect key (items ++ [item]) = put key (collect key items) item := by
  rw [collect, List.foldl_concat, collect]

/-- The keys stay as they are, and a new one comes last. -/
theorem keys_put (items : List Item) (item : Item) :
    (put key items item).map key =
      if key item ∈ items.map key then items.map key
      else items.map key ++ [key item] := by
  induction items with
  | nil => rfl
  | cons first rest induction =>
      rw [put]
      by_cases same : key first = key item
      · simp [same]
      · rw [if_neg same, List.map_cons, induction]
        simp only [List.map_cons, List.mem_cons, Ne.symm same, false_or]
        split <;> rfl

theorem nodup_put {items : List Item} (distinct : (items.map key).Nodup)
    (item : Item) : ((put key items item).map key).Nodup := by
  rw [keys_put]
  split
  · exact distinct
  · next new =>
      rw [List.nodup_append]
      refine ⟨distinct, List.nodup_singleton _, ?_⟩
      intro other member last isLast same
      rw [List.mem_singleton] at isLast
      rw [same, isLast] at member
      exact new member

theorem mem_put_iff {items : List Item} (distinct : (items.map key).Nodup)
    (item other : Item) :
    other ∈ put key items item ↔
      other = item ∨ other ∈ items ∧ key other ≠ key item := by
  induction items with
  | nil => simp [put]
  | cons first rest induction =>
      rw [List.map_cons, List.nodup_cons] at distinct
      rw [put]
      by_cases same : key first = key item
      · rw [if_pos same, List.mem_cons, List.mem_cons]
        have others : other ∈ rest → key other ≠ key item := by
          intro member isSame
          apply distinct.1
          rw [same, ← isSame]
          exact List.mem_map_of_mem member
        constructor
        · rintro (isItem | inRest)
          · exact Or.inl isItem
          · exact Or.inr ⟨Or.inr inRest, others inRest⟩
        · rintro (isItem | ⟨rfl | inRest, differs⟩)
          · exact Or.inl isItem
          · exact absurd same differs
          · exact Or.inr inRest
      · rw [if_neg same, List.mem_cons, induction distinct.2, List.mem_cons]
        constructor
        · rintro (rfl | isItem | ⟨inRest, differs⟩)
          · exact Or.inr ⟨Or.inl rfl, same⟩
          · exact Or.inl isItem
          · exact Or.inr ⟨Or.inr inRest, differs⟩
        · rintro (isItem | ⟨isFirst | inRest, differs⟩)
          · exact Or.inr (Or.inl isItem)
          · exact Or.inl isFirst
          · exact Or.inr (Or.inr ⟨inRest, differs⟩)

theorem nodup_collect (items : List Item) :
    ((collect key items).map key).Nodup := by
  induction items using List.reverseRecOn with
  | nil => exact List.nodup_nil
  | append_singleton items item induction =>
      rw [collect_append]
      exact nodup_put key induction item

/-- An item has the last occurrence of its key. -/
def IsLast (items : List Item) (item : Item) : Prop :=
  ∃ before after, items = before ++ item :: after ∧
    ∀ later ∈ after, key later ≠ key item

omit [DecidableEq Key] in
theorem isLast_append_iff (items : List Item) (item other : Item) :
    IsLast key (items ++ [item]) other ↔
      other = item ∨ IsLast key items other ∧ key other ≠ key item := by
  constructor
  · rintro ⟨before, after, isItems, isLast⟩
    rcases List.eq_nil_or_concat after with rfl | ⟨middle, last, rfl⟩
    · exact Or.inl (List.append_singleton_inj.mp isItems).2.symm
    · rw [List.concat_eq_append] at isItems isLast
      rw [← List.cons_append, ← List.append_assoc,
        List.append_singleton_inj] at isItems
      rcases isItems with ⟨isItems, rfl⟩
      right
      constructor
      · refine ⟨before, middle, isItems, ?_⟩
        exact fun later member =>
          isLast later (List.mem_append_left _ member)
      · exact (isLast item (by simp)).symm
  · rintro (rfl | ⟨⟨before, after, rfl, isLast⟩, differs⟩)
    · exact ⟨items, [], rfl, by simp⟩
    · refine ⟨before, after ++ [item], by simp, ?_⟩
      intro later member
      rcases List.mem_append.mp member with inAfter | isItem
      · exact isLast later inAfter
      · rw [List.mem_singleton] at isItem
        rw [isItem]
        exact differs.symm

/-- The dictionary holds the last item of every key. -/
theorem mem_collect_iff (items : List Item) (item : Item) :
    item ∈ collect key items ↔ IsLast key items item := by
  induction items using List.reverseRecOn with
  | nil => simp [collect, IsLast]
  | append_singleton items last induction =>
      rw [collect_append, mem_put_iff key (nodup_collect key items),
        isLast_append_iff, induction]

/-- The keys are those of the items. -/
theorem mem_keys_collect_iff (items : List Item) (wanted : Key) :
    wanted ∈ (collect key items).map key ↔ wanted ∈ items.map key := by
  induction items using List.reverseRecOn with
  | nil => rfl
  | append_singleton items item induction =>
      rw [collect_append, keys_put, List.map_append, List.mem_append,
        ← induction]
      split
      · next known =>
          simp only [List.map_cons, List.map_nil, List.mem_singleton]
          constructor
          · exact Or.inl
          · rintro (member | rfl)
            · exact member
            · exact known
      · simp

/-! ## Lookup -/

/-- Numbers make different keys. -/
theorem repr_injective : Function.Injective Nat.repr := by
  intro left right same
  have digits := congrArg String.toList same
  rw [Nat.repr_eq_ofList_toDigits, Nat.repr_eq_ofList_toDigits,
    String.toList_ofList, String.toList_ofList] at digits
  have values := congrArg (Nat.ofDigitChars 10 · 0) digits
  simpa using values

theorem find?_eq_some_iff {items : List Item}
    (distinct : (items.map key).Nodup) (wanted : Key) (item : Item) :
    (items.find? fun other => key other == wanted) = some item ↔
      item ∈ items ∧ key item = wanted := by
  constructor
  · intro found
    have same := List.find?_some found
    rw [beq_iff_eq] at same
    exact ⟨List.mem_of_find?_eq_some found, same⟩
  · rintro ⟨member, rfl⟩
    cases found : items.find? fun other => key other == key item with
    | none =>
        exact absurd (beq_self_eq_true (key item))
          (List.find?_eq_none.mp found item member)
    | some other =>
        have same := List.find?_some found
        rw [beq_iff_eq] at same
        rw [List.inj_on_of_nodup_map distinct
          (List.mem_of_find?_eq_some found) member same]

theorem find?_put (items : List Item) (item : Item) (wanted : Key) :
    ((put key items item).find? fun other => key other == wanted) =
      if key item = wanted then some item
      else items.find? fun other => key other == wanted := by
  induction items with
  | nil =>
      rw [put, List.find?_singleton]
      simp only [beq_iff_eq, List.find?_nil]
  | cons first rest induction =>
      rw [put]
      by_cases same : key first = key item
      · rw [if_pos same, List.find?_cons, List.find?_cons, same]
        by_cases isWanted : key item = wanted
        · simp [isWanted]
        · simp [isWanted, beq_eq_false_iff_ne.mpr isWanted]
      · rw [if_neg same, List.find?_cons, List.find?_cons, induction]
        by_cases isWanted : key item = wanted
        · subst isWanted
          simp [beq_eq_false_iff_ne.mpr same]
        · simp [isWanted]

theorem find?_filter_ne (items : List Item) (removed wanted : Key) :
    ((items.filter fun item => key item != removed).find? fun other =>
        key other == wanted) =
      if wanted = removed then none
      else items.find? fun other => key other == wanted := by
  rw [List.find?_filter]
  split
  · next same =>
      subst same
      simp
  · next differs =>
      congr 1
      funext item
      by_cases isWanted : key item = wanted
      · simp [isWanted, differs]
      · simp [isWanted]

end Sluicery.Library.Keyed
