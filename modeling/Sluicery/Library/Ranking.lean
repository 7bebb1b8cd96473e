import Mathlib.Data.List.MinMax
import Mathlib.Data.List.Sort
import Mathlib.Data.Set.Card

/-!
# The first members of a ranking

A list which is sorted by a key, the greatest key first, and cut after its
first members.  What is left are the members that at least so many others
surpass, which is a statement about the set of members alone.
-/

namespace Sluicery.Library.Ranking

universe u v

variable {Item : Type u} {Key : Type v} [LinearOrder Key] (key : Item → Key)

/-- At least `count` members surpass the item. -/
def Outside (members : Set Item) (count : Nat) (item : Item) : Prop :=
  (count : ℕ∞) ≤ {other | other ∈ members ∧ key item < key other}.encard

/-- Fewer members surpass an item than before when fewer may. -/
theorem Outside.of_le
    {members : Set Item} {fewer more : Nat} (le : fewer ≤ more) {item : Item}
    (outside : Outside key members more item) :
    Outside key members fewer item :=
  (Nat.cast_le.mpr le).trans outside

/-- In a descending list the front surpasses an item, and nothing else. -/
theorem surpassing_append
    {front back : List Item} {item : Item}
    (descends : (front ++ item :: back).Pairwise fun left right =>
      key right < key left) :
    {other | other ∈ front ++ item :: back ∧ key item < key other} =
      {other | other ∈ front} := by
  rw [List.pairwise_append] at descends
  have behind := (List.pairwise_cons.mp descends.2.1).1
  ext other
  constructor
  · rintro ⟨member, surpasses⟩
    rcases List.mem_append.mp member with inFront | inBack
    · exact inFront
    · rcases List.mem_cons.mp inBack with rfl | isBehind
      · exact absurd surpasses (lt_irrefl _)
      · exact absurd surpasses (behind other isBehind).asymm
  · intro inFront
    constructor
    · exact List.mem_append_left _ inFront
    · exact descends.2.2 other inFront item List.mem_cons_self

/-- An item which occurs once stands behind those in front of it. -/
theorem mem_drop_append_iff
    {front back : List Item} {item : Item}
    (distinct : (front ++ item :: back).Nodup) (count : Nat) :
    item ∈ (front ++ item :: back).drop count ↔ count ≤ front.length := by
  have apart := List.nodup_append.mp distinct
  constructor
  · intro remains
    by_contra past
    have beyond : item ∈ back := by
      rw [List.drop_append, List.drop_eq_nil_of_le (by omega),
        List.nil_append] at remains
      have positive : count - front.length =
          (count - front.length - 1) + 1 := by omega
      rw [positive, List.drop_succ_cons] at remains
      exact List.mem_of_mem_drop remains
    exact (List.nodup_cons.mp apart.2.1).1 beyond
  · intro le
    rw [List.drop_append_of_le_length le]
    exact List.mem_append_right _ List.mem_cons_self

/-- What a descending list has left after `count` members. -/
theorem mem_drop_iff
    {items : List Item}
    (descends : items.Pairwise fun left right => key right < key left)
    (count : Nat) (item : Item) :
    item ∈ items.drop count ↔
      item ∈ items ∧ Outside key {other | other ∈ items} count item := by
  have distinct : items.Nodup := by
    rw [List.nodup_iff_pairwise_ne]
    apply descends.imp
    intro left right less same
    exact less.ne (congrArg key same.symm)
  by_cases member : item ∈ items
  · rcases List.append_of_mem member with ⟨front, back, rfl⟩
    have inFront : {other | other ∈ front}.encard = front.length := by
      classical
      rw [← List.coe_toFinset, Set.encard_coe_eq_coe_finsetCard,
        List.toFinset_card_of_nodup (List.nodup_append.mp distinct).1]
    rw [mem_drop_append_iff distinct, Outside]
    simp only [Set.mem_ofPred_eq, surpassing_append key descends, inFront,
      Nat.cast_le, member, true_and]
  · simp only [member, false_and, iff_false]
    intro remains
    exact member (List.mem_of_mem_drop remains)

/--
`sorted(items, key=key, reverse=True)[count:]`, for keys which tell the items
apart.
-/
theorem mem_drop_mergeSort_iff
    {newest : Item → Item → Bool}
    (byKey : ∀ left right, newest left right = true ↔ key right ≤ key left)
    {items : List Item} (distinct : items.Nodup)
    (separates : ∀ left ∈ items, ∀ right ∈ items,
      key left = key right → left = right)
    (count : Nat) (item : Item) :
    item ∈ (items.mergeSort newest).drop count ↔
      item ∈ items ∧ Outside key {other | other ∈ items} count item := by
  have sameMembers := List.mergeSort_perm items newest
  have sorted : (items.mergeSort newest).Pairwise fun left right =>
      newest left right = true := by
    apply List.pairwise_mergeSort
    · intro left middle right first second
      rw [byKey] at first second ⊢
      exact second.trans first
    · intro left right
      rw [Bool.or_eq_true, byKey, byKey]
      exact le_total _ _
  have descends : (items.mergeSort newest).Pairwise fun left right =>
      key right < key left := by
    have different := sameMembers.nodup_iff.mpr distinct
    apply (sorted.and different).imp_of_mem
    rintro left right isLeft isRight ⟨le, apart⟩
    apply lt_of_le_of_ne ((byKey left right).mp le)
    intro same
    exact apart (separates left (sameMembers.mem_iff.mp isLeft) right
      (sameMembers.mem_iff.mp isRight) same.symm)
  rw [mem_drop_iff key descends]
  simp only [sameMembers.mem_iff]

/-- The first of the greatest members is so among fewer, too. -/
theorem argmax_filter
    {items : List Item} {keeps : Item → Bool} {greatest : Item}
    (isGreatest : items.argmax key = some greatest)
    (kept : keeps greatest = true) :
    (items.filter keeps).argmax key = some greatest := by
  induction items using List.reverseRecOn with
  | nil => cases isGreatest
  | append_singleton items last induction =>
      rw [List.argmax_concat] at isGreatest
      rw [List.filter_append]
      cases before : items.argmax key with
      | none =>
          rw [before] at isGreatest
          cases isGreatest
          rw [List.argmax_eq_none.mp before, List.filter_cons_of_pos kept]
          rfl
      | some first =>
          rw [before] at isGreatest
          dsimp only at isGreatest
          split at isGreatest
          · next surpasses =>
              cases isGreatest
              rw [List.filter_cons_of_pos kept, List.filter_nil,
                List.argmax_concat]
              cases among : (items.filter keeps).argmax key with
              | none => rfl
              | some other =>
                  have isItem := List.mem_of_mem_filter
                    (List.argmax_mem (Option.mem_def.mpr among))
                  exact if_pos ((List.le_of_mem_argmax isItem
                    (Option.mem_def.mpr before)).trans_lt surpasses)
          · next notSurpassed =>
              cases isGreatest
              have among := induction before
              by_cases lastKept : keeps last = true
              · rw [List.filter_cons_of_pos lastKept, List.filter_nil,
                  List.argmax_concat, among]
                exact if_neg notSurpassed
              · rw [List.filter_cons_of_neg lastKept, List.filter_nil,
                  List.append_nil, among]

end Sluicery.Library.Ranking
