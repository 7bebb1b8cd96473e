import Mathlib.Data.List.Infix

/-!
# Substitution in texts

Every match of a pattern is replaced, from left to right and without overlaps,
as `str.replace` and `re.sub` do.  A pattern is one of several beginnings,
letter by letter, and then, if it asks for more, as many letters of a class
as there are, but at least one.

Where two patterns share no letter with what is put in, a substitution for one
makes no new match of the other: a match would have to lie in a part of the
text which was kept.
-/

namespace Sluicery.Library

universe u

/-- The tests of a beginning, letter by letter, and the class after it. -/
structure Pattern (Letter : Type u) where
  beginnings : List (List (Letter → Bool))
  more : Option (Letter → Bool) := none
  nonempty : ∀ beginning ∈ beginnings, beginning ≠ []

namespace Pattern

variable {Letter : Type u}

/-- What is left of a text after a beginning. -/
def afterBeginning : List (Letter → Bool) → List Letter → Option (List Letter)
  | [], text => some text
  | _ :: _, [] => none
  | test :: tests, letter :: text =>
      if test letter then afterBeginning tests text else none

/-- What is left of a text after a beginning and the letters after it. -/
def afterMatch (more : Option (Letter → Bool)) (beginning : List (Letter → Bool))
    (text : List Letter) : Option (List Letter) :=
  (afterBeginning beginning text).bind fun rest =>
    match more with
    | none => some rest
    | some isMore =>
        if rest.head?.any isMore then some (rest.dropWhile isMore) else none

/-- What is left of a text after the match at its start. -/
def rest (pattern : Pattern Letter) (text : List Letter) :
    Option (List Letter) :=
  pattern.beginnings.findSome? fun beginning =>
    afterMatch pattern.more beginning text

/-- The pattern matches at the start of the text. -/
def isAt (pattern : Pattern Letter) (text : List Letter) : Bool :=
  (pattern.rest text).isSome

/-- The pattern matches somewhere in the text. -/
def Occurs (pattern : Pattern Letter) (text : List Letter) : Prop :=
  ∃ later, later <:+ text ∧ pattern.isAt later = true

/-- A text as a pattern of its own. -/
def literal [DecidableEq Letter] (needle : List Letter) (nonempty : needle ≠ []) :
    Pattern Letter where
  beginnings := [needle.map fun expected letter => letter == expected]
  nonempty := by
    intro beginning member
    rw [List.mem_singleton.mp member, ne_eq, List.map_eq_nil_iff]
    exact nonempty

/-- `replace` and `sub`; the letters of a match which is replaced are skipped. -/
def substituteFrom (pattern : Pattern Letter) (replacement : List Letter) :
    Nat → List Letter → List Letter
  | _, [] => []
  | skipped + 1, _ :: text => substituteFrom pattern replacement skipped text
  | 0, letter :: text =>
      match pattern.rest (letter :: text) with
      | none => letter :: substituteFrom pattern replacement 0 text
      | some rest =>
          replacement ++
            substituteFrom pattern replacement (text.length - rest.length) text

/-- The text with the replacement for every match. -/
def substitute (pattern : Pattern Letter) (replacement text : List Letter) :
    List Letter :=
  substituteFrom pattern replacement 0 text

/-! ## Matches -/

variable {pattern other : Pattern Letter} {replacement : List Letter}

theorem isAt_iff (text : List Letter) :
    pattern.isAt text = true ↔
      ∃ beginning ∈ pattern.beginnings,
        (afterMatch pattern.more beginning text).isSome := by
  rw [isAt, rest, List.findSome?_isSome_iff]

theorem afterMatch_isSome_iff
    (more : Option (Letter → Bool)) (beginning : List (Letter → Bool))
    (text : List Letter) :
    (afterMatch more beginning text).isSome ↔
      ∃ rest, afterBeginning beginning text = some rest ∧
        ∀ isMore ∈ more, rest.head?.any isMore = true := by
  rw [afterMatch]
  cases afterBeginning beginning text with
  | none => simp
  | some rest =>
      cases more with
      | none => simp
      | some isMore => simp

/-- No pattern matches where there is no letter. -/
theorem isAt_nil : pattern.isAt ([] : List Letter) = false := by
  rw [Bool.eq_false_iff]
  intro isAt
  rcases (isAt_iff _).mp isAt with ⟨beginning, member, isMatch⟩
  rcases (afterMatch_isSome_iff _ _ _).mp isMatch with ⟨rest, after, -⟩
  cases beginning with
  | nil => exact pattern.nonempty _ member rfl
  | cons test tests => cases after

/-- The first letter of a match passes the first test of a beginning. -/
theorem exists_test_of_isAt
    {letter : Letter} {text : List Letter}
    (isAt : pattern.isAt (letter :: text) = true) :
    ∃ beginning ∈ pattern.beginnings, ∃ test tests,
      beginning = test :: tests ∧ test letter = true := by
  rcases (isAt_iff _).mp isAt with ⟨beginning, member, isMatch⟩
  rcases (afterMatch_isSome_iff _ _ _).mp isMatch with ⟨rest, after, -⟩
  cases beginning with
  | nil => exact absurd rfl (pattern.nonempty _ member)
  | cons test tests =>
      refine ⟨_, member, test, tests, rfl, ?_⟩
      rw [afterBeginning] at after
      split at after
      · next passes => exact passes
      · cases after

theorem occurs_cons (letter : Letter) (text : List Letter) :
    pattern.Occurs (letter :: text) ↔
      pattern.isAt (letter :: text) = true ∨ pattern.Occurs text := by
  constructor
  · rintro ⟨later, suffix, isAt⟩
    rcases List.suffix_cons_iff.mp suffix with rfl | inText
    · exact Or.inl isAt
    · exact Or.inr ⟨later, inText, isAt⟩
  · rintro (isAt | ⟨later, suffix, isAt⟩)
    · exact ⟨_, List.suffix_refl _, isAt⟩
    · exact ⟨later, suffix.trans (List.suffix_cons _ _), isAt⟩

theorem not_occurs_nil : ¬ pattern.Occurs ([] : List Letter) := by
  rintro ⟨later, suffix, isAt⟩
  rw [List.suffix_nil.mp suffix, isAt_nil] at isAt
  cases isAt

theorem afterBeginning_literal
    [DecidableEq Letter] (needle text rest : List Letter) :
    afterBeginning (needle.map fun expected letter => letter == expected)
        text = some rest ↔ text = needle ++ rest := by
  induction needle generalizing text with
  | nil => simp [afterBeginning]
  | cons expected needle induction =>
      cases text with
      | nil => simp [afterBeginning]
      | cons letter text =>
          simp only [List.map_cons, afterBeginning, beq_iff_eq,
            List.cons_append, List.cons.injEq]
          by_cases same : letter = expected
          · rw [if_pos same, induction]
            simp [same]
          · simp [same]

/-- A literal occurs in a text which has it as a part. -/
theorem occurs_literal_iff
    [DecidableEq Letter] {needle : List Letter} (nonempty : needle ≠ [])
    (text : List Letter) :
    (literal needle nonempty).Occurs text ↔ needle <:+: text := by
  have isAt : ∀ later : List Letter,
      (literal needle nonempty).isAt later = true ↔ needle <+: later := by
    intro later
    rw [isAt_iff]
    simp only [literal, List.mem_singleton, exists_eq_left,
      afterMatch_isSome_iff, afterBeginning_literal]
    constructor
    · rintro ⟨rest, same, -⟩
      exact ⟨rest, same.symm⟩
    · rintro ⟨rest, same⟩
      exact ⟨rest, same.symm, by simp⟩
  simp only [Occurs, isAt, List.infix_iff_prefix_suffix]
  constructor
  · rintro ⟨later, suffix, isPrefix⟩
    exact ⟨later, isPrefix, suffix⟩
  · rintro ⟨later, isPrefix, suffix⟩
    exact ⟨later, suffix, isPrefix⟩

/-! ## Substitutions make no matches -/

/-- Nothing of a match of the second pattern can come from a replacement for
the first one: its beginnings have no letter of the replacement, and if the
letters after a beginning can be of the replacement, they can be of a match. -/
structure Separates (pattern other : Pattern Letter) (replacement : List Letter) :
    Prop where
  replaced : replacement ≠ []
  apart {beginning : List (Letter → Bool)} {test : Letter → Bool}
    {letter : Letter} (member : beginning ∈ other.beginnings)
    (tests : test ∈ beginning) (inReplacement : letter ∈ replacement) :
    test letter = false
  more {isMore : Letter → Bool} {put letter : Letter} {text : List Letter}
    (asks : other.more = some isMore) (first : replacement.head? = some put)
    (isPut : isMore put = true)
    (isAt : pattern.isAt (letter :: text) = true) : isMore letter = true

/-- A match at the start of the result is one at the start of the text. -/
theorem afterBeginning_substitute
    {beginning : List (Letter → Bool)} {text rest : List Letter}
    (first : replacement ≠ [])
    (apart : ∀ test ∈ beginning, ∀ letter ∈ replacement, test letter = false)
    (after : afterBeginning beginning (substitute pattern replacement text) =
      some rest) :
    ∃ rest', afterBeginning beginning text = some rest' ∧
      rest = substitute pattern replacement rest' := by
  induction beginning generalizing text with
  | nil =>
      cases after
      exact ⟨text, rfl, rfl⟩
  | cons test tests induction =>
      cases text with
      | nil => cases after
      | cons letter text =>
          rw [substitute, substituteFrom] at after
          split at after
          · rw [afterBeginning] at after
            split at after
            · next passes =>
                have later := induction
                  (fun test member => apart test (List.mem_cons_of_mem _ member))
                  after
                rcases later with ⟨rest', found, same⟩
                refine ⟨rest', ?_, same⟩
                rw [afterBeginning, if_pos passes, found]
            · cases after
          · rcases List.exists_cons_of_ne_nil first with ⟨put, puts, same⟩
            rw [same, List.cons_append, afterBeginning,
              apart test List.mem_cons_self put (same ▸ List.mem_cons_self)]
              at after
            cases after

/-- Where the second pattern does not match, it does not match afterwards. -/
theorem isAt_of_isAt_substitute
    (separates : Separates pattern other replacement) {text : List Letter}
    (isAt : other.isAt (substitute pattern replacement text) = true) :
    other.isAt text = true := by
  rw [isAt_iff] at isAt ⊢
  rcases isAt with ⟨beginning, member, isMatch⟩
  rcases (afterMatch_isSome_iff _ _ _).mp isMatch with ⟨rest, after, more⟩
  refine ⟨beginning, member, ?_⟩
  rw [afterMatch_isSome_iff]
  rcases afterBeginning_substitute separates.replaced
    (fun test tests letter inReplacement =>
      separates.apart member tests inReplacement) after with
    ⟨rest', found, rfl⟩
  refine ⟨rest', found, ?_⟩
  intro isMore asks
  have next := more isMore asks
  cases rest' with
  | nil => exact next
  | cons letter text =>
      rw [substitute, substituteFrom] at next
      split at next
      · exact next
      · next remainder matched =>
          rcases List.exists_cons_of_ne_nil separates.replaced with
            ⟨put, puts, same⟩
          rw [same, List.cons_append, List.head?_cons, Option.any_some] at next
          rw [List.head?_cons, Option.any_some]
          apply separates.more asks _ next
          · rw [Pattern.isAt, matched, Option.isSome_some]
          · rw [same, List.head?_cons]

/-- The second pattern does not match from within the replacement on. -/
theorem isAt_of_mem_replacement
    (separates : Separates pattern other replacement)
    {letter : Letter} (inReplacement : letter ∈ replacement)
    (text : List Letter) : other.isAt (letter :: text) = false := by
  rw [Bool.eq_false_iff]
  intro isAt
  rcases (isAt_iff _).mp isAt with ⟨beginning, member, isMatch⟩
  rcases (afterMatch_isSome_iff _ _ _).mp isMatch with ⟨rest, after, -⟩
  cases beginning with
  | nil => exact other.nonempty _ member rfl
  | cons test tests =>
      rw [afterBeginning,
        separates.apart member List.mem_cons_self inReplacement] at after
      cases after

theorem occurs_append_replacement
    (separates : Separates pattern other replacement) {part : List Letter}
    (isPart : ∀ letter ∈ part, letter ∈ replacement) (text : List Letter) :
    other.Occurs (part ++ text) ↔ other.Occurs text := by
  induction part with
  | nil => exact Iff.rfl
  | cons letter part induction =>
      rw [List.cons_append, occurs_cons,
        isAt_of_mem_replacement separates (isPart _ List.mem_cons_self),
        induction fun letter member =>
          isPart letter (List.mem_cons_of_mem _ member)]
      simp

theorem not_occurs_substituteFrom
    (separates : Separates pattern other replacement)
    (skipped : Nat) (text : List Letter)
    (covered : ∀ later, later <:+ text → other.isAt later = true →
      pattern.isAt later = true) :
    ¬ other.Occurs (substituteFrom pattern replacement skipped text) := by
  induction text generalizing skipped with
  | nil =>
      rw [substituteFrom]
      exact not_occurs_nil
  | cons letter text induction =>
      have coveredLater : ∀ later, later <:+ text → other.isAt later = true →
          pattern.isAt later = true :=
        fun later suffix =>
          covered later (suffix.trans (List.suffix_cons _ _))
      cases skipped with
      | succ skipped => exact induction skipped coveredLater
      | zero =>
          cases found : pattern.rest (letter :: text) with
          | some rest =>
              rw [substituteFrom, found]
              dsimp only
              rw [occurs_append_replacement separates fun _ member => member]
              exact induction _ coveredLater
          | none =>
              have kept : substitute pattern replacement (letter :: text) =
                  letter :: substituteFrom pattern replacement 0 text := by
                rw [substitute, substituteFrom, found]
              rw [← substitute, kept, occurs_cons, ← kept]
              rintro (here | later)
              · have begins := covered _ (List.suffix_refl _)
                  (isAt_of_isAt_substitute separates here)
                rw [Pattern.isAt, found] at begins
                cases begins
              · exact induction 0 coveredLater later

/-- A pattern which occurs nowhere occurs nowhere after a substitution. -/
theorem not_occurs_substitute
    (separates : Separates pattern other replacement) {text : List Letter}
    (absent : ¬ other.Occurs text) :
    ¬ other.Occurs (substitute pattern replacement text) := by
  apply not_occurs_substituteFrom separates
  intro later suffix isAt
  exact absurd ⟨later, suffix, isAt⟩ absent

/-- A pattern occurs nowhere after its substitution. -/
theorem not_occurs_substitute_self
    (separates : Separates pattern pattern replacement) (text : List Letter) :
    ¬ pattern.Occurs (substitute pattern replacement text) :=
  not_occurs_substituteFrom separates 0 text fun _ _ isAt => isAt

/-- Without a match nothing changes. -/
theorem substitute_eq_self
    (pattern : Pattern Letter) (replacement : List Letter) {text : List Letter}
    (absent : ¬ pattern.Occurs text) :
    substitute pattern replacement text = text := by
  induction text with
  | nil => rfl
  | cons letter text induction =>
      rw [occurs_cons, not_or] at absent
      have missing : pattern.rest (letter :: text) = none := by
        rw [← Option.not_isSome_iff_eq_none]
        exact absent.1
      rw [substitute, substituteFrom, missing]
      dsimp only
      rw [← substitute, induction absent.2]

end Pattern

end Sluicery.Library
