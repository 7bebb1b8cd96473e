import Mathlib.Data.List.Basic

/-!
# Percent templates

A template keeps its text, writes `%` for `%%`, and replaces a conversion,
which is `%(name)` with the specification that follows, by a value.  A text in
front of a template is kept as it is, whatever the values are, exactly when it
has no `%%` and no conversion begins in it.
-/

namespace Sluicery.Library.PercentTemplate

/-- What a template language takes for the specification of a conversion. -/
structure Conversions where
  /-- Split a specification from a text. -/
  split : List Char → Option (List Char × List Char)
  append_of_split : ∀ {text specification rest},
    split text = some (specification, rest) → text = specification ++ rest
  split_string : ∀ rest, split ('s' :: rest) = some (['s'], rest)

/-- A conversion and the text after it. -/
structure Conversion where
  name : List Char
  specification : List Char
  rest : List Char

variable (conversions : Conversions)

/-- The conversion whose name the text begins with. -/
def Conversions.read (text : List Char) : Option Conversion :=
  match text.dropWhile (· ≠ ')') with
  | [] => none
  | _ :: after =>
      (conversions.split after).map fun found =>
        ⟨text.takeWhile (· ≠ ')'), found.1, found.2⟩

theorem Conversions.length_rest
    {text : List Char} {conversion : Conversion}
    (found : conversions.read text = some conversion) :
    conversion.rest.length < text.length := by
  unfold read at found
  split at found
  · cases found
  · next closing after isAfter =>
      rcases Option.map_eq_some_iff.mp found with
        ⟨⟨specification, rest⟩, isSplit, rfl⟩
      have whole := congrArg List.length
        (List.takeWhile_append_dropWhile (p := (· ≠ ')')) (l := text))
      have length := congrArg List.length
        (conversions.append_of_split isSplit)
      rw [isAfter] at whole
      simp only [List.length_append, List.length_cons] at whole length
      show rest.length < text.length
      omega

/-- The text of a template, with these values. -/
def render (value : List Char → List Char → List Char) :
    List Char → List Char
  | [] => []
  | '%' :: '%' :: rest => '%' :: render value rest
  | '%' :: '(' :: rest =>
      match _found : conversions.read rest with
      | none => '%' :: render value ('(' :: rest)
      | some conversion =>
          value conversion.name conversion.specification ++
            render value conversion.rest
  | first :: rest => first :: render value rest
termination_by text => text.length
decreasing_by
  · simp only [List.length_cons]
    omega
  · simp
  · have shorter := conversions.length_rest _found
    simp only [List.length_cons]
    omega
  · simp

/-- A `%` in front of the text is not kept. -/
def isSpecial : List Char → Bool
  | '%' :: _ => true
  | '(' :: rest => (conversions.read rest).isSome
  | _ => false

/-- A text which is kept, where it is followed by another one. -/
def isLiteral (following : List Char) : List Char → Bool
  | [] => true
  | first :: rest =>
      !(first == '%' && isSpecial conversions (rest ++ following)) &&
        isLiteral following rest

variable {conversions} {value : List Char → List Char → List Char}

@[simp]
theorem render_nil : render conversions value [] = [] := by
  rw [render]

@[simp]
theorem render_percent (rest : List Char) :
    render conversions value ('%' :: '%' :: rest) =
      '%' :: render conversions value rest := by
  rw [render]

theorem render_conversion
    {rest : List Char} {conversion : Conversion}
    (found : conversions.read rest = some conversion) :
    render conversions value ('%' :: '(' :: rest) =
      value conversion.name conversion.specification ++
        render conversions value conversion.rest := by
  rw [render]
  split
  · next notFound => rw [found] at notFound; cases notFound
  · next conversion' found' =>
      rw [found, Option.some.injEq] at found'
      rw [found']

/-- Every other character is kept. -/
theorem render_cons
    {first : Char} {rest : List Char}
    (kept : (first == '%' && isSpecial conversions rest) = false) :
    render conversions value (first :: rest) =
      first :: render conversions value rest := by
  by_cases isPercent : first = '%'
  · subst isPercent
    simp only [beq_self_eq_true, Bool.true_and] at kept
    rw [render.eq_def]
    split
    · next empty => cases empty
    · next tail isTail =>
        obtain rfl := (List.cons.inj isTail).2
        cases kept
    · next tail isTail =>
        obtain rfl := (List.cons.inj isTail).2
        simp only [isSpecial, Option.isSome_eq_false_iff,
          Option.isNone_iff_eq_none] at kept
        split
        · rfl
        · next conversion found =>
            rw [kept] at found
            cases found
    · next first' rest' _ _ isCons =>
        obtain ⟨rfl, rfl⟩ := List.cons.inj isCons
        rfl
  · rw [render.eq_def]
    split
    · next empty => cases empty
    · next tail isTail => exact absurd (List.cons.inj isTail).1 isPercent
    · next tail isTail => exact absurd (List.cons.inj isTail).1 isPercent
    · next first' rest' _ _ isCons =>
        obtain ⟨rfl, rfl⟩ := List.cons.inj isCons
        rfl

/-- A literal text is kept. -/
theorem render_append
    {following text : List Char}
    (literal : isLiteral conversions following text = true) :
    render conversions value (text ++ following) =
      text ++ render conversions value following := by
  induction text with
  | nil => rfl
  | cons first rest induction =>
      simp only [isLiteral, Bool.and_eq_true, Bool.not_eq_true'] at literal
      rw [List.cons_append, render_cons literal.1, induction literal.2,
        List.cons_append]

theorem Conversions.mem_rest
    {text : List Char} {conversion : Conversion} {character : Char}
    (found : conversions.read text = some conversion)
    (member : character ∈ conversion.rest) : character ∈ text := by
  unfold read at found
  split at found
  · cases found
  · next closing after isAfter =>
      rcases Option.map_eq_some_iff.mp found with
        ⟨⟨specification, rest⟩, isSplit, rfl⟩
      have inAfter : character ∈ after := by
        rw [conversions.append_of_split isSplit]
        exact List.mem_append_right _ member
      apply (List.dropWhile_suffix (· ≠ ')')).mem
      rw [isAfter]
      exact List.mem_cons_of_mem _ inAfter

/-- A character comes from the template or from a value. -/
theorem mem_render
    {character : Char} (notPercent : character ≠ '%')
    (notValue : ∀ name specification,
      character ∉ value name specification)
    {text : List Char}
    (member : character ∈ render conversions value text) :
    character ∈ text := by
  induction text using render.induct conversions with
  | case1 => simp at member
  | case2 rest induction =>
      rw [render_percent, List.mem_cons] at member
      rcases member with isPercent | member
      · exact absurd isPercent notPercent
      · exact List.mem_cons_of_mem _ (List.mem_cons_of_mem _
          (induction member))
  | case3 rest notFound induction =>
      rw [render_cons (by simp [isSpecial, notFound]), List.mem_cons]
        at member
      rcases member with isPercent | member
      · exact absurd isPercent notPercent
      · exact List.mem_cons_of_mem _ (induction member)
  | case4 rest conversion found induction =>
      rw [render_conversion found, List.mem_append] at member
      rcases member with inValue | member
      · exact absurd inValue (notValue _ _)
      · exact List.mem_cons_of_mem _ (List.mem_cons_of_mem _
          (conversions.mem_rest found (induction member)))
  | case5 first rest notPercents notConversion induction =>
      have kept : (first == '%' && isSpecial conversions rest) = false := by
        by_contra special
        simp only [Bool.not_eq_false, Bool.and_eq_true, beq_iff_eq]
          at special
        rcases special with ⟨rfl, special⟩
        unfold isSpecial at special
        split at special
        · exact notPercents _ rfl rfl
        · exact notConversion _ rfl rfl
        · cases special
      rw [render_cons kept, List.mem_cons] at member
      rcases member with rfl | member
      · exact List.mem_cons_self
      · exact List.mem_cons_of_mem _ (induction member)

/-- The value which is a row of one character. -/
def row (length : Nat) (_name _specification : List Char) : List Char :=
  List.replicate length 'x'

/-- A row of one character does not begin with a text and a `/`, when it is
longer than the text. -/
theorem not_prefix_row
    {text rest name specification : List Char} {length : Nat}
    (shorter : text.length < length) :
    ¬ (text ++ ['/']) <+: row length name specification ++ rest := by
  intro isPrefix
  have inRow : (text ++ ['/']) <+: row length name specification := by
    refine List.prefix_of_prefix_length_le isPrefix
      (List.prefix_append _ _) ?_
    simp only [row, List.length_append, List.length_replicate,
      List.length_singleton]
    omega
  have slash : '/' ∈ List.replicate length 'x' :=
    inRow.subset (List.mem_append_right _ (List.mem_singleton_self _))
  exact absurd (List.eq_of_mem_replicate slash) (by decide)

/-- What is special in front of a `/`. -/
theorem isSpecial_cases
    {rest template : List Char}
    (special : isSpecial conversions (rest ++ '/' :: template) = true) :
    (∃ after, rest = '%' :: after) ∨
      ∃ after conversion, rest = '(' :: after ∧
        conversions.read (after ++ '/' :: template) = some conversion := by
  cases rest with
  | nil => cases special
  | cons head after =>
      rw [List.cons_append] at special
      unfold isSpecial at special
      split at special
      · next text isText =>
          obtain ⟨rfl, -⟩ := List.cons.inj isText
          exact Or.inl ⟨after, rfl⟩
      · next text isText =>
          obtain ⟨rfl, rfl⟩ := List.cons.inj isText
          rcases Option.isSome_iff_exists.mp special with ⟨conversion, found⟩
          exact Or.inr ⟨after, conversion, rfl, found⟩
      · cases special

/-- What is kept of a text is not longer than the text, so that it does not
begin with a longer text of as many `/`. -/
theorem not_prefix_of_length
    {length : Nat} {template : List Char} (text wanted : List Char)
    (sameCount : text.count '/' = wanted.count '/')
    (longer : text.length < wanted.length)
    (shorter : wanted.length < length) :
    ¬ (wanted ++ ['/']) <+:
      render conversions (row length) (text ++ '/' :: template) := by
  induction size : text.length using Nat.strongRecOn
    generalizing text wanted with
  | ind size induction =>
    subst size
    cases wanted with
    | nil => simp at longer
    | cons head wanted =>
      cases text with
      | nil =>
          rw [List.nil_append, render_cons rfl, List.cons_append,
            List.cons_prefix_cons]
          rintro ⟨rfl, -⟩
          simp at sameCount
      | cons first rest =>
          simp only [List.length_cons] at longer shorter induction
          by_cases kept : (first == '%' &&
              isSpecial conversions (rest ++ '/' :: template)) = false
          · rw [List.cons_append, List.cons_append, render_cons kept,
              List.cons_prefix_cons]
            rintro ⟨rfl, isPrefix⟩
            refine induction rest.length (by omega) rest wanted ?_
              (by omega) (by omega) rfl isPrefix
            simpa [List.count_cons] using sameCount
          · simp only [Bool.not_eq_false, Bool.and_eq_true, beq_iff_eq]
              at kept
            rcases kept with ⟨rfl, special⟩
            rcases isSpecial_cases special with
              ⟨after, rfl⟩ | ⟨after, conversion, rfl, found⟩
            · simp only [List.cons_append, render_percent,
                List.cons_prefix_cons]
              rintro ⟨rfl, isPrefix⟩
              simp only [List.length_cons] at longer induction
              refine induction after.length (by omega) after wanted ?_
                (by omega) (by omega) rfl isPrefix
              simpa [List.count_cons] using sameCount
            · have whole : '%' :: '(' :: after ++ '/' :: template =
                  '%' :: '(' :: (after ++ '/' :: template) := rfl
              rw [whole, render_conversion found]
              refine not_prefix_row ?_
              simp only [List.length_cons]
              omega

/-- A text which is not literal is not kept for a long value. -/
theorem not_prefix_of_not_literal
    {length : Nat} {template : List Char} :
    ∀ {text : List Char},
      isLiteral conversions ('/' :: template) text = false →
      text.length < length →
      ¬ (text ++ ['/']) <+:
        render conversions (row length) (text ++ '/' :: template) := by
  intro text
  induction text with
  | nil => intro notLiteral; cases notLiteral
  | cons first rest induction =>
      intro notLiteral shorter
      by_cases kept : (first == '%' &&
          isSpecial conversions (rest ++ '/' :: template)) = false
      · rw [List.cons_append, List.cons_append, render_cons kept,
          List.cons_prefix_cons]
        rintro ⟨-, isPrefix⟩
        simp only [isLiteral, kept, Bool.not_false, Bool.true_and]
          at notLiteral
        refine induction notLiteral ?_ isPrefix
        simp only [List.length_cons] at shorter
        omega
      · simp only [Bool.not_eq_false, Bool.and_eq_true, beq_iff_eq] at kept
        rcases kept with ⟨rfl, special⟩
        rcases isSpecial_cases special with
          ⟨after, rfl⟩ | ⟨after, conversion, rfl, found⟩
        · simp only [List.cons_append, render_percent, List.cons_prefix_cons]
          rintro ⟨-, isPrefix⟩
          simp only [List.length_cons] at shorter
          refine not_prefix_of_length after ('%' :: after) ?_ ?_ ?_ isPrefix
          · simp
          · simp
          · simp only [List.length_cons]
            omega
        · have whole : '%' :: '(' :: after ++ '/' :: template =
              '%' :: '(' :: (after ++ '/' :: template) := rfl
          rw [whole, render_conversion found]
          exact not_prefix_row shorter

/-- A text is kept for all values exactly when it is literal. -/
theorem isLiteral_iff
    {text template : List Char} :
    isLiteral conversions ('/' :: template) text = true ↔
      ∀ length, (text ++ ['/']) <+:
        render conversions (row length) (text ++ '/' :: template) := by
  constructor
  · intro literal length
    rw [render_append literal, render_cons (by rfl)]
    exact ⟨render conversions (row length) template, by simp⟩
  · intro kept
    by_contra notLiteral
    exact not_prefix_of_not_literal (Bool.eq_false_iff.mpr notLiteral)
      (Nat.lt_succ_self text.length) (kept (text.length + 1))

end Sluicery.Library.PercentTemplate
