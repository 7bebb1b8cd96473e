import Mathlib.Data.List.Basic

/-!
# Normalization form C

A text is decomposed, its combining marks are put in order, and then starters
are composed with the marks after them which are not blocked.  What is read of
the single characters comes from a character database, of which only the
characters of ASCII are fixed here.

A character of ASCII takes part in nothing before it, so a text can be
normalized in front of it and from it on.
-/

namespace Sluicery.Library.Nfc

/-- What normalization reads from the character database. -/
structure CharacterData where
  /-- The canonical decomposition, taken as far as it goes. -/
  decomposition : Char → List Char
  combiningClass : Char → Nat
  /-- The character which two characters are composed to. -/
  composite : Char → Char → Option Char
  decomposition_ascii {char : Char} (ascii : char.toNat < 128) :
    decomposition char = [char]
  combiningClass_ascii {char : Char} (ascii : char.toNat < 128) :
    combiningClass char = 0
  composite_ascii {char : Char} (first : Char) (ascii : char.toNat < 128) :
    composite first char = none

variable (data : CharacterData)

/-- A mark goes behind the marks of a smaller class. -/
def place (char : Char) : List Char → List Char
  | [] => [char]
  | next :: rest =>
      if data.combiningClass next ≠ 0 ∧
          data.combiningClass next < data.combiningClass char then
        next :: place char rest
      else char :: next :: rest

/-- The marks after each starter by class, and otherwise in their order. -/
def reorder : List Char → List Char
  | [] => []
  | char :: rest => place data char (reorder rest)

/-- A mark of the same class or a greater one stands in between. -/
def isBlocked (marks : List Char) (char : Char) : Bool :=
  marks.any fun mark =>
    data.combiningClass char ≤ data.combiningClass mark

/-- Compose a starter, which the marks follow so far, with the text. -/
def composeWith (starter : Char) (marks : List Char) : List Char → List Char
  | [] => starter :: marks
  | char :: rest =>
      match if isBlocked data marks char then none
          else data.composite starter char with
      | some composite => composeWith composite marks rest
      | none =>
          if data.combiningClass char = 0 then
            starter :: marks ++ composeWith char [] rest
          else composeWith starter (marks ++ [char]) rest

/-- Compose a text; marks before the first starter stay. -/
def compose : List Char → List Char
  | [] => []
  | char :: rest =>
      if data.combiningClass char = 0 then composeWith data char [] rest
      else char :: compose rest

/-- `unicodedata.normalize("NFC", text)`. -/
def normalize (text : List Char) : List Char :=
  compose data (reorder data (text.flatMap data.decomposition))

/-! ## In front of a character of ASCII -/

variable {data} {char : Char}

theorem place_append
    (isStarter : data.combiningClass char = 0) (mark : Char)
    (before after : List Char) :
    place data mark (before ++ char :: after) =
      place data mark before ++ char :: after := by
  induction before with
  | nil => simp [place, isStarter]
  | cons next before induction =>
      rw [List.cons_append, place, place]
      split
      · rw [induction, List.cons_append]
      · rfl

theorem reorder_append
    (isStarter : data.combiningClass char = 0) (before after : List Char) :
    reorder data (before ++ char :: after) =
      reorder data before ++ char :: reorder data after := by
  induction before with
  | nil =>
      show place data char (reorder data after) = char :: reorder data after
      cases reorder data after with
      | nil => rfl
      | cons next rest => simp [place, isStarter]
  | cons first before induction =>
      rw [List.cons_append, reorder, induction, place_append isStarter,
        reorder]

theorem composeWith_append
    (isStarter : data.combiningClass char = 0)
    (noSecond : ∀ first, data.composite first char = none)
    (starter : Char) (marks before after : List Char) :
    composeWith data starter marks (before ++ char :: after) =
      composeWith data starter marks before ++
        composeWith data char [] after := by
  induction before generalizing starter marks with
  | nil =>
      have apart : composeWith data starter marks (char :: after) =
          starter :: marks ++ composeWith data char [] after := by
        rw [composeWith, noSecond, ite_self]
        dsimp only
        rw [if_pos isStarter]
      rw [List.nil_append, apart, composeWith]
  | cons next before induction =>
      rw [List.cons_append, composeWith, composeWith]
      split
      · exact induction _ _
      · split
        · rw [induction, List.append_assoc]
        · exact induction _ _

theorem compose_append
    (isStarter : data.combiningClass char = 0)
    (noSecond : ∀ first, data.composite first char = none)
    (before after : List Char) :
    compose data (before ++ char :: after) =
      compose data before ++ composeWith data char [] after := by
  induction before with
  | nil =>
      show compose data (char :: after) = composeWith data char [] after
      rw [compose, if_pos isStarter]
  | cons next before induction =>
      rw [List.cons_append, compose, compose]
      split
      · exact composeWith_append isStarter noSecond _ _ _ _
      · rw [induction, List.cons_append]

/-- A text is normalized in front of a character of ASCII and from it on. -/
theorem normalize_append
    (ascii : char.toNat < 128) (before after : List Char) :
    normalize data (before ++ char :: after) =
      normalize data before ++ normalize data (char :: after) := by
  have isStarter := data.combiningClass_ascii ascii
  have noSecond := fun first => data.composite_ascii first ascii
  have split : (before ++ char :: after).flatMap data.decomposition =
      before.flatMap data.decomposition ++
        char :: after.flatMap data.decomposition := by
    rw [List.flatMap_append, List.flatMap_cons, data.decomposition_ascii ascii,
      List.singleton_append]
  have later := compose_append isStarter noSecond []
    (reorder data (after.flatMap data.decomposition))
  have reordered := reorder_append isStarter []
    (after.flatMap data.decomposition)
  rw [normalize, split, reorder_append isStarter,
    compose_append isStarter noSecond, normalize, normalize,
    List.flatMap_cons, data.decomposition_ascii ascii,
    List.singleton_append]
  rw [List.nil_append] at later reordered
  rw [reordered, reorder, List.nil_append, later, compose, List.nil_append]

theorem normalize_singleton (ascii : char.toNat < 128) :
    normalize data [char] = [char] := by
  simp [normalize, data.decomposition_ascii ascii, reorder, place, compose,
    data.combiningClass_ascii ascii, composeWith]

/-- Characters of ASCII at the end do not change. -/
theorem normalize_append_ascii
    {last : List Char} (ascii : ∀ char ∈ last, char.toNat < 128)
    (text : List Char) :
    normalize data (text ++ last) = normalize data text ++ last := by
  induction last generalizing text with
  | nil => rw [List.append_nil, List.append_nil]
  | cons char last induction =>
      have isAscii := ascii char List.mem_cons_self
      have later := induction fun char member =>
        ascii char (List.mem_cons_of_mem _ member)
      have single := later [char]
      rw [List.singleton_append, normalize_singleton isAscii] at single
      rw [normalize_append isAscii, single, List.singleton_append]

/-- A character of ASCII stays in front of another one. -/
theorem normalize_cons
    {next : Char} (ascii : char.toNat < 128) (nextAscii : next.toNat < 128)
    (text : List Char) :
    normalize data (char :: next :: text) =
      char :: normalize data (next :: text) := by
  have split : normalize data ([char] ++ next :: text) =
      normalize data [char] ++ normalize data (next :: text) :=
    normalize_append nextAscii [char] text
  rw [normalize_singleton ascii] at split
  exact split

end Sluicery.Library.Nfc
