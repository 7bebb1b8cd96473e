import Mathlib.Data.List.Infix
import Mathlib.Data.List.TakeWhile
import Mathlib.Data.String.Basic

/-!
# Texts read by lines

`read_text` decodes UTF-8 and translates the newlines; `splitlines` ends a
line at every Unicode line break, not at newlines only.  Lines which hold no
break are the lines of the text written from them, and a beginning of that
text holds the beginning of the lines and at most a part of the next one.
-/

namespace Sluicery.Library.TextLines

/-! ## Reading -/

/-- The characters at which `str.splitlines` ends a line. -/
def isLineBreak (char : Char) : Bool :=
  [0x0a, 0x0b, 0x0c, 0x0d, 0x1c, 0x1d, 0x1e, 0x85, 0x2028, 0x2029].contains
    char.toNat

/-- The universal newlines of a text file. -/
def translateNewlines : List Char → List Char
  | [] => []
  | '\r' :: '\n' :: rest => '\n' :: translateNewlines rest
  | '\r' :: rest => '\n' :: translateNewlines rest
  | char :: rest => char :: translateNewlines rest

/-- `path.read_text(encoding="utf-8")`; `none` is a `UnicodeDecodeError`. -/
def readText (bytes : ByteArray) : Option (List Char) :=
  (String.fromUTF8? bytes).map fun text => translateNewlines text.toList

/-- `str.splitlines()`. -/
def splitlines : List Char → List (List Char)
  | [] => []
  | '\r' :: '\n' :: rest => [] :: splitlines rest
  | char :: rest =>
      if isLineBreak char then [] :: splitlines rest
      else
        match splitlines rest with
        | [] => [[char]]
        | line :: lines => (char :: line) :: lines

/-- The text written line by line. -/
def unlines (lines : List (List Char)) : List Char :=
  lines.flatMap fun line => line ++ ['\n']

/-! ## Lines -/

/-- A character within a line goes to the front of the first line. -/
theorem splitlines_cons
    {char : Char} (within : isLineBreak char = false) (rest : List Char) :
    splitlines (char :: rest) =
      match splitlines rest with
      | [] => [[char]]
      | line :: lines => (char :: line) :: lines := by
  have notReturn : char ≠ '\r' := by
    rintro rfl
    cases within
  rw [splitlines.eq_3 _ _ (fun _ impossible => absurd impossible notReturn),
    within]
  rfl

theorem splitlines_line
    {line : List Char} (whole : ∀ char ∈ line, isLineBreak char = false)
    (rest : List Char) :
    splitlines (line ++ '\n' :: rest) = line :: splitlines rest := by
  induction line with
  | nil => rfl
  | cons char line induction =>
      rw [List.cons_append, splitlines_cons (whole char List.mem_cons_self),
        induction fun other member =>
          whole other (List.mem_cons_of_mem _ member)]

/-- A last line needs no newline. -/
theorem splitlines_last
    {line : List Char} (whole : ∀ char ∈ line, isLineBreak char = false)
    (nonempty : line ≠ []) : splitlines line = [line] := by
  induction line with
  | nil => exact absurd rfl nonempty
  | cons char line induction =>
      rw [splitlines_cons (whole char List.mem_cons_self)]
      cases line with
      | nil => rfl
      | cons next line =>
          rw [induction (fun other member =>
            whole other (List.mem_cons_of_mem _ member))
              (List.cons_ne_nil _ _)]

/-- What stands before a break is a line. -/
theorem splitlines_break
    {piece : List Char} (whole : ∀ char ∈ piece, isLineBreak char = false)
    {char : Char} (isBreak : isLineBreak char = true) (rest : List Char) :
    ∃ lines, splitlines (piece ++ char :: rest) = piece :: lines := by
  induction piece with
  | nil =>
      rw [List.nil_append, splitlines.eq_def]
      split
      · next impossible => cases impossible
      · exact ⟨_, rfl⟩
      · next same =>
          cases same
          rw [if_pos isBreak]
          exact ⟨_, rfl⟩
  | cons first piece induction =>
      rcases induction fun other member =>
        whole other (List.mem_cons_of_mem _ member) with ⟨lines, split⟩
      refine ⟨lines, ?_⟩
      rw [List.cons_append, splitlines_cons (whole first List.mem_cons_self),
        split]

theorem splitlines_unlines_append
    {lines : List (List Char)}
    (whole : ∀ line ∈ lines, ∀ char ∈ line, isLineBreak char = false)
    (rest : List Char) :
    splitlines (unlines lines ++ rest) = lines ++ splitlines rest := by
  induction lines with
  | nil => rfl
  | cons line lines induction =>
      rw [unlines, List.flatMap_cons, List.append_assoc, List.append_assoc,
        List.singleton_append, splitlines_line (whole line List.mem_cons_self)]
      exact congrArg (line :: ·) (induction fun other member =>
        whole other (List.mem_cons_of_mem _ member))

theorem splitlines_unlines
    {lines : List (List Char)}
    (whole : ∀ line ∈ lines, ∀ char ∈ line, isLineBreak char = false) :
    splitlines (unlines lines) = lines := by
  have split := splitlines_unlines_append whole []
  rw [List.append_nil] at split
  exact split.trans (List.append_nil lines)

/-- A text without carriage returns stays as it is. -/
theorem translateNewlines_eq
    {text : List Char} (noReturn : '\r' ∉ text) :
    translateNewlines text = text := by
  induction text with
  | nil => rfl
  | cons char rest induction =>
      rw [List.mem_cons, not_or] at noReturn
      rw [translateNewlines.eq_4 _ _
        (fun _ impossible => absurd impossible.symm noReturn.1)
        (fun impossible => absurd impossible.symm noReturn.1),
        induction noReturn.2]

/-! ## Beginnings -/

/-- The beginning of a text holds whole lines, and a part of the next one. -/
theorem beginning_of_unlines
    {lines : List (List Char)} {text : List Char}
    (beginning : text <+: unlines lines) :
    ∃ complete part, text = unlines complete ++ part ∧
      (part = [] ∧ complete <+: lines ∨
        part ≠ [] ∧ ∃ line, complete ++ [line] <+: lines ∧ part <+: line) := by
  induction lines generalizing text with
  | nil =>
      refine ⟨[], [], ?_, Or.inl ⟨rfl, List.nil_prefix⟩⟩
      exact List.prefix_nil.mp beginning
  | cons line lines induction =>
      rw [unlines, List.flatMap_cons, List.append_assoc,
        List.singleton_append] at beginning
      rcases beginning with ⟨more, isText⟩
      rcases List.append_eq_append_iff.mp isText with
        ⟨between, isLine, -⟩ | ⟨between, isMore, isBetween⟩
      · -- The text ends within the first line.
        refine ⟨[], text, rfl, ?_⟩
        by_cases empty : text = []
        · exact Or.inl ⟨empty, List.nil_prefix⟩
        · exact Or.inr ⟨empty, line, ⟨lines, rfl⟩, ⟨between, isLine.symm⟩⟩
      · cases between with
        | nil =>
            refine ⟨[], text, rfl, ?_⟩
            rw [List.append_nil] at isMore
            by_cases empty : text = []
            · exact Or.inl ⟨empty, List.nil_prefix⟩
            · exact Or.inr ⟨empty, line, ⟨lines, rfl⟩,
                isMore ▸ List.prefix_rfl⟩
        | cons newline between =>
            rw [List.cons_append, List.cons.injEq] at isBetween
            rcases isBetween with ⟨rfl, isRest⟩
            have beginningRest : between <+: unlines lines :=
              ⟨more, isRest.symm⟩
            rcases induction beginningRest with
              ⟨complete, part, isBetween, which⟩
            refine ⟨line :: complete, part, ?_, ?_⟩
            · rw [isMore, isBetween, unlines, unlines, List.flatMap_cons,
                List.append_assoc, List.append_assoc]
              rfl
            · rcases which with ⟨empty, taken⟩ | ⟨nonempty, next, taken, isPart⟩
              · exact Or.inl ⟨empty, (List.prefix_cons_inj line).mpr taken⟩
              · exact Or.inr ⟨nonempty, next,
                  (List.prefix_cons_inj line).mpr taken, isPart⟩

/-! ## Bytes -/

theorem fromUTF8?_toUTF8 (text : String) :
    String.fromUTF8? text.toUTF8 = some text := by
  simp only [String.fromUTF8?, String.toUTF8_eq_toByteArray,
    dif_pos text.isValidUTF8]
  rfl

/-- Every character takes a byte at least. -/
theorem length_le_size_toUTF8 (text : String) :
    text.length ≤ text.toUTF8.size := by
  have chars : ∀ list : List Char, list.length ≤ String.utf8Len list := by
    intro list
    induction list with
    | nil => exact Nat.le_refl _
    | cons char rest induction =>
        have positive := char.utf8Size_pos
        rw [List.length_cons, String.utf8Len_cons]
        omega
  have bytes : text.toUTF8.size = String.utf8Len text.toList := by
    rw [← String.utf8ByteSize_ofList, String.ofList_toList]
    rfl
  rw [bytes, ← String.length_toList]
  exact chars text.toList

/-- A file which is decoded after its end was lost is a beginning. -/
theorem toList_prefix_of_fromUTF8?
    {text decoded : String} {count : Nat}
    (isDecoded : String.fromUTF8? (text.toUTF8.extract 0 count) =
      some decoded) : decoded.toList <+: text.toList := by
  rw [String.fromUTF8?] at isDecoded
  split at isDecoded
  · cases isDecoded
    apply List.isPrefix_of_utf8Encode_append_eq_utf8Encode
      (text.toUTF8.extract count text.toUTF8.size)
    rw [String.utf8Encode_toList, String.utf8Encode_toList]
    show text.toUTF8.extract 0 count ++
      text.toUTF8.extract count text.toUTF8.size = text.toUTF8
    rw [ByteArray.extract_append_extract, Nat.zero_min,
      ByteArray.extract_zero_max_size]
  · cases isDecoded

end Sluicery.Library.TextLines
