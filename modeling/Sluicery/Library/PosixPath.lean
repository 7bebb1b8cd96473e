import Mathlib.Data.String.Basic

/-!
# Pure POSIX paths

Paths as `pathlib.PurePosixPath` sees them: a root and the parts between the
slashes.  No file system is involved.  A path of a text is normal, and a normal
path is the path of its own text.
-/

namespace Sluicery.Library

/-- `PurePosixPath`: the root and the parts. -/
structure PurePosixPath where
  root : String
  parts : List String
deriving DecidableEq, Repr

namespace PurePosixPath

/-- The root of a path: two slashes are a root of their own. -/
def rootOf (path : List Char) : String :=
  match path with
  | '/' :: '/' :: '/' :: _ => "/"
  | '/' :: '/' :: _ => "//"
  | '/' :: _ => "/"
  | _ => ""

/-- `PurePosixPath(path)`: empty and `.` parts vanish. -/
def ofString (path : String) : PurePosixPath where
  root := rootOf path.toList
  parts := (path.splitOn "/").filter fun part => part != "" && part != "."

/-- `path.relative_to(prefix)`: the parts after the prefix. -/
def relativeTo (path base : PurePosixPath) : Option (List String) :=
  if path.root = base.root ∧ base.parts <+: path.parts then
    some (path.parts.drop base.parts.length)
  else none

/-- `as_posix`. -/
def asPosix (path : PurePosixPath) : String :=
  if path.root = "" ∧ path.parts = [] then "."
  else path.root ++ String.intercalate "/" path.parts

/-- `path / other`: an absolute path takes the place of the base. -/
def join (base other : PurePosixPath) : PurePosixPath :=
  if other.root = "" then
    { root := base.root, parts := base.parts ++ other.parts }
  else other

/-- `path.name`: the last part. -/
def name (path : PurePosixPath) : String :=
  path.parts.getLast?.getD ""

/-! ## Splitting a text -/

theorem splitOnAux_singleton
    (separator : Char) (before part after : List Char)
    (found : List String) :
    String.splitOnAux (String.ofList (before ++ part ++ after))
        (String.ofList [separator]) ⟨String.utf8Len before⟩
        ⟨String.utf8Len (before ++ part)⟩ 0 found =
      found.reverse ++ (List.splitOnPPrepend (· == separator) after
        part.reverse).map String.ofList := by
  have extracted : String.Pos.Raw.extract
      (String.ofList (before ++ part ++ after)) ⟨String.utf8Len before⟩
        ⟨String.utf8Len (before ++ part)⟩ = String.ofList part := by
    rw [String.utf8Len_append]
    exact String.extract_of_valid before part after
  rw [String.splitOnAux]
  split
  · next ended =>
      rw [(String.atEnd_of_valid (before ++ part) after).mp ended]
        at extracted ⊢
      rw [extracted]
      simp
  · next goesOn =>
      cases after with
      | nil =>
          exact absurd
            ((String.atEnd_of_valid (before ++ part) []).mpr rfl) goesOn
      | cons char after =>
          have get : String.Pos.Raw.get
              (String.ofList (before ++ part ++ char :: after))
                ⟨String.utf8Len (before ++ part)⟩ = char := by
            simpa using String.get_of_valid (before ++ part) (char :: after)
          have next := String.next_of_valid (before ++ part) char after
          have first : String.Pos.Raw.get (String.ofList [separator]) 0 =
              separator := by
            simpa using String.get_of_valid [] [separator]
          have second : String.Pos.Raw.next (String.ofList [separator]) 0 =
              ⟨String.utf8Len [separator]⟩ := by
            simpa using String.next_of_valid [] separator []
          have atEnd := (String.atEnd_of_valid [separator] []).mpr rfl
          rw [List.append_nil] at atEnd
          rw [get, first]
          by_cases same : (char == separator) = true
          · have sameChar : char = separator := by simpa using same
            have back : String.Pos.Raw.unoffsetBy
                ⟨String.utf8Len (before ++ part) + char.utf8Size⟩
                  ⟨String.utf8Len [separator]⟩ =
                ⟨String.utf8Len (before ++ part)⟩ := by
              simp [String.Pos.Raw.unoffsetBy, sameChar]
            have later := splitOnAux_singleton separator
              (before ++ part ++ [char]) [] after
              (String.ofList part :: found)
            rw [if_pos same]
            dsimp only
            rw [second, if_pos atEnd, next, back, extracted]
            rw [List.append_nil, String.utf8Len_append (before ++ part)]
              at later
            simpa [List.splitOnPPrepend_cons_eq_if, same] using later
          · have later := splitOnAux_singleton separator before
              (part ++ [char]) after found
            have stays : String.Pos.Raw.unoffsetBy
                ⟨String.utf8Len (before ++ part)⟩ 0 =
                ⟨String.utf8Len (before ++ part)⟩ := by
              simp [String.Pos.Raw.unoffsetBy]
            rw [if_neg same, stays, next]
            rw [← List.append_assoc, String.utf8Len_append (before ++ part)]
              at later
            simpa [List.splitOnPPrepend_cons_eq_if, same] using later
  termination_by after.length

/-- Splitting a text is splitting its characters. -/
theorem splitOn_singleton (text : String) (separator : Char) :
    text.splitOn (String.ofList [separator]) =
      (text.toList.splitOn separator).map String.ofList := by
  have whole := splitOnAux_singleton separator [] [] text.toList []
  rw [String.splitOn]
  simpa [List.splitOn_eq_splitOnP] using whole

/-! ## Normal paths -/

/-- A part of a path: no separator is in it, and it is no empty step. -/
structure IsPart (part : String) : Prop where
  nonempty : part ≠ ""
  moves : part ≠ "."
  noSlash : '/' ∉ part.toList

/-- A path as `ofString` makes it. -/
structure IsNormal (path : PurePosixPath) : Prop where
  root : path.root ∈ ["", "/", "//"]
  parts {part : String} (member : part ∈ path.parts) : IsPart part

/-- No part between separators has one. -/
theorem not_mem_of_mem_splitOn
    {separator : Char} {text part : List Char}
    (member : part ∈ text.splitOn separator) : separator ∉ part := by
  induction text generalizing part with
  | nil =>
      rw [List.splitOn_nil, List.mem_singleton] at member
      rw [member]
      exact List.not_mem_nil
  | cons char text induction =>
      rw [List.splitOn_cons_eq_if_modifyHead] at member
      split at member
      · rcases List.mem_cons.mp member with rfl | later
        · exact List.not_mem_nil
        · exact induction later
      · next other =>
          cases parts : text.splitOn separator with
          | nil => exact absurd parts (List.splitOn_ne_nil _ _)
          | cons first rest =>
              rw [parts, List.modifyHead_cons] at member
              rcases List.mem_cons.mp member with rfl | later
              · rw [List.mem_cons, not_or]
                constructor
                · intro same
                  exact other (beq_iff_eq.mpr same.symm)
                · exact induction (parts ▸ List.mem_cons_self)
              · exact induction (parts ▸ List.mem_cons_of_mem _ later)

theorem parts_ofString (text : String) :
    (ofString text).parts =
      ((text.toList.splitOn '/').map String.ofList).filter fun part =>
        part != "" && part != "." := by
  rw [ofString, ← splitOn_singleton]

theorem isNormal_ofString (text : String) : (ofString text).IsNormal := by
  constructor
  · show rootOf text.toList ∈ ["", "/", "//"]
    unfold rootOf
    split <;> simp
  · intro part member
    rw [parts_ofString, List.mem_filter, Bool.and_eq_true, bne_iff_ne,
      bne_iff_ne] at member
    rcases member with ⟨inText, nonempty, moves⟩
    rcases List.mem_map.mp inText with ⟨chars, isPart, rfl⟩
    refine ⟨nonempty, moves, ?_⟩
    rw [String.toList_ofList]
    exact not_mem_of_mem_splitOn isPart

/-- The text of parts is split into the parts. -/
theorem parts_ofString_append
    {root : List Char} (isRoot : ∀ char ∈ root, char = '/')
    {parts : List String} (areParts : ∀ part ∈ parts, IsPart part)
    (nonempty : parts ≠ []) :
    (ofString (String.ofList root ++ String.intercalate "/" parts)).parts =
      parts := by
  have split : ((String.intercalate "/" parts).toList.splitOn '/').map
      String.ofList = parts := by
    rw [String.toList_intercalate]
    have slash : "/".toList = ['/'] := rfl
    rw [slash, List.splitOn_intercalate]
    · simp
    · intro chars member
      rcases List.mem_map.mp member with ⟨part, isPart, rfl⟩
      exact (areParts part isPart).noSlash
    · simpa using nonempty
  have kept : parts.filter (fun part => part != "" && part != ".") =
      parts := by
    rw [List.filter_eq_self]
    intro part member
    rw [Bool.and_eq_true, bne_iff_ne, bne_iff_ne]
    exact ⟨(areParts part member).nonempty, (areParts part member).moves⟩
  rw [parts_ofString, String.toList_append, String.toList_ofList]
  induction root with
  | nil => rw [List.nil_append, split, kept]
  | cons char root induction =>
      rw [isRoot char List.mem_cons_self, List.cons_append,
        List.splitOn_cons_eq_if_modifyHead, if_pos (by rfl), List.map_cons]
      exact induction fun char member =>
        isRoot char (List.mem_cons_of_mem _ member)

/-- The characters of parts with slashes between them. -/
theorem mem_intercalate
    {parts : List String} {char : Char}
    (member : char ∈ (String.intercalate "/" parts).toList) :
    char = '/' ∨ ∃ part ∈ parts, char ∈ part.toList := by
  induction parts with
  | nil => simp at member
  | cons part rest induction =>
      cases rest with
      | nil =>
          rw [String.intercalate_singleton] at member
          exact Or.inr ⟨part, List.mem_cons_self, member⟩
      | cons next rest =>
          rw [String.intercalate_cons_cons, String.toList_append,
            String.toList_append, List.mem_append, List.mem_append] at member
          rcases member with (inPart | isSlash) | inRest
          · exact Or.inr ⟨part, List.mem_cons_self, inPart⟩
          · exact Or.inl (List.mem_singleton.mp isSlash)
          · rcases induction inRest with isSlash | ⟨later, isPart, inLater⟩
            · exact Or.inl isSlash
            · exact Or.inr ⟨later, List.mem_cons_of_mem _ isPart, inLater⟩

theorem mem_intercalate_of_mem
    {parts : List String} {part : String} {char : Char}
    (isPart : part ∈ parts) (member : char ∈ part.toList) :
    char ∈ (String.intercalate "/" parts).toList := by
  induction parts with
  | nil => cases isPart
  | cons first rest induction =>
      by_cases last : rest = []
      · rw [last, List.mem_singleton] at isPart
        rw [last, String.intercalate_singleton, ← isPart]
        exact member
      · rw [String.intercalate_cons_of_ne_nil last, String.toList_append,
          String.toList_append, List.mem_append, List.mem_append]
        rcases List.mem_cons.mp isPart with rfl | inRest
        · exact Or.inl (Or.inl member)
        · exact Or.inr (induction inRest)

/-- The first character of the text of parts is no slash. -/
theorem head_intercalate
    {parts : List String} (areParts : ∀ part ∈ parts, IsPart part)
    (nonempty : parts ≠ []) :
    ∃ char rest, (String.intercalate "/" parts).toList = char :: rest ∧
      char ≠ '/' := by
  cases parts with
  | nil => exact absurd rfl nonempty
  | cons part rest =>
      have isPart := areParts part List.mem_cons_self
      cases chars : part.toList with
      | nil =>
          exact absurd (String.toList_eq_nil_iff.mp chars) isPart.nonempty
      | cons char later =>
          have noSlash := isPart.noSlash
          rw [chars, List.mem_cons, not_or] at noSlash
          cases rest with
          | nil =>
              rw [String.intercalate_singleton]
              exact ⟨char, later, chars, Ne.symm noSlash.1⟩
          | cons next rest =>
              rw [String.intercalate_cons_cons, String.toList_append,
                String.toList_append, chars]
              exact ⟨char, _, rfl, Ne.symm noSlash.1⟩

section Root

variable {char : Char} {rest : List Char} (noSlash : char ≠ '/')

include noSlash

theorem rootOf_append_of_ne : rootOf (char :: rest) = "" := by
  rw [rootOf]
  · rintro _ ⟨⟩
    exact noSlash rfl
  · rintro _ ⟨⟩
    exact noSlash rfl
  · rintro _ ⟨⟩
    exact noSlash rfl

theorem rootOf_slash_of_ne : rootOf ('/' :: char :: rest) = "/" := by
  rw [rootOf]
  · rintro _ ⟨⟩
    exact noSlash rfl
  · rintro _ ⟨⟩
    exact noSlash rfl

theorem rootOf_slashes_of_ne :
    rootOf ('/' :: '/' :: char :: rest) = "//" := by
  rw [rootOf]
  rintro _ ⟨⟩
  exact noSlash rfl

end Root

/-- A normal path is the path of its text. -/
theorem ofString_asPosix {path : PurePosixPath} (normal : path.IsNormal) :
    ofString path.asPosix = path := by
  rcases path with ⟨root, parts⟩
  have isRoot := normal.root
  by_cases empty : parts = []
  · subst empty
    simp only [List.mem_cons, List.not_mem_nil, or_false] at isRoot
    have computed : ∀ text, ofString text =
        ⟨rootOf text.toList, (ofString text).parts⟩ := fun _ => rfl
    rw [computed, parts_ofString]
    rcases isRoot with rfl | rfl | rfl
    · decide +kernel
    · decide +kernel
    · decide +kernel
  · have areParts : ∀ part ∈ parts, IsPart part :=
      fun part member => normal.parts member
    rcases head_intercalate areParts empty with ⟨char, rest, chars, noSlash⟩
    have text : asPosix ⟨root, parts⟩ =
        root ++ String.intercalate "/" parts := by
      rw [asPosix, if_neg fun both => empty both.2]
    have slashes : ∀ char ∈ root.toList, char = '/' := by
      simp only [List.mem_cons, List.not_mem_nil, or_false] at isRoot
      rcases isRoot with rfl | rfl | rfl
      · simp
      · simp
      · simp
    have sameParts := parts_ofString_append slashes areParts empty
    rw [String.ofList_toList] at sameParts
    have sameRoot : rootOf (root ++ String.intercalate "/" parts).toList =
        root := by
      rw [String.toList_append, chars]
      simp only [List.mem_cons, List.not_mem_nil, or_false] at isRoot
      rcases isRoot with rfl | rfl | rfl
      · exact rootOf_append_of_ne noSlash
      · exact rootOf_slash_of_ne noSlash
      · exact rootOf_slashes_of_ne noSlash
    rw [text]
    show PurePosixPath.mk
      (rootOf (root ++ String.intercalate "/" parts).toList)
      (ofString (root ++ String.intercalate "/" parts)).parts = _
    rw [sameRoot, sameParts]

/-! ## Paths below another -/

/-- The path which a suffix leads to, by whole parts. -/
def under (base : PurePosixPath) (suffix : List String) : PurePosixPath where
  root := base.root
  parts := base.parts ++ suffix

theorem relativeTo_eq_some_iff
    (path base : PurePosixPath) (suffix : List String) :
    path.relativeTo base = some suffix ↔ path = base.under suffix := by
  rcases path with ⟨root, parts⟩
  rw [relativeTo]
  constructor
  · intro relative
    split at relative
    · next isBelow =>
        rcases isBelow with ⟨sameRoot, rest, append⟩
        dsimp only at sameRoot append relative
        rw [← append, List.drop_left, Option.some.injEq] at relative
        rw [under, ← append, sameRoot, relative]
    · cases relative
  · intro same
    cases same
    rw [if_pos ⟨rfl, suffix, rfl⟩, List.drop_left]

/-- A suffix of a normal path is one below every normal path. -/
theorem IsNormal.under
    {base other : PurePosixPath} {suffix : List String}
    (below : (base.under suffix).IsNormal) (normal : other.IsNormal) :
    (other.under suffix).IsNormal := by
  constructor
  · exact normal.root
  · intro part member
    rcases List.mem_append.mp member with inBase | inSuffix
    · exact normal.parts inBase
    · exact below.parts (List.mem_append_right _ inSuffix)

end PurePosixPath

end Sluicery.Library
