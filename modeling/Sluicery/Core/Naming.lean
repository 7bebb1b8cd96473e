import Mathlib
import Sluicery.Layout
import Sluicery.Library.Nfc
import Sluicery.Library.Returning
import Sluicery.Storage.RelativePath

/-!
# Safe names

`sanitize_component` normalizes a name, takes its control characters away,
replaces what no file system allows, strips the end and marks the names of
devices.  Only the second of these steps can undo what the first one did: a
control character between a letter and a combining mark is gone afterwards,
and the two are not composed again.
-/

namespace Sluicery.Core.Naming

open Sluicery.Library Sluicery.Layout

/-! ## Components -/

variable (names : Names)

/-- The characters of a name after the substitutions. -/
def cleaned (value : String) : List Char :=
  ((names.normalize value).toList.filter fun character =>
    !isControl character).map fun character =>
      if isForbidden character then '_' else character

/-- The stem of a name is the name of a device. -/
def isReserved (name : List Char) : Bool :=
  String.ofList ((name.takeWhile (· ≠ '.')).map Char.toUpper) ∈
    windowsReservedNames

/-- A name which `sanitize_component` promises. -/
structure SafeName (name : String) : Prop where
  normalized : names.normalize name = name
  characters {character : Char} (member : character ∈ name.toList) :
    isForbidden character = false ∧ isControl character = false
  ending {last : Char} (isLast : name.toList.getLast? = some last) :
    last ≠ ' ' ∧ last ≠ '.'
  notReserved : isReserved name.toList = false
  /-- Sanitizing it again changes nothing. -/
  kept : sanitizeComponent names name = .ok name

variable {names}

theorem characters_cleaned
    {value : String} {character : Char}
    (member : character ∈ cleaned names value) :
    isForbidden character = false ∧ isControl character = false := by
  rcases List.mem_map.mp member with ⟨before, inText, rfl⟩
  split
  · decide
  · next allowed =>
      constructor
      · exact Bool.eq_false_iff.mpr allowed
      · simpa using (List.mem_filter.mp inText).2

/-! ## The end of a name -/

/-- What is stripped are blanks and dots. -/
theorem exists_append_stripEnd (name : List Char) :
    ∃ stripped, name = stripEnd name ++ stripped ∧
      ∀ character ∈ stripped, character = ' ' ∨ character = '.' := by
  have whole := List.takeWhile_append_dropWhile
    (p := fun character => character == ' ' || character == '.')
    (l := name.reverse)
  refine ⟨(name.reverse.takeWhile fun character =>
    character == ' ' || character == '.').reverse, ?_, ?_⟩
  · rw [stripEnd, ← List.reverse_append, whole, List.reverse_reverse]
  · intro character member
    have passes := List.all_eq_true.mp List.all_takeWhile character
      (List.mem_reverse.mp member)
    simpa using passes

/-- The last character which is left is neither a blank nor a dot. -/
theorem getLast_stripEnd
    {name : List Char} {last : Char}
    (isLast : (stripEnd name).getLast? = some last) :
    last ≠ ' ' ∧ last ≠ '.' := by
  rw [stripEnd, List.getLast?_reverse] at isLast
  have fails := List.head?_dropWhile_not
    (fun character => character == ' ' || character == '.') name.reverse
  rw [isLast] at fails
  simpa using fails

/-- A name which ends in no blank and no dot is not stripped. -/
theorem stripEnd_eq_self
    {name : List Char}
    (ending : ∀ last, name.getLast? = some last → last ≠ ' ' ∧ last ≠ '.') :
    stripEnd name = name := by
  rw [stripEnd]
  cases reversed : name.reverse with
  | nil =>
      rw [List.reverse_eq_nil_iff.mp reversed]
      rfl
  | cons last rest =>
      have isLast : name.getLast? = some last := by
        rw [← List.head?_reverse, reversed, List.head?_cons]
      have notStripped : (last == ' ' || last == '.') = false := by
        simpa using ending last isLast
      rw [List.dropWhile_cons, notStripped, if_neg Bool.false_ne_true,
        ← reversed, List.reverse_reverse]

theorem sanitizeComponent_eq (value : String) :
    sanitizeComponent names value =
      if stripEnd (cleaned names value) = [] then
        .error "空、`.`、`..` はパス要素に使用できません"
      else
        .ok (String.ofList
          (if isReserved (stripEnd (cleaned names value)) then
            '_' :: stripEnd (cleaned names value)
          else stripEnd (cleaned names value))) := by
  have noDots : ∀ name : List Char, name.getLast? = some '.' →
      stripEnd (cleaned names value) ≠ name := by
    rintro _ isDot rfl
    exact (getLast_stripEnd isDot).2 rfl
  have refuses : (stripEnd (cleaned names value) = [] ∨
      stripEnd (cleaned names value) = ['.'] ∨
        stripEnd (cleaned names value) = ['.', '.']) ↔
      stripEnd (cleaned names value) = [] := by
    have one := noDots ['.'] rfl
    have two := noDots ['.', '.'] rfl
    simp [one, two]
  rw [sanitizeComponent, ← cleaned]
  dsimp only
  rw [if_congr refuses rfl rfl]
  by_cases empty : stripEnd (cleaned names value) = []
  · rw [if_pos empty, if_pos empty]
  · rw [if_neg empty, if_neg empty]
    by_cases reserved : isReserved (stripEnd (cleaned names value)) = true
    · rw [if_pos (of_decide_eq_true reserved), if_pos reserved]
    · rw [if_neg fun isName => reserved (decide_eq_true isName),
        if_neg reserved]

/-! ## Names of devices -/

/-- A name of a device begins with a letter of ASCII. -/
theorem exists_cons_of_isReserved
    {name : List Char} (reserved : isReserved name = true) :
    ∃ first rest, name = first :: rest ∧ first.toNat < 128 := by
  have heads : ∀ device ∈ windowsReservedNames,
      device.toList.head?.any (·.toNat < 128) = true := by
    decide
  rcases Option.any_eq_true _ _ |>.1
    (heads _ (of_decide_eq_true reserved)) with ⟨upper, isHead, asciiHead⟩
  have ascii := of_decide_eq_true asciiHead
  rw [String.toList_ofList] at isHead
  cases name with
  | nil => cases isHead
  | cons first rest =>
      refine ⟨first, rest, rfl, ?_⟩
      rw [List.takeWhile_cons] at isHead
      split at isHead
      · rw [List.map_cons, List.head?_cons, Option.some.injEq] at isHead
        rw [Char.toUpper] at isHead
        split at isHead
        · next lower => exact Nat.lt_of_le_of_lt lower.2 (by decide)
        · rw [isHead]
          exact ascii
      · cases isHead

/-- A marked name is no name of a device. -/
theorem isReserved_mark (name : List Char) :
    isReserved ('_' :: name) = false := by
  have heads : ∀ device ∈ windowsReservedNames,
      device.toList.head? ≠ some '_' := by decide
  rw [Bool.eq_false_iff]
  intro reserved
  apply heads _ (of_decide_eq_true reserved)
  rw [String.toList_ofList]
  rfl

/-! ## Relative paths -/

/-- A sanitized name is kept by the storage. -/
theorem isComponent_of_sanitizeComponent
    {value name : String}
    (sanitized : sanitizeComponent names value = .ok name) :
    Storage.IsComponent name := by
  rw [sanitizeComponent_eq] at sanitized
  split at sanitized
  · cases sanitized
  · next nonempty =>
      have left : ∀ character ∈ stripEnd (cleaned names value),
          isForbidden character = false ∧ isControl character = false := by
        intro character member
        rcases exists_append_stripEnd (cleaned names value) with
          ⟨stripped, whole, -⟩
        apply characters_cleaned
        rw [whole]
        exact List.mem_append_left _ member
      have made : ∃ chars, name = String.ofList chars ∧ chars ≠ [] ∧
          (∀ character ∈ chars,
            isForbidden character = false ∧ isControl character = false) ∧
          chars.getLast? ≠ some '.' := by
        rw [Except.ok.injEq] at sanitized
        refine ⟨_, sanitized.symm, ?_⟩
        split
        · refine ⟨List.cons_ne_nil _ _, ?_, ?_⟩
          · intro character member
            rcases List.mem_cons.mp member with rfl | inName
            · decide
            · exact left character inName
          · rw [List.getLast?_cons_of_ne_nil nonempty]
            exact fun isDot => (getLast_stripEnd isDot).2 rfl
        · exact ⟨nonempty, left,
            fun isDot => (getLast_stripEnd isDot).2 rfl⟩
      rcases made with ⟨chars, rfl, notEmpty, allowed, noDot⟩
      have absent : ∀ character : Char,
          (isForbidden character || isControl character) = true →
            character ∉ (String.ofList chars).toList := by
        intro character refused member
        rw [String.toList_ofList] at member
        rcases allowed character member with ⟨notForbidden, notControl⟩
        rw [notForbidden, notControl] at refused
        cases refused
      have dots : ∀ last : List Char, last.getLast? = some '.' →
          String.ofList chars ≠ String.ofList last := by
        intro last isDot same
        rw [String.ofList_injective same] at noDot
        exact noDot isDot
      constructor
      · constructor
        · rw [ne_eq, String.ofList_eq_empty_iff]
          exact notEmpty
        · exact dots ['.'] rfl
        · exact absent '/' (by decide)
      · exact absent '\x00' (by decide)
      · exact absent '\\' (by decide)
      · exact dots ['.', '.'] rfl

/-- A sanitized path is kept by the storage. -/
theorem validateRelativePath_sanitized
    {value path : String}
    (sanitized : sanitizeRelativePath names value = .ok path) :
    Storage.validateRelativePath path false = .ok path := by
  rw [sanitizeRelativePath, bind_eq_ok_iff] at sanitized
  rcases sanitized with ⟨⟨⟩, -, sanitized⟩
  rw [bind_eq_ok_iff] at sanitized
  rcases sanitized with ⟨parts, passes, same⟩
  cases same
  rw [mapM_eq_ok_iff] at passes
  apply Storage.validateRelativePath_intercalate
  · intro part member
    have inValues : .ok part ∈ parts.map
        (Except.ok : String → Except String String) :=
      List.mem_map_of_mem member
    rw [← passes] at inValues
    rcases List.mem_map.mp inValues with ⟨before, -, isPart⟩
    exact isComponent_of_sanitizeComponent isPart
  · rintro rfl
    rw [List.map_nil, List.map_eq_nil_iff] at passes
    exact List.splitOn_ne_nil _ _ passes

/-- A safe name is its own path. -/
theorem eq_of_sanitizeRelativePath
    {name path : String} (safe : SafeName names name)
    (sanitized : sanitizeRelativePath names name = .ok path) :
    path = name := by
  have allowed {character : Char}
      (forbidden : isForbidden character = true) :
      character ∉ name.toList := by
    intro member
    rw [(safe.characters member).1] at forbidden
    cases forbidden
  have noBackslash : withSlashes name = name.toList := by
    rw [withSlashes]
    conv_rhs => rw [← List.map_id name.toList]
    apply List.map_congr_left
    intro character member
    rw [if_neg, id_eq]
    rintro rfl
    exact allowed (by decide) member
  have onePart : name.toList.splitOn '/' = [name.toList] := by
    apply List.splitOnP_eq_singleton
    intro character member
    rw [beq_eq_false_iff_ne]
    rintro rfl
    exact allowed (by decide) member
  rw [sanitizeRelativePath, bind_eq_ok_iff] at sanitized
  rcases sanitized with ⟨⟨⟩, -, sanitized⟩
  rw [safe.normalized, noBackslash, onePart, bind_eq_ok_iff] at sanitized
  rcases sanitized with ⟨parts, isParts, isPath⟩
  rw [mapM_eq_ok_iff, List.map_singleton, String.ofList_toList, safe.kept]
    at isParts
  rcases List.map_eq_singleton_iff.mp isParts.symm with ⟨part, rfl, isPart⟩
  cases isPart
  cases isPath
  rfl

/-! ## Normalized names -/

section Normalized

variable {data : Nfc.CharacterData} {isWindowsAbsolute : String → Bool}
  {formatMap : String → Variables → Except String String}

/-- The names, normalized as a character database says. -/
def nfcNames (data : Nfc.CharacterData) (isWindowsAbsolute : String → Bool)
    (formatMap : String → Variables → Except String String) : Names where
  normalize value := String.ofList (Nfc.normalize data value.toList)
  isWindowsAbsolute
  formatMap

/-- The characters of a name without what is stripped, and with the mark. -/
theorem normalize_stripEnd_iff (name : List Char) :
    Nfc.normalize data (stripEnd name) = stripEnd name ↔
      Nfc.normalize data name = name := by
  rcases exists_append_stripEnd name with ⟨stripped, whole, blank⟩
  have ascii : ∀ character ∈ stripped, character.toNat < 128 := by
    intro character member
    rcases blank character member with rfl | rfl
    · decide
    · decide
  have together : Nfc.normalize data (stripEnd name ++ stripped) =
      Nfc.normalize data (stripEnd name) ++ stripped :=
    Nfc.normalize_append_ascii ascii (stripEnd name)
  rw [← whole] at together
  rw [together]
  constructor
  · intro normal
    rw [normal, ← whole]
  · intro normal
    exact List.append_cancel_right (normal.trans whole)

theorem normalize_mark_iff
    {name : List Char} (reserved : isReserved name = true) :
    Nfc.normalize data ('_' :: name) = '_' :: name ↔
      Nfc.normalize data name = name := by
  rcases exists_cons_of_isReserved reserved with ⟨first, rest, rfl, ascii⟩
  rw [Nfc.normalize_cons (by decide) ascii, List.cons_inj_right]

/-- The name which is promised, of characters that are normalized. -/
theorem safeName_of_normalize
    {name : List Char} (nonempty : name ≠ [])
    (normal : Nfc.normalize data name = name)
    (characters : ∀ character ∈ name,
      isForbidden character = false ∧ isControl character = false)
    (ending : ∀ last, name.getLast? = some last → last ≠ ' ' ∧ last ≠ '.')
    (notReserved : isReserved name = false) :
    SafeName (nfcNames data isWindowsAbsolute formatMap)
      (String.ofList name) := by
  have normalized : (nfcNames data isWindowsAbsolute formatMap).normalize
      (String.ofList name) = String.ofList name := by
    show String.ofList (Nfc.normalize data (String.ofList name).toList) = _
    rw [String.toList_ofList, normal]
  have same : cleaned (nfcNames data isWindowsAbsolute formatMap)
      (String.ofList name) = name := by
    have noControl : (name.filter fun character => !isControl character) =
        name := by
      rw [List.filter_eq_self]
      intro character member
      rw [(characters character member).2, Bool.not_false]
    rw [cleaned, normalized, String.toList_ofList, noControl]
    conv_rhs => rw [← List.map_id name]
    apply List.map_congr_left
    intro character member
    rw [(characters character member).1, if_neg Bool.false_ne_true, id_eq]
  constructor
  · exact normalized
  · intro character member
    rw [String.toList_ofList] at member
    exact characters character member
  · intro last isLast
    rw [String.toList_ofList] at isLast
    exact ending last isLast
  · rw [String.toList_ofList]
    exact notReserved
  · rw [sanitizeComponent_eq, same, stripEnd_eq_self ending,
      if_neg nonempty, notReserved, if_neg Bool.false_ne_true]

theorem normalize_of_safeName
    {name : List Char}
    (safe : SafeName (nfcNames data isWindowsAbsolute formatMap)
      (String.ofList name)) :
    Nfc.normalize data name = name := by
  have normal : String.ofList (Nfc.normalize data
      (String.ofList name).toList) = String.ofList name := safe.normalized
  rw [String.toList_ofList] at normal
  exact String.ofList_injective normal

/-- A name is safe if its characters are still normalized after the
substitutions, and only then. -/
theorem safeName_iff
    {value name : String}
    (sanitized : sanitizeComponent
      (nfcNames data isWindowsAbsolute formatMap) value = .ok name) :
    SafeName (nfcNames data isWindowsAbsolute formatMap) name ↔
      Nfc.normalize data
          (cleaned (nfcNames data isWindowsAbsolute formatMap) value) =
        cleaned (nfcNames data isWindowsAbsolute formatMap) value := by
  rw [sanitizeComponent_eq] at sanitized
  split at sanitized
  · cases sanitized
  · next nonempty =>
      rw [Except.ok.injEq] at sanitized
      rw [← normalize_stripEnd_iff, ← sanitized]
      have left : ∀ character ∈ stripEnd (cleaned
          (nfcNames data isWindowsAbsolute formatMap) value),
          isForbidden character = false ∧ isControl character = false := by
        intro character member
        rcases exists_append_stripEnd (cleaned
          (nfcNames data isWindowsAbsolute formatMap) value) with
          ⟨stripped, whole, -⟩
        apply characters_cleaned
        rw [whole]
        exact List.mem_append_left _ member
      split
      · next reserved =>
          rw [← normalize_mark_iff reserved]
          constructor
          · exact normalize_of_safeName
          · intro normal
            apply safeName_of_normalize (List.cons_ne_nil _ _) normal
            · intro character member
              rcases List.mem_cons.mp member with rfl | inName
              · decide
              · exact left character inName
            · intro last isLast
              rw [List.getLast?_cons_of_ne_nil nonempty] at isLast
              exact getLast_stripEnd isLast
            · exact isReserved_mark _
      · next notReserved =>
          constructor
          · exact normalize_of_safeName
          · intro normal
            exact safeName_of_normalize nonempty normal left
              (fun last isLast => getLast_stripEnd isLast)
              (Bool.eq_false_iff.mpr notReserved)

/-- The promises of the sanitizer for one value. -/
def Promises (names : Names) (value : String) : Prop :=
  (∀ name, sanitizeComponent names value = .ok name → SafeName names name) ∧
    ∀ path, sanitizeRelativePath names value = .ok path →
      Storage.validateRelativePath path false = .ok path

theorem promises_iff_cleaned (value : String) :
    Promises (nfcNames data isWindowsAbsolute formatMap) value ↔
      Nfc.normalize data
          (cleaned (nfcNames data isWindowsAbsolute formatMap) value) =
        cleaned (nfcNames data isWindowsAbsolute formatMap) value := by
  constructor
  · rintro ⟨safe, -⟩
    cases sanitized : sanitizeComponent
        (nfcNames data isWindowsAbsolute formatMap) value with
    | ok name => exact (safeName_iff sanitized).mp (safe name sanitized)
    | error message =>
        rw [sanitizeComponent_eq] at sanitized
        split at sanitized
        · next empty =>
            rw [← normalize_stripEnd_iff, empty]
            rfl
        · cases sanitized
  · intro normal
    constructor
    · intro name sanitized
      exact (safeName_iff sanitized).mpr normal
    · intro path sanitized
      exact validateRelativePath_sanitized sanitized

/-- The NFC form of a value without its control characters. -/
def withoutControls (data : Nfc.CharacterData) (value : String) :
    List Char :=
  (Nfc.normalize data value.toList).filter fun character =>
    !isControl character

/-- An underscore takes the place of a forbidden character. -/
def underscored (character : Char) : Char :=
  if isForbidden character then '_' else character

theorem cleaned_nfcNames (value : String) :
    cleaned (nfcNames data isWindowsAbsolute formatMap) value =
      (withoutControls data value).map underscored := by
  rw [cleaned, nfcNames, String.toList_ofList]
  rfl

/-- The promises of the sanitizer hold for a value if its NFC form is still in
NFC without its control characters, and with an underscore for each forbidden
one, and only then. -/
theorem sanitizes_iff
    (data : Nfc.CharacterData) (isWindowsAbsolute : String → Bool)
    (formatMap : String → Variables → Except String String)
    (value : String) :
    ((∀ name, sanitizeComponent
        (nfcNames data isWindowsAbsolute formatMap) value = .ok name →
          SafeName (nfcNames data isWindowsAbsolute formatMap) name) ∧
      ∀ path, sanitizeRelativePath
        (nfcNames data isWindowsAbsolute formatMap) value = .ok path →
          Storage.validateRelativePath path false = .ok path) ↔
      Nfc.normalize data ((withoutControls data value).map underscored) =
        (withoutControls data value).map underscored := by
  rw [← cleaned_nfcNames]
  exact promises_iff_cleaned value

/-- The underscores do not matter where the NFC form has nothing forbidden. -/
theorem promises_iff_of_allowed
    {value : String}
    (allowed : ∀ character ∈ Nfc.normalize data value.toList,
      isForbidden character = false) :
    Promises (nfcNames data isWindowsAbsolute formatMap) value ↔
      Nfc.normalize data (withoutControls data value) =
        withoutControls data value := by
  have same : (withoutControls data value).map underscored =
      withoutControls data value := by
    conv_rhs => rw [← List.map_id (withoutControls data value)]
    apply List.map_congr_left
    intro character member
    rw [underscored, allowed character (List.mem_of_mem_filter member),
      if_neg Bool.false_ne_true, id_eq]
  rw [promises_iff_cleaned, cleaned_nfcNames, same]

end Normalized

/-- A character database in which two characters are composed to a third. -/
def onePair (base mark composed : Char) (combiningClass : Nat)
    (markNotAscii : ¬ mark.toNat < 128)
    (composedNotAscii : ¬ composed.toNat < 128) : Nfc.CharacterData where
  decomposition character :=
    if character = composed then [base, mark] else [character]
  combiningClass character :=
    if character = mark then combiningClass else 0
  composite first second :=
    if first = base ∧ second = mark then some composed else none
  decomposition_ascii := by
    intro character ascii
    rw [if_neg]
    rintro rfl
    exact composedNotAscii ascii
  combiningClass_ascii := by
    intro character ascii
    rw [if_neg]
    rintro rfl
    exact markNotAscii ascii
  composite_ascii := by
    intro character first ascii
    rw [if_neg]
    rintro ⟨-, rfl⟩
    exact markNotAscii ascii

/-- A letter with an accent. -/
def accent : Nfc.CharacterData :=
  onePair 'e' '\u0301' 'é' 230 (by decide) (by decide)

/-- A forbidden sign with a stroke. -/
def stroke : Nfc.CharacterData :=
  onePair '<' '\u0338' '≮' 1 (by decide) (by decide)

-- Here the underscore keeps the name normalized.
example :
    withoutControls stroke (String.ofList ['<', '\x01', '\u0338']) =
        ['<', '\u0338'] ∧
      Nfc.normalize stroke ['<', '\u0338'] = ['≮'] ∧
      Nfc.normalize stroke (['<', '\u0338'].map underscored) =
        ['<', '\u0338'].map underscored := by
  decide +kernel

/-- The letter and the accent are left apart, and composed the next time. -/
theorem not_safeName_accent :
    sanitizeComponent
        (nfcNames accent (fun _ => false) fun _ _ => .error "")
          (String.ofList ['e', '\x01', '\u0301']) =
      .ok (String.ofList ['e', '\u0301']) ∧
    sanitizeComponent
        (nfcNames accent (fun _ => false) fun _ _ => .error "")
          (String.ofList ['e', '\u0301']) = .ok (String.ofList ['é']) ∧
    ¬ ∀ name, sanitizeComponent
        (nfcNames accent (fun _ => false) fun _ _ => .error "")
          (String.ofList ['e', '\x01', '\u0301']) = .ok name →
        SafeName (nfcNames accent (fun _ => false) fun _ _ => .error "")
          name := by
  have first : sanitizeComponent
      (nfcNames accent (fun _ => false) fun _ _ => .error "")
        (String.ofList ['e', '\x01', '\u0301']) =
      .ok (String.ofList ['e', '\u0301']) := by
    decide +kernel
  refine ⟨first, by decide +kernel, ?_⟩
  intro safe
  exact absurd (safe _ first).normalized (by decide +kernel)

end Sluicery.Core.Naming
