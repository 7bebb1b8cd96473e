import Mathlib.Data.List.Sort
import Sluicery.Library.JsonText
import Sluicery.Library.TextLines

/-!
# Sorted objects on a line

`json.dumps` with `sort_keys=True`, and what the written value has of line
breaks: only the breaks which are no control characters are written as they
are, so that a value is one line if and only if none of its strings holds one
of these.
-/

namespace Sluicery.Library.JsonLines

open Sluicery.Library Sluicery.Library.TextLines

/-! ## Sorting the keys -/

mutual

/-- The value as `sort_keys=True` writes it. -/
def sortKeys : Json → Json
  | .arr items => .arr (sortItems items)
  | .obj fields =>
      .obj ((sortFields fields).insertionSort
        fun left right => left.1 ≤ right.1)
  | value => value

def sortItems : List Json → List Json
  | [] => []
  | item :: rest => sortKeys item :: sortItems rest

def sortFields : Json.Fields → Json.Fields
  | [] => []
  | (key, value) :: rest => (key, sortKeys value) :: sortFields rest

end

/-- The fields of a sorted object. -/
def sortedFields (fields : Json.Fields) : Json.Fields :=
  (sortFields fields).insertionSort fun left right => left.1 ≤ right.1

theorem sortKeys_obj (fields : Json.Fields) :
    sortKeys (.obj fields) = .obj (sortedFields fields) := by
  rw [sortKeys, sortedFields]

theorem sortFields_eq (fields : Json.Fields) :
    sortFields fields =
      fields.map fun field => (field.1, sortKeys field.2) := by
  induction fields with
  | nil => rw [sortFields, List.map_nil]
  | cons field rest induction =>
      rw [sortFields, induction, List.map_cons]

theorem sortedFields_perm (fields : Json.Fields) :
    (sortedFields fields).Perm
      (fields.map fun field => (field.1, sortKeys field.2)) := by
  rw [sortedFields, sortFields_eq]
  exact List.perm_insertionSort _ _

theorem keys_sortedFields (fields : Json.Fields) :
    ((sortedFields fields).map Prod.fst).Perm (fields.map Prod.fst) := by
  have keys := (sortedFields_perm fields).map Prod.fst
  rw [List.map_map] at keys
  exact keys

theorem lookup_eq_some_iff
    {fields : Json.Fields} (distinct : (fields.map Prod.fst).Nodup)
    (key : String) (value : Json) :
    Json.lookup fields key = some value ↔ (key, value) ∈ fields := by
  rw [Json.lookup, Option.map_eq_some_iff]
  constructor
  · rintro ⟨field, found, rfl⟩
    have same := List.find?_some found
    rw [beq_iff_eq] at same
    subst same
    exact List.mem_of_find?_eq_some found
  · intro member
    cases found : fields.find? fun field => field.1 == key with
    | none =>
        have missing := List.find?_eq_none.mp found _ member
        exact absurd (beq_self_eq_true key) missing
    | some field =>
        have same := List.find?_some found
        rw [beq_iff_eq] at same
        refine ⟨field, rfl, ?_⟩
        have isField := List.inj_on_of_nodup_map distinct
          (List.mem_of_find?_eq_some found) member same
        rw [isField]

/-- Sorting changes no field. -/
theorem lookup_sortedFields
    {fields : Json.Fields} (distinct : (fields.map Prod.fst).Nodup)
    {key : String} {value : Json}
    (found : Json.lookup fields key = some value) :
    Json.lookup (sortedFields fields) key = some (sortKeys value) := by
  rw [lookup_eq_some_iff ((keys_sortedFields fields).nodup_iff.mpr distinct),
    (sortedFields_perm fields).mem_iff]
  rw [lookup_eq_some_iff distinct] at found
  exact List.mem_map_of_mem (f := fun field => (field.1, sortKeys field.2))
    found

/-- What holds of the fields holds after an update. -/
theorem forall_update
    {holds : String × Json → Prop} {fields values : Json.Fields}
    (old : ∀ field ∈ fields, holds field)
    (new : ∀ field ∈ values, holds field) :
    ∀ field ∈ Json.update fields values, holds field := by
  have set : ∀ (fields : Json.Fields) (key : String) (value : Json),
      (∀ field ∈ fields, holds field) → holds (key, value) →
      ∀ field ∈ Json.set fields key value, holds field := by
    intro fields key value old new
    induction fields with
    | nil => exact List.forall_mem_singleton.mpr new
    | cons field rest induction =>
        rw [List.forall_mem_cons] at old
        rw [Json.set]
        split
        · exact List.forall_mem_cons.mpr ⟨new, old.2⟩
        · exact List.forall_mem_cons.mpr ⟨old.1, induction old.2⟩
  rw [Json.update]
  induction values generalizing fields with
  | nil => exact old
  | cons value rest induction =>
      rw [List.forall_mem_cons] at new
      exact induction (set fields value.1 value.2 old new.1) new.2

theorem hasWritable_iff (fields : Json.Fields) :
    JsonText.hasWritable fields = true ↔
      ∀ field ∈ fields, JsonText.isWritable field.2 = true := by
  induction fields with
  | nil =>
      rw [JsonText.hasWritable]
      exact iff_of_true rfl fun _ impossible => nomatch impossible
  | cons field rest induction =>
      rw [JsonText.hasWritable, Bool.and_eq_true, induction,
        List.forall_mem_cons]

mutual

theorem isWritable_sortKeys :
    ∀ {value : Json}, JsonText.isWritable value = true →
      JsonText.isWritable (sortKeys value) = true
  | .null, writable | .bool _, writable | .int _, writable
  | .real _, writable | .str _, writable => by
      rw [sortKeys]
      · exact writable
      all_goals
        intros
        contradiction
  | .arr items, writable => by
      rw [JsonText.isWritable] at writable
      rw [sortKeys, JsonText.isWritable]
      exact areWritable_sortItems writable
  | .obj fields, writable => by
      rw [JsonText.isWritable, Bool.and_eq_true, decide_eq_true_eq,
        hasWritable_iff] at writable
      rw [sortKeys_obj, JsonText.isWritable, Bool.and_eq_true,
        decide_eq_true_eq, hasWritable_iff]
      refine ⟨(keys_sortedFields fields).nodup_iff.mpr writable.1, ?_⟩
      intro field member
      rw [(sortedFields_perm fields).mem_iff, ← sortFields_eq] at member
      exact isWritable_sortFields writable.2 field member

theorem areWritable_sortItems :
    ∀ {items : List Json}, JsonText.areWritable items = true →
      JsonText.areWritable (sortItems items) = true
  | [], writable => by
      rw [sortItems]
      exact writable
  | item :: rest, writable => by
      rw [JsonText.areWritable, Bool.and_eq_true] at writable
      rw [sortItems, JsonText.areWritable, isWritable_sortKeys writable.1,
        areWritable_sortItems writable.2]
      rfl

theorem isWritable_sortFields :
    ∀ {fields : Json.Fields},
      (∀ field ∈ fields, JsonText.isWritable field.2 = true) →
      ∀ field ∈ sortFields fields, JsonText.isWritable field.2 = true
  | [], _, field, member => by
      rw [sortFields] at member
      cases member
  | (key, value) :: rest, writable, field, member => by
      rw [sortFields] at member
      rcases List.mem_cons.mp member with rfl | member
      · exact isWritable_sortKeys (writable (key, value) List.mem_cons_self)
      · exact isWritable_sortFields (fun other isOther =>
          writable other (List.mem_cons_of_mem _ isOther)) field member

end

/-! ## Line breaks -/

/-- The line breaks which are no control characters. -/
def isSeparator (char : Char) : Bool :=
  [0x85, 0x2028, 0x2029].contains char.toNat

mutual

/-- The strings of a value, its keys included. -/
def texts : Json → List String
  | .str value => [value]
  | .arr items => textsOfItems items
  | .obj fields => textsOfFields fields
  | _ => []

def textsOfItems : List Json → List String
  | [] => []
  | item :: rest => texts item ++ textsOfItems rest

def textsOfFields : Json.Fields → List String
  | [] => []
  | (key, value) :: rest => key :: texts value ++ textsOfFields rest

end

theorem textsOfFields_eq (fields : Json.Fields) :
    textsOfFields fields =
      fields.flatMap fun field => field.1 :: texts field.2 := by
  induction fields with
  | nil => rw [textsOfFields, List.flatMap_nil]
  | cons field rest induction =>
      rw [textsOfFields, induction, List.flatMap_cons]

mutual

/-- Sorting keeps the strings. -/
theorem texts_sortKeys :
    ∀ value : Json, (texts (sortKeys value)).Perm (texts value)
  | .null | .bool _ | .int _ | .real _ | .str _ => by
      rw [sortKeys]
      all_goals
        intros
        contradiction
  | .arr items => by
      rw [sortKeys, texts, texts]
      exact texts_sortItems items
  | .obj fields => by
      rw [sortKeys, texts, texts, textsOfFields_eq, textsOfFields_eq]
      exact ((List.perm_insertionSort _ _).flatMap_right _).trans
        (texts_sortFields fields)

theorem texts_sortItems :
    ∀ items : List Json,
      (textsOfItems (sortItems items)).Perm (textsOfItems items)
  | [] => by rw [sortItems]
  | item :: rest => by
      rw [sortItems, textsOfItems, textsOfItems]
      exact (texts_sortKeys item).append (texts_sortItems rest)

theorem texts_sortFields :
    ∀ fields : Json.Fields,
      ((sortFields fields).flatMap fun field => field.1 :: texts field.2).Perm
        (fields.flatMap fun field => field.1 :: texts field.2)
  | [] => by rw [sortFields]
  | (key, value) :: rest => by
      rw [sortFields, List.flatMap_cons, List.flatMap_cons]
      exact ((texts_sortKeys value).cons key).append (texts_sortFields rest)

end

/-- A string of the value holds a separator. -/
def hasSeparator (strings : List String) : Bool :=
  strings.any fun text => text.toList.any isSeparator

/--
Within a written value `marked` holds of nothing but what characters with
`source` are escaped as.
-/
structure Stems (marked source : Char → Bool) : Prop where
  structural : ∀ char ∈ "[]\x7b\x7d,: \"-nultrefas0123456789".toList,
    marked char = false
  escaped : ∀ char, (JsonText.escape char).any marked = source char

namespace Stems

variable {marked source : Char → Bool} (stems : Stems marked source)

include stems

theorem writeString (value : String) :
    (JsonText.writeString value).any marked = value.toList.any source := by
  have escaped : ∀ chars : List Char,
      (chars.flatMap JsonText.escape).any marked = chars.any source := by
    intro chars
    induction chars with
    | nil => rfl
    | cons char rest induction =>
        rw [List.flatMap_cons, List.any_append, stems.escaped, induction,
          List.any_cons]
  rw [JsonText.writeString, List.any_cons, List.any_append, escaped,
    List.any_cons, List.any_nil, stems.structural '"' (by decide),
    Bool.false_or, Bool.false_or, Bool.or_false]

theorem writeInt (value : Int) :
    (JsonText.writeInt value).any marked = false := by
  have digits : ∀ value, (Nat.toDigits 10 value).any marked = false := by
    intro value
    rw [List.any_eq_false]
    intro char member
    rw [Bool.not_eq_true]
    apply stems.structural
    have isDigit := Nat.isDigit_of_mem_toDigits (by decide) (by decide) member
    rw [Char.isDigit, Bool.and_eq_true, decide_eq_true_eq,
      decide_eq_true_eq] at isDigit
    have lower : 48 ≤ char.toNat := isDigit.1
    have upper : char.toNat ≤ 57 := isDigit.2
    have all : ∀ code < 58, 48 ≤ code → Char.ofNat code ∈
        "[]\x7b\x7d,: \"-nultrefas0123456789".toList := by decide
    have isListed := all char.toNat (by omega) lower
    rwa [Char.ofNat_toNat] at isListed
  cases value with
  | ofNat value => exact digits value
  | negSucc value =>
      rw [JsonText.writeInt, List.any_cons, digits,
        stems.structural '-' (by decide)]
      rfl

theorem gap (spaced : Bool) :
    (JsonText.gap spaced).any marked = false := by
  cases spaced with
  | false => rfl
  | true =>
      rw [JsonText.gap, if_pos rfl, List.any_cons, List.any_nil,
        stems.structural ' ' (by decide)]
      rfl

theorem word
    (letters : List Char)
    (listed : letters.all
      "[]\x7b\x7d,: \"-nultrefas0123456789".toList.contains = true) :
    letters.any marked = false := by
  rw [List.any_eq_false]
  intro char member
  rw [Bool.not_eq_true]
  apply stems.structural char
  rw [← List.contains_iff_mem]
  exact List.all_eq_true.mp listed char member

end Stems

section Written

variable {marked source : Char → Bool} (stems : Stems marked source)

include stems

mutual

/-- Only the strings of a value matter. -/
theorem any_write (spaced : Bool) : ∀ value : Json,
    (JsonText.write spaced value).any marked =
      (texts value).any fun text => text.toList.any source
  | .null => stems.word ['n', 'u', 'l', 'l'] (by decide)
  | .bool true => stems.word ['t', 'r', 'u', 'e'] (by decide)
  | .bool false => stems.word ['f', 'a', 'l', 's', 'e'] (by decide)
  | .real _ => rfl
  | .int value => stems.writeInt value
  | .str value => by
      rw [JsonText.write, stems.writeString, texts, List.any_cons,
        List.any_nil, Bool.or_false]
  | .arr [] => stems.word ['[', ']'] (by decide)
  | .obj [] => stems.word ['\x7b', '\x7d'] (by decide)
  | .arr (item :: rest) => by
      rw [JsonText.write, List.any_cons, List.any_append,
        any_write spaced item, any_writeItems spaced rest, texts,
        textsOfItems, List.any_append, stems.structural '[' (by decide),
        Bool.false_or]
  | .obj ((key, value) :: rest) => by
      simp only [JsonText.write, List.any_cons, List.any_append,
        stems.writeString, stems.gap, any_write spaced value,
        any_writeFields spaced rest, texts, textsOfFields, List.cons_append,
        stems.structural '\x7b' (by decide),
        stems.structural ':' (by decide), Bool.false_or, Bool.or_assoc]

theorem any_writeItems (spaced : Bool) : ∀ items : List Json,
    (JsonText.writeItems spaced items).any marked =
      (textsOfItems items).any fun text => text.toList.any source
  | [] => stems.word [']'] (by decide)
  | item :: rest => by
      simp only [JsonText.writeItems, List.cons_append, List.any_cons,
        List.any_append, stems.gap, any_write spaced item,
        any_writeItems spaced rest, textsOfItems,
        stems.structural ',' (by decide), Bool.false_or]

theorem any_writeFields (spaced : Bool) : ∀ fields : Json.Fields,
    (JsonText.writeFields spaced fields).any marked =
      (textsOfFields fields).any fun text => text.toList.any source
  | [] => stems.word ['\x7d'] (by decide)
  | (key, value) :: rest => by
      simp only [JsonText.writeFields, List.cons_append, List.any_cons,
        List.any_append, stems.writeString, stems.gap,
        any_write spaced value, any_writeFields spaced rest, textsOfFields,
        stems.structural ',' (by decide), stems.structural ':' (by decide),
        Bool.false_or, Bool.or_assoc]

end

end Written

/-- Of the line breaks only separators are written as they are. -/
theorem stems_isSeparator : Stems isLineBreak isSeparator := by
  constructor
  · have unmarked : "[]\x7b\x7d,: \"-nultrefas0123456789".toList.all
        (fun char => isLineBreak char == false) = true := by decide
    intro char member
    exact beq_iff_eq.mp (List.all_eq_true.mp unmarked char member)
  intro char
  have controls : ∀ code < 0x20,
      [JsonText.hexDigit (code / 16),
        JsonText.hexDigit (code % 16)].any isLineBreak = false := by decide
  simp only [JsonText.escape]
  split_ifs with quote backslash newline carriage tab backspace feed control
  case pos => subst quote; rfl
  case pos => subst backslash; rfl
  case pos => subst newline; rfl
  case pos => subst carriage; rfl
  case pos => subst tab; rfl
  case pos => subst backspace; rfl
  case pos => subst feed; rfl
  · have digits := controls char.toNat control
    simp only [List.any_cons, List.any_nil, Bool.or_false] at digits ⊢
    rw [digits, isSeparator]
    have below : [0x85, 0x2028, 0x2029].contains char.toNat = false := by
      simp only [List.contains_cons, List.contains_nil, Bool.or_false,
        Bool.or_eq_false_iff, beq_eq_false_iff_ne]
      omega
    rw [below]
    rfl
  · rw [List.any_cons, List.any_nil, Bool.or_false, isLineBreak,
      isSeparator]
    simp only [List.contains_cons, List.contains_nil]
    have above : ∀ code : Nat, code < 0x20 →
        (char.toNat == code) = false := by
      intro code isControl
      rw [beq_eq_false_iff_ne]
      omega
    rw [above 0x0a (by decide), above 0x0b (by decide),
      above 0x0c (by decide), above 0x0d (by decide),
      above 0x1c (by decide), above 0x1d (by decide),
      above 0x1e (by decide)]
    rfl

/-- No carriage return is written. -/
theorem stems_return : Stems (· == '\r') fun _ => false := by
  constructor
  · have unmarked : "[]\x7b\x7d,: \"-nultrefas0123456789".toList.all
        (fun char => (char == '\r') == false) = true := by decide
    intro char member
    exact beq_iff_eq.mp (List.all_eq_true.mp unmarked char member)
  intro char
  have controls : ∀ code < 0x20,
      [JsonText.hexDigit (code / 16),
        JsonText.hexDigit (code % 16)].any (· == '\r') = false := by decide
  simp only [JsonText.escape]
  split_ifs with quote backslash newline carriage tab backspace feed control
  case pos | pos | pos | pos | pos | pos | pos => rfl
  · have digits := controls char.toNat control
    simp only [List.any_cons, List.any_nil, Bool.or_false] at digits ⊢
    rw [digits]
    rfl
  · rw [List.any_cons, List.any_nil, Bool.or_false, beq_eq_false_iff_ne]
    exact carriage

/-- The line of a sorted object. -/
def sortedLine (fields : Json.Fields) : List Char :=
  JsonText.write true (sortKeys (.obj fields))

/-- A sorted object is one line unless a string of it holds a separator. -/
theorem any_sortedLine (fields : Json.Fields) :
    (sortedLine fields).any isLineBreak =
      hasSeparator (texts (.obj fields)) := by
  rw [sortedLine, any_write stems_isSeparator, hasSeparator]
  exact (texts_sortKeys (.obj fields)).any_eq

theorem return_not_mem_sortedLine (fields : Json.Fields) :
    '\r' ∉ sortedLine fields := by
  intro member
  have none := any_write stems_return true (sortKeys (.obj fields))
  have never : ∀ strings : List String,
      (strings.any fun text => text.toList.any fun _ => false) = false := by
    intro strings
    simp
  rw [never, List.any_eq_false] at none
  exact none '\r' member rfl

/-- The line of a sorted object is read back. -/
theorem loads_sortedLine
    {fields : Json.Fields}
    (writable : JsonText.isWritable (.obj fields) = true) :
    JsonText.loads (sortedLine fields) =
      some (.obj (sortedFields fields)) := by
  rw [sortedLine, JsonText.loads_write true (isWritable_sortKeys writable),
    sortKeys_obj]

/-- No proper beginning of the line is read. -/
theorem loads_beginning_of_sortedLine
    {fields : Json.Fields} {text more : List Char}
    (writable : JsonText.isWritable (.obj fields) = true)
    (isLine : sortedLine fields = text ++ more) (proper : more ≠ []) :
    JsonText.loads text = none := by
  have sorted := isWritable_sortKeys writable
  rw [sortKeys_obj] at sorted
  rw [sortedLine, sortKeys_obj] at isLine
  exact JsonText.loads_beginning_of_write sorted isLine proper

/-- The line begins with its brace. -/
theorem head?_sortedLine (fields : Json.Fields) :
    (sortedLine fields).head? = some '\x7b' := by
  rw [sortedLine, sortKeys_obj]
  exact (JsonText.write_obj_ends true _).1

end Sluicery.Library.JsonLines
