import Mathlib
import Sluicery.Library.Json

/-!
# JSON as a text

`json.dumps` with `ensure_ascii=False` and `json.loads`, for values without
floats.  Written values are read back, and no proper beginning of a written
object is read at all: a reader which succeeds on a text succeeds, with the
same value, on every longer one.

A float of a text is read as the exact number.  `NaN` and the infinities are
not read, nor is an escaped surrogate without its partner, which is no
character of a Lean string.
-/

namespace Sluicery.Library.JsonText

open Sluicery.Library

/-! ## Writing -/

/-- A digit below sixteen. -/
def hexDigit (digit : Nat) : Char :=
  "0123456789abcdef".toList.getD digit '0'

/-- A character within the quotes. -/
def escape (char : Char) : List Char :=
  if char = '"' then ['\\', '"']
  else if char = '\\' then ['\\', '\\']
  else if char = '\n' then ['\\', 'n']
  else if char = '\r' then ['\\', 'r']
  else if char = '\t' then ['\\', 't']
  else if char = '\x08' then ['\\', 'b']
  else if char = '\x0c' then ['\\', 'f']
  else if char.toNat < 0x20 then
    ['\\', 'u', '0', '0', hexDigit (char.toNat / 16),
      hexDigit (char.toNat % 16)]
  else [char]

/-- A string in its quotes. -/
def writeString (value : String) : List Char :=
  '"' :: (value.toList.flatMap escape ++ ['"'])

def writeInt : Int → List Char
  | .ofNat value => Nat.toDigits 10 value
  | .negSucc value => '-' :: Nat.toDigits 10 (value + 1)

/-- What follows a comma or a colon. -/
def gap (spaced : Bool) : List Char := if spaced then [' '] else []

mutual

/-- `json.dumps`, with the default separators or with `(",", ":")`. -/
def write (spaced : Bool) : Json → List Char
  | .null => ['n', 'u', 'l', 'l']
  | .bool true => ['t', 'r', 'u', 'e']
  | .bool false => ['f', 'a', 'l', 's', 'e']
  | .int value => writeInt value
  | .real _ => []
  | .str value => writeString value
  | .arr [] => ['[', ']']
  | .arr (item :: rest) =>
      '[' :: (write spaced item ++ writeItems spaced rest)
  | .obj [] => ['\x7b', '\x7d']
  | .obj ((key, value) :: rest) =>
      '\x7b' :: (writeString key ++ ':' :: gap spaced ++
        write spaced value ++ writeFields spaced rest)

/-- The items after the first one. -/
def writeItems (spaced : Bool) : List Json → List Char
  | [] => [']']
  | item :: rest =>
      ',' :: gap spaced ++ write spaced item ++ writeItems spaced rest

/-- The fields after the first one. -/
def writeFields (spaced : Bool) : Json.Fields → List Char
  | [] => ['\x7d']
  | (key, value) :: rest =>
      ',' :: gap spaced ++ writeString key ++ ':' :: gap spaced ++
        write spaced value ++ writeFields spaced rest

end

/-! ## Reading -/

/-- `WHITESPACE` of the decoder. -/
def isBlank (char : Char) : Bool :=
  char == ' ' || char == '\t' || char == '\n' || char == '\r'

def skipBlanks : List Char → List Char
  | [] => []
  | char :: rest => if isBlank char then skipBlanks rest else char :: rest

def hexValue (char : Char) : Option Nat :=
  if char.isDigit then some (char.toNat - 48)
  else if 'a' ≤ char ∧ char ≤ 'f' then some (char.toNat - 87)
  else if 'A' ≤ char ∧ char ≤ 'F' then some (char.toNat - 55)
  else none

/-- The number of four hexadecimal digits. -/
def readHex : List Char → Option (Nat × List Char)
  | first :: second :: third :: fourth :: rest => do
      let first ← hexValue first
      let second ← hexValue second
      let third ← hexValue third
      let fourth ← hexValue fourth
      return (((first * 16 + second) * 16 + third) * 16 + fourth, rest)
  | _ => none

/-- The character of an escaped code, which may need a second one. -/
def readUnicode (text : List Char) : Option (Char × List Char) :=
  match readHex text with
  | none => none
  | some (code, rest) =>
      if code < 0xd800 ∨ 0xdfff < code then some (Char.ofNat code, rest)
      else if 0xdbff < code then none
      else
        match rest with
        | '\\' :: 'u' :: rest =>
            match readHex rest with
            | none => none
            | some (low, rest) =>
                if 0xdc00 ≤ low ∧ low ≤ 0xdfff then
                  some (Char.ofNat (0x10000 + (code - 0xd800) * 0x400 +
                    (low - 0xdc00)), rest)
                else none
        | _ => none

/-- The escapes of one character. -/
def unescape (char : Char) : Option Char :=
  if char = '"' ∨ char = '\\' ∨ char = '/' then some char
  else if char = 'n' then some '\n'
  else if char = 'r' then some '\r'
  else if char = 't' then some '\t'
  else if char = 'b' then some '\x08'
  else if char = 'f' then some '\x0c'
  else none

/-- The character after a backslash. -/
def readEscape : List Char → Option (Char × List Char)
  | [] => none
  | char :: rest =>
      if char = 'u' then readUnicode rest
      else (unescape char).map fun unescaped => (unescaped, rest)

/-- The characters up to the closing quote. -/
def readChars : Nat → List Char → Option (List Char × List Char)
  | _, [] | 0, _ => none
  | fuel + 1, char :: rest =>
      if char = '"' then some ([], rest)
      else if char = '\\' then do
        let (unescaped, rest) ← readEscape rest
        let (chars, rest) ← readChars fuel rest
        return (unescaped :: chars, rest)
      else if char.toNat < 0x20 then none
      else do
        let (chars, rest) ← readChars fuel rest
        return (char :: chars, rest)

/-- The digits a text begins with. -/
def readDigits (text : List Char) : List Char × List Char :=
  text.span Char.isDigit

/-- The digits before the point; a leading zero stands alone. -/
def readWhole : List Char → Option (Nat × List Char)
  | [] => none
  | char :: rest =>
      if char = '0' then some (0, rest)
      else if char.isDigit then
        some (Nat.ofDigitChars 10 (char :: (readDigits rest).1) 0,
          (readDigits rest).2)
      else none

/-- The digits behind the point, if there are any. -/
def readFraction : List Char → Option (List Char) × List Char
  | [] => (none, [])
  | char :: rest =>
      if char = '.' ∧ (readDigits rest).1 ≠ [] then
        (some (readDigits rest).1, (readDigits rest).2)
      else (none, char :: rest)

/-- Whether an exponent is negative, and its digits with the rest. -/
def readSign : List Char → Bool × List Char
  | '-' :: rest => (true, rest)
  | '+' :: rest => (false, rest)
  | text => (false, text)

/-- The exponent, if there is one. -/
def readExponent : List Char → Option Int × List Char
  | [] => (none, [])
  | char :: rest =>
      let digits := readDigits (readSign rest).2
      if (char = 'e' ∨ char = 'E') ∧ digits.1 ≠ [] then
        let value : Int := Nat.ofDigitChars 10 digits.1 0
        (some (if (readSign rest).1 then -value else value), digits.2)
      else (none, char :: rest)

/-- The number with this sign and these parts. -/
def number (negative : Bool) (whole : Nat) (fraction : Option (List Char))
    (exponent : Option Int) : Json :=
  match fraction, exponent with
  | none, none => .int (if negative then -(whole : Int) else whole)
  | _, _ =>
      let digits := fraction.getD []
      let mantissa : Rat := whole +
        (Nat.ofDigitChars 10 digits 0 : Rat) / 10 ^ digits.length
      .real ((if negative then -mantissa else mantissa) *
        10 ^ exponent.getD 0)

/-- A number after its sign. -/
def readUnsigned (negative : Bool) (text : List Char) :
    Option (Json × List Char) :=
  (readWhole text).map fun whole =>
    let fraction := readFraction whole.2
    let exponent := readExponent fraction.2
    (number negative whole.1 fraction.1 exponent.1, exponent.2)

def readNumber : List Char → Option (Json × List Char)
  | '-' :: rest => readUnsigned true rest
  | text => readUnsigned false text

/-- A word, of which the first letter is read. -/
def readWord (letters : List Char) (value : Json) (text : List Char) :
    Option (Json × List Char) :=
  if letters.isPrefixOf text then
    some (value, text.drop letters.length)
  else none

/-- `null`, `true`, `false` or a number. -/
def readScalar : List Char → Option (Json × List Char)
  | [] => none
  | char :: rest =>
      if char = 'n' then readWord ['u', 'l', 'l'] .null rest
      else if char = 't' then readWord ['r', 'u', 'e'] (.bool true) rest
      else if char = 'f' then
        readWord ['a', 'l', 's', 'e'] (.bool false) rest
      else readNumber (char :: rest)

mutual

/-- `scan_once`.  At most every second call reads no character. -/
def readValue : Nat → List Char → Option (Json × List Char)
  | _, [] | 0, _ => none
  | fuel + 1, char :: rest =>
      if char = '"' then
        (readChars fuel rest).map fun read =>
          (.str (String.ofList read.1), read.2)
      else if char = '[' then
        (readArray fuel (skipBlanks rest)).map fun read =>
          (.arr read.1, read.2)
      else if char = '\x7b' then
        (readObject fuel (skipBlanks rest)).map fun read =>
          (.obj (Json.update [] read.1), read.2)
      else readScalar (char :: rest)

/-- The items after the opening bracket. -/
def readArray : Nat → List Char → Option (List Json × List Char)
  | 0, _ => none
  | fuel + 1, text =>
      if text.head? = some ']' then some ([], text.tail)
      else do
        let (item, rest) ← readValue fuel text
        let (items, rest) ← readItems fuel (skipBlanks rest)
        return (item :: items, rest)

/-- The items after an item. -/
def readItems : Nat → List Char → Option (List Json × List Char)
  | _, [] | 0, _ => none
  | fuel + 1, char :: rest =>
      if char = ']' then some ([], rest)
      else if char = ',' then do
        let (item, rest) ← readValue fuel (skipBlanks rest)
        let (items, rest) ← readItems fuel (skipBlanks rest)
        return (item :: items, rest)
      else none

/-- The fields after the opening brace. -/
def readObject : Nat → List Char → Option (Json.Fields × List Char)
  | 0, _ => none
  | fuel + 1, text =>
      if text.head? = some '\x7d' then some ([], text.tail)
      else do
        let (field, rest) ← readField fuel text
        let (fields, rest) ← readFields fuel (skipBlanks rest)
        return (field :: fields, rest)

/-- The fields after a field. -/
def readFields : Nat → List Char → Option (Json.Fields × List Char)
  | _, [] | 0, _ => none
  | fuel + 1, char :: rest =>
      if char = '\x7d' then some ([], rest)
      else if char = ',' then do
        let (field, rest) ← readField fuel (skipBlanks rest)
        let (fields, rest) ← readFields fuel (skipBlanks rest)
        return (field :: fields, rest)
      else none

/-- A key, a colon and a value. -/
def readField : Nat → List Char → Option ((String × Json) × List Char)
  | _, [] | 0, _ => none
  | fuel + 1, char :: rest =>
      if char = '"' then do
        let (key, rest) ← readChars fuel rest
        let colon := skipBlanks rest
        if colon.head? = some ':' then
          let (value, rest) ← readValue fuel (skipBlanks colon.tail)
          return ((String.ofList key, value), rest)
        else none
      else none

end

/-- `json.loads`; `none` is a `JSONDecodeError`. -/
def loads (text : List Char) : Option Json :=
  match readValue (2 * text.length + 1) (skipBlanks text) with
  | some (value, rest) => if skipBlanks rest = [] then some value else none
  | none => none

/-! ## What is written is read -/

@[simp]
theorem skipBlanks_cons {char : Char} {rest : List Char}
    (notBlank : isBlank char = false) :
    skipBlanks (char :: rest) = char :: rest := by
  simp [skipBlanks, notBlank]

/-- The gap is skipped. -/
theorem skipBlanks_gap (spaced : Bool) (text : List Char) :
    skipBlanks (gap spaced ++ text) = skipBlanks text := by
  cases spaced <;> rfl

theorem hexValue_hexDigit :
    ∀ digit < 16, hexValue (hexDigit digit) = some digit := by
  decide

/-- An escaped character costs one call. -/
theorem readChars_escape
    (fuel : Nat) (char : Char) (text : List Char) :
    readChars (fuel + 1) (escape char ++ text) =
      (readChars fuel text).map fun read => (char :: read.1, read.2) := by
  have bound : ∀ rest, (do
      let (chars, rest) ← readChars fuel rest
      return (char :: chars, rest)) =
      (readChars fuel rest).map fun read => (char :: read.1, read.2) := by
    intro rest
    cases readChars fuel rest <;> rfl
  rw [escape]
  split
  · next same =>
      subst same
      exact bound text
  split
  · next same =>
      subst same
      exact bound text
  split
  · next same =>
      subst same
      exact bound text
  split
  · next same =>
      subst same
      exact bound text
  split
  · next same =>
      subst same
      exact bound text
  split
  · next same =>
      subst same
      exact bound text
  split
  · next same =>
      subst same
      exact bound text
  split
  · next control =>
      -- Two zeros and two digits give the code back.
      have high := hexValue_hexDigit (char.toNat / 16) (by omega)
      have low := hexValue_hexDigit (char.toNat % 16) (by omega)
      have code : ((0 * 16 + 0) * 16 + char.toNat / 16) * 16 +
          char.toNat % 16 = char.toNat := by
        omega
      have escaped : readEscape ('u' :: '0' :: '0' ::
          hexDigit (char.toNat / 16) :: hexDigit (char.toNat % 16) ::
            text) = some (char, text) := by
        have zero : hexValue '0' = some 0 := by decide
        have small : char.toNat < 0xd800 ∨ 0xdfff < char.toNat :=
          Or.inl (by omega)
        simp only [readEscape, if_true, readUnicode, readHex, zero, high,
          low, Option.bind_eq_bind, Option.bind_some, Option.pure_def, code,
          if_pos small, Char.ofNat_toNat]
      simp only [List.cons_append, List.nil_append, readChars]
      rw [if_neg (by decide), if_pos trivial, escaped]
      exact bound text
  · next notQuote notBackslash _ _ _ _ _ notControl =>
      simp only [List.cons_append, List.nil_append, readChars]
      rw [if_neg notQuote, if_neg notBackslash, if_neg notControl]
      exact bound text

theorem readChars_write
    {fuel : Nat} (chars rest : List Char) (enough : chars.length < fuel) :
    readChars fuel (chars.flatMap escape ++ '"' :: rest) =
      some (chars, rest) := by
  induction chars generalizing fuel with
  | nil =>
      cases fuel with
      | zero => cases enough
      | succ fuel => rfl
  | cons char chars induction =>
      cases fuel with
      | zero => cases enough
      | succ fuel =>
          rw [List.flatMap_cons, List.append_assoc, readChars_escape,
            induction (Nat.lt_of_succ_lt_succ enough)]
          rfl

/-- The text does not go on with a number. -/
def isEnd : List Char → Bool
  | [] => true
  | char :: _ =>
      !char.isDigit && char != '.' && char != 'e' && char != 'E'

theorem readDigits_append
    {digits rest : List Char} (allDigits : ∀ char ∈ digits, char.isDigit)
    (ends : ∀ char, rest.head? = some char → char.isDigit = false) :
    readDigits (digits ++ rest) = (digits, rest) := by
  rw [readDigits, List.span_eq_takeWhile_dropWhile,
    List.takeWhile_append_of_pos allDigits,
    List.dropWhile_append_of_pos allDigits]
  cases rest with
  | nil => simp
  | cons char rest => simp [ends char rfl]

theorem readFraction_of_isEnd
    {rest : List Char} (ends : isEnd rest = true) :
    readFraction rest = (none, rest) := by
  cases rest with
  | nil => rfl
  | cons char rest =>
      simp only [isEnd, Bool.and_eq_true, bne_iff_ne] at ends
      rw [readFraction, if_neg fun point => ends.1.1.2 point.1]

theorem readExponent_of_isEnd
    {rest : List Char} (ends : isEnd rest = true) :
    readExponent rest = (none, rest) := by
  cases rest with
  | nil => rfl
  | cons char rest =>
      simp only [isEnd, Bool.and_eq_true, bne_iff_ne] at ends
      rw [readExponent]
      apply if_neg
      rintro ⟨same | same, -⟩
      · exact ends.1.2 same
      · exact ends.2 same

theorem toDigits_head_ne_zero
    {value : Nat} (positive : value ≠ 0) :
    (Nat.toDigits 10 value).head? ≠ some '0' := by
  induction value using Nat.strongRecOn with
  | ind value induction =>
      rw [Nat.toDigits_eq_if (by decide)]
      split
      · next small =>
          intro same
          rw [List.head?_cons, Option.some.injEq,
            Nat.digitChar_eq_zero] at same
          exact positive same
      · next large =>
          rw [List.head?_append_of_ne_nil _ Nat.toDigits_ne_nil]
          exact induction (value / 10) (by omega) (by omega)

theorem readWhole_toDigits
    (value : Nat) {rest : List Char} (ends : isEnd rest = true) :
    readWhole (Nat.toDigits 10 value ++ rest) = some (value, rest) := by
  have noDigit : ∀ char, rest.head? = some char → char.isDigit = false := by
    intro char first
    cases rest with
    | nil => cases first
    | cons char' rest =>
        cases first
        simp only [isEnd, Bool.and_eq_true, Bool.not_eq_true'] at ends
        exact ends.1.1.1
  by_cases isZero : value = 0
  · subst isZero
    rfl
  · have allDigits : ∀ char ∈ Nat.toDigits 10 value, char.isDigit :=
      fun char => Nat.isDigit_of_mem_toDigits (by decide) (by decide)
    have read : Nat.ofDigitChars 10 (Nat.toDigits 10 value) 0 = value :=
      Nat.ofDigitChars_ten_toDigits
    cases digits : Nat.toDigits 10 value with
    | nil => exact absurd digits Nat.toDigits_ne_nil
    | cons char digits' =>
        rw [digits] at allDigits read
        have notZero : char ≠ '0' := by
          rintro rfl
          apply toDigits_head_ne_zero isZero
          rw [digits]
          rfl
        rw [List.cons_append, readWhole, if_neg notZero,
          if_pos (allDigits char List.mem_cons_self),
          readDigits_append
            (fun other member =>
              allDigits other (List.mem_cons_of_mem _ member)) noDigit,
          read]

theorem readUnsigned_toDigits
    (negative : Bool) (value : Nat) {rest : List Char}
    (ends : isEnd rest = true) :
    readUnsigned negative (Nat.toDigits 10 value ++ rest) =
      some (.int (if negative then -(value : Int) else value), rest) := by
  rw [readUnsigned, readWhole_toDigits value ends, Option.map_some]
  simp only [readFraction_of_isEnd ends, readExponent_of_isEnd ends]
  rfl

theorem readNumber_of_ne
    {char : Char} (rest : List Char) (notMinus : char ≠ '-') :
    readNumber (char :: rest) = readUnsigned false (char :: rest) := by
  rw [readNumber]
  rintro rest' same
  cases same
  exact notMinus rfl

theorem readNumber_writeInt
    (value : Int) {rest : List Char} (ends : isEnd rest = true) :
    readNumber (writeInt value ++ rest) = some (.int value, rest) := by
  cases value with
  | negSucc value =>
      rw [writeInt, List.cons_append, readNumber,
        readUnsigned_toDigits true _ ends]
      rfl
  | ofNat value =>
      have read := readUnsigned_toDigits false value ends
      rw [writeInt]
      cases digits : Nat.toDigits 10 value with
      | nil => exact absurd digits Nat.toDigits_ne_nil
      | cons char digits' =>
          have isDigit : char.isDigit = true := by
            apply @Nat.isDigit_of_mem_toDigits 10 value
            · decide
            · decide
            · rw [digits]
              exact List.mem_cons_self
          have notMinus : char ≠ '-' := by
            rintro rfl
            cases isDigit
          rw [digits] at read
          rw [List.cons_append] at read ⊢
          rw [readNumber_of_ne _ notMinus, read]
          rfl

/-- The first character of an integer. -/
theorem writeInt_cons (value : Int) :
    ∃ char rest, writeInt value = char :: rest ∧
      (char.isDigit = true ∨ char = '-') := by
  cases value with
  | negSucc value => exact ⟨_, _, rfl, Or.inr rfl⟩
  | ofNat value =>
      rw [writeInt]
      cases digits : Nat.toDigits 10 value with
      | nil => exact absurd digits Nat.toDigits_ne_nil
      | cons char rest =>
          refine ⟨char, rest, rfl, Or.inl ?_⟩
          apply @Nat.isDigit_of_mem_toDigits 10 value
          · decide
          · decide
          · rw [digits]
            exact List.mem_cons_self

theorem readScalar_writeInt
    (value : Int) {rest : List Char} (ends : isEnd rest = true) :
    readScalar (writeInt value ++ rest) = some (.int value, rest) := by
  have read := readNumber_writeInt value ends
  rcases writeInt_cons value with ⟨char, digits, isWritten, first⟩
  rw [isWritten, List.cons_append] at read ⊢
  rw [readScalar, if_neg, if_neg, if_neg, read]
  all_goals
    rintro rfl
    rcases first with isDigit | same
    · cases isDigit
    · cases same

mutual

/-- No floats, and no key twice. -/
def isWritable : Json → Bool
  | .real _ => false
  | .arr items => areWritable items
  | .obj fields =>
      decide ((fields.map Prod.fst).Nodup) && hasWritable fields
  | _ => true

def areWritable : List Json → Bool
  | [] => true
  | item :: rest => isWritable item && areWritable rest

def hasWritable : Json.Fields → Bool
  | [] => true
  | (_, value) :: rest => isWritable value && hasWritable rest

end

theorem set_of_not_mem
    {fields : Json.Fields} {key : String} {value : Json}
    (missing : key ∉ fields.map Prod.fst) :
    Json.set fields key value = fields ++ [(key, value)] := by
  induction fields with
  | nil => rfl
  | cons field rest induction =>
      rw [List.map_cons, List.mem_cons, not_or] at missing
      rw [Json.set, if_neg (by simpa using Ne.symm missing.1),
        induction missing.2]
      rfl

/-- Fields with distinct keys are the dictionary they make. -/
theorem update_append
    {fields values : Json.Fields}
    (distinct : ((fields ++ values).map Prod.fst).Nodup) :
    Json.update fields values = fields ++ values := by
  induction values generalizing fields with
  | nil => simp [Json.update]
  | cons field rest induction =>
      have missing : field.1 ∉ fields.map Prod.fst := by
        rw [List.map_append, List.map_cons] at distinct
        intro member
        exact (List.nodup_append.mp distinct).2.2 _ member _
          List.mem_cons_self rfl
      rw [List.append_cons] at distinct ⊢
      rw [← induction distinct, Json.update, List.foldl_cons,
        set_of_not_mem missing]
      rfl

/-- The characters with which written values begin and end. -/
theorem write_cons
    (spaced : Bool) {value : Json} (writable : isWritable value = true) :
    ∃ char rest, write spaced value = char :: rest ∧
      isBlank char = false ∧ char ≠ ']' := by
  cases value with
  | int value =>
      rcases writeInt_cons value with ⟨char, rest, isWritten, first⟩
      refine ⟨char, rest, by rw [write, isWritten], ?_, ?_⟩
      · rcases first with isDigit | rfl
        · cases blank : isBlank char with
          | false => rfl
          | true =>
              simp only [isBlank, Bool.or_eq_true, beq_iff_eq] at blank
              rcases blank with ((rfl | rfl) | rfl) | rfl <;> cases isDigit
        · rfl
      · rintro rfl
        rcases first with isDigit | same
        · cases isDigit
        · cases same
  | real => cases writable
  | bool value =>
      cases value <;> exact ⟨_, _, rfl, rfl, by decide⟩
  | null | str => exact ⟨_, _, rfl, rfl, by decide⟩
  | arr items => cases items <;> exact ⟨_, _, rfl, rfl, by decide⟩
  | obj fields => cases fields <;> exact ⟨_, _, rfl, rfl, by decide⟩

theorem skipBlanks_write
    (spaced : Bool) {value : Json} (writable : isWritable value = true)
    (rest : List Char) :
    skipBlanks (write spaced value ++ rest) =
      write spaced value ++ rest := by
  rcases write_cons spaced writable with ⟨char, more, isWritten, notBlank, -⟩
  rw [isWritten, List.cons_append, skipBlanks_cons notBlank]

theorem length_escape_pos (char : Char) : 1 ≤ (escape char).length := by
  rw [escape]
  repeat' split
  all_goals simp

theorem length_le_flatMap_escape (chars : List Char) :
    chars.length ≤ (chars.flatMap escape).length := by
  induction chars with
  | nil => exact Nat.le_refl _
  | cons char chars induction =>
      have first := length_escape_pos char
      rw [List.flatMap_cons, List.length_append, List.length_cons]
      omega

/-- A written string is read after its opening quote. -/
theorem readChars_writeString
    {fuel : Nat} (value : String) (rest : List Char)
    (enough : (writeString value ++ rest).length ≤ fuel) :
    readChars fuel ((value.toList.flatMap escape ++ ['"']) ++ rest) =
      some (value.toList, rest) := by
  rw [List.append_assoc, List.singleton_append]
  apply readChars_write
  have length := length_le_flatMap_escape value.toList
  simp only [writeString, List.length_cons, List.length_append,
    List.length_nil] at enough
  omega

/-- The rest of an array or of an object follows directly. -/
theorem skipBlanks_writeItems
    (spaced : Bool) (items : List Json) (rest : List Char) :
    skipBlanks (writeItems spaced items ++ rest) =
        writeItems spaced items ++ rest ∧
      isEnd (writeItems spaced items ++ rest) = true := by
  cases items <;> exact ⟨rfl, rfl⟩

theorem skipBlanks_writeFields
    (spaced : Bool) (fields : Json.Fields) (rest : List Char) :
    skipBlanks (writeFields spaced fields ++ rest) =
        writeFields spaced fields ++ rest ∧
      isEnd (writeFields spaced fields ++ rest) = true := by
  rcases fields with _ | ⟨⟨key, value⟩, fields⟩ <;> exact ⟨rfl, rfl⟩

theorem readField_write
    {spaced : Bool} {key : String} {value : Json} {fuel : Nat}
    {rest : List Char} (writable : isWritable value = true)
    (enough : (writeString key ++ ':' :: (gap spaced ++
      (write spaced value ++ rest))).length ≤ fuel)
    (read : readValue fuel (write spaced value ++ rest) =
      some (value, rest)) :
    readField (fuel + 1) (writeString key ++ ':' :: (gap spaced ++
      (write spaced value ++ rest))) = some ((key, value), rest) := by
  have chars := readChars_writeString key _ enough
  rw [writeString, List.cons_append, readField, if_pos rfl, chars]
  simp only [Option.bind_eq_bind, Option.bind_some, skipBlanks,
    show isBlank ':' = false from rfl, Bool.false_eq_true, if_false,
    List.head?_cons, if_true, List.tail_cons, skipBlanks_gap,
    skipBlanks_write spaced writable, read, String.ofList_toList]
  rfl

mutual

/-- A written value is read when nothing follows which could belong to it. -/
theorem readValue_write (spaced : Bool) :
    ∀ (value : Json) (fuel : Nat) (rest : List Char),
      isWritable value = true → isEnd rest = true →
      2 * (write spaced value ++ rest).length ≤ fuel →
      readValue fuel (write spaced value ++ rest) = some (value, rest)
  | .null, fuel + 1, rest, _, _, _ => rfl
  | .bool true, fuel + 1, rest, _, _, _ => rfl
  | .bool false, fuel + 1, rest, _, _, _ => rfl
  | .int value, fuel + 1, rest, _, ends, _ => by
      have read := readScalar_writeInt value ends
      rcases writeInt_cons value with ⟨char, digits, isWritten, first⟩
      rw [write]
      rw [isWritten, List.cons_append] at read ⊢
      rw [readValue, if_neg, if_neg, if_neg, read]
      all_goals
        rintro rfl
        rcases first with isDigit | same
        · cases isDigit
        · cases same
  | .str value, fuel + 1, rest, _, _, enough => by
      rw [write] at enough ⊢
      rw [writeString, List.cons_append, readValue, if_pos rfl,
        readChars_writeString value rest (by omega), Option.map_some,
        String.ofList_toList]
  | .arr [], 1, rest, _, _, enough => by
      simp only [write, List.length_append, List.length_cons] at enough
      omega
  | .arr [], fuel + 2, rest, _, _, _ => rfl
  | .arr (item :: items), 1, rest, _, _, enough => by
      simp only [write, List.length_append, List.length_cons] at enough
      omega
  | .arr (item :: items), fuel + 2, rest, writable, _, enough => by
      simp only [isWritable, areWritable, Bool.and_eq_true] at writable
      rw [write] at enough ⊢
      simp only [List.cons_append, List.append_assoc, List.length_cons]
        at enough ⊢
      have follows := skipBlanks_writeItems spaced items rest
      have first := readValue_write spaced item fuel _ writable.1 follows.2
        (by omega)
      have others := readItems_write spaced items fuel rest writable.2
        (by simp only [List.length_append] at enough ⊢; omega)
      rcases write_cons spaced writable.1 with
        ⟨char, more, isWritten, -, notClosing⟩
      have notClosed : ¬ (write spaced item ++
          (writeItems spaced items ++ rest)).head? = some ']' := by
        rw [isWritten, List.cons_append, List.head?_cons,
          Option.some.injEq]
        exact notClosing
      rw [readValue, if_neg (by decide), if_pos rfl,
        skipBlanks_write spaced writable.1, readArray, if_neg notClosed,
        first]
      simp only [Option.bind_eq_bind, Option.bind_some, follows.1, others]
      rfl
  | .obj [], 1, rest, _, _, enough => by
      simp only [write, List.length_append, List.length_cons] at enough
      omega
  | .obj [], fuel + 2, rest, _, _, _ => rfl
  | .obj ((key, value) :: fields), 1, rest, _, _, enough => by
      simp only [write, List.length_append, List.length_cons] at enough
      omega
  | .obj ((key, value) :: fields), 2, rest, _, _, enough => by
      simp only [write, List.length_append, List.length_cons] at enough
      omega
  | .obj ((key, value) :: fields), fuel + 3, rest, writable, _, enough => by
      simp only [isWritable, hasWritable, Bool.and_eq_true,
        decide_eq_true_eq] at writable
      rw [write] at enough ⊢
      simp only [List.cons_append, List.append_assoc, List.length_cons]
        at enough ⊢
      have follows := skipBlanks_writeFields spaced fields rest
      have first := readValue_write spaced value fuel _ writable.2.1
        follows.2
        (by simp only [List.length_append, List.length_cons] at enough ⊢
            omega)
      have others := readFields_write spaced fields (fuel + 1) rest
        writable.2.2
        (by simp only [List.length_append, List.length_cons] at enough ⊢
            omega)
      have field := @readField_write spaced key value fuel _ writable.2.1
        (by omega) first
      have notClosed : ¬ (writeString key ++ ':' :: (gap spaced ++
          (write spaced value ++ (writeFields spaced fields ++
            rest)))).head? = some '}' := by
        rw [writeString, List.cons_append, List.head?_cons]
        decide
      have opens : skipBlanks (writeString key ++ ':' :: (gap spaced ++
          (write spaced value ++ (writeFields spaced fields ++ rest)))) =
            writeString key ++ ':' :: (gap spaced ++
              (write spaced value ++ (writeFields spaced fields ++
                rest))) := rfl
      rw [readValue, if_neg (by decide), if_neg (by decide), if_pos rfl,
        opens, readObject, if_neg notClosed, field]
      simp only [Option.bind_eq_bind, Option.bind_some, follows.1, others,
        Option.pure_def, Option.map_some]
      rw [update_append (by simpa using writable.1)]
      rfl
  | .real _, _, _, writable, _, _ => by cases writable
  | value, 0, rest, writable, _, enough => by
      rcases write_cons spaced writable with ⟨char, more, isWritten, -⟩
      simp [isWritten] at enough

theorem readItems_write (spaced : Bool) :
    ∀ (items : List Json) (fuel : Nat) (rest : List Char),
      areWritable items = true →
      2 * (writeItems spaced items ++ rest).length ≤ fuel →
      readItems fuel (writeItems spaced items ++ rest) = some (items, rest)
  | [], fuel + 1, rest, _, _ => rfl
  | item :: items, fuel + 1, rest, writable, enough => by
      simp only [areWritable, Bool.and_eq_true] at writable
      rw [writeItems] at enough ⊢
      simp only [List.cons_append, List.append_assoc, List.length_cons,
        List.length_append] at enough ⊢
      have follows := skipBlanks_writeItems spaced items rest
      have first := readValue_write spaced item fuel _ writable.1 follows.2
        (by simp only [List.length_append]; omega)
      have others := readItems_write spaced items fuel rest writable.2
        (by simp only [List.length_append]; omega)
      rw [readItems, if_neg (by decide), if_pos rfl, skipBlanks_gap,
        skipBlanks_write spaced writable.1, first]
      simp only [Option.bind_eq_bind, Option.bind_some, follows.1, others]
      rfl
  | items, 0, rest, _, enough => by
      cases items <;> simp [writeItems] at enough

theorem readFields_write (spaced : Bool) :
    ∀ (fields : Json.Fields) (fuel : Nat) (rest : List Char),
      hasWritable fields = true →
      2 * (writeFields spaced fields ++ rest).length ≤ fuel →
      readFields fuel (writeFields spaced fields ++ rest) =
        some (fields, rest)
  | [], fuel + 1, rest, _, _ => rfl
  | (key, value) :: fields, 1, rest, writable, enough => by
      simp only [writeFields, List.length_append, List.length_cons]
        at enough
      omega
  | (key, value) :: fields, fuel + 2, rest, writable, enough => by
      simp only [hasWritable, Bool.and_eq_true] at writable
      rw [writeFields] at enough ⊢
      simp only [List.cons_append, List.append_assoc, List.length_cons,
        List.length_append] at enough ⊢
      have follows := skipBlanks_writeFields spaced fields rest
      have first := readValue_write spaced value fuel _ writable.1 follows.2
        (by simp only [List.length_append]; omega)
      have others := readFields_write spaced fields (fuel + 1) rest
        writable.2
        (by simp only [List.length_append]; omega)
      have field := @readField_write spaced key value fuel _ writable.1
        (by simp only [List.length_append, List.length_cons]; omega) first
      have opens : skipBlanks (writeString key ++ ':' :: (gap spaced ++
          (write spaced value ++ (writeFields spaced fields ++ rest)))) =
            writeString key ++ ':' :: (gap spaced ++
              (write spaced value ++ (writeFields spaced fields ++
                rest))) := rfl
      rw [readFields, if_neg (by decide), if_pos rfl, skipBlanks_gap, opens,
        field]
      simp only [Option.bind_eq_bind, Option.bind_some, follows.1, others]
      rfl
  | fields, 0, rest, _, enough => by
      rcases fields with _ | ⟨⟨key, value⟩, fields⟩ <;>
        simp [writeFields] at enough

end

/-- What is written is loaded. -/
theorem loads_write
    (spaced : Bool) {value : Json} (writable : isWritable value = true) :
    loads (write spaced value) = some value := by
  have read := readValue_write spaced value
    (2 * (write spaced value).length + 1) [] writable rfl
    (by rw [List.append_nil]; omega)
  have opens := skipBlanks_write spaced writable []
  rw [List.append_nil] at read opens
  rw [loads, opens, read]
  rfl

/-! ## Lengths -/

theorem length_le_writeString (value : String) :
    value.length ≤ (writeString value).length := by
  have chars := length_le_flatMap_escape value.toList
  rw [String.length_toList] at chars
  rw [writeString, List.length_cons, List.length_append]
  omega

theorem length_le_writeFields (spaced : Bool) {fields : Json.Fields}
    {key : String} {value : Json} (member : (key, value) ∈ fields) :
    (write spaced value).length ≤ (writeFields spaced fields).length := by
  induction fields with
  | nil => cases member
  | cons field rest induction =>
      rcases field with ⟨otherKey, other⟩
      rw [writeFields, List.length_append, List.length_append]
      rcases List.mem_cons.mp member with isHead | isRest
      · cases isHead
        omega
      · have later := induction isRest
        omega

/-- What is written of an object is no shorter than a value in it. -/
theorem length_le_write_obj (spaced : Bool) {fields : Json.Fields}
    {key : String} {value : Json} (member : (key, value) ∈ fields) :
    (write spaced value).length ≤ (write spaced (.obj fields)).length := by
  cases fields with
  | nil => cases member
  | cons field rest =>
      rcases field with ⟨otherKey, other⟩
      rw [write, List.length_cons, List.length_append, List.length_append]
      rcases List.mem_cons.mp member with isHead | isRest
      · cases isHead
        omega
      · have later := length_le_writeFields spaced isRest
        omega

theorem sum_length_le_writeItems (spaced : Bool) (items : List Json) :
    (items.map fun item => (write spaced item).length).sum ≤
      (writeItems spaced items).length := by
  induction items with
  | nil => exact Nat.zero_le _
  | cons item rest induction =>
      rw [List.map_cons, List.sum_cons, writeItems, List.length_append,
        List.length_append]
      omega

/-- What is written of an array is no shorter than all items together. -/
theorem sum_length_le_write_arr (spaced : Bool) (items : List Json) :
    (items.map fun item => (write spaced item).length).sum ≤
      (write spaced (.arr items)).length := by
  cases items with
  | nil => exact Nat.zero_le _
  | cons item rest =>
      have later := sum_length_le_writeItems spaced rest
      rw [List.map_cons, List.sum_cons, write, List.length_cons,
        List.length_append]
      omega

/-! ## Longer texts -/

section Longer

variable (more : List Char)

theorem skipBlanks_append
    {text : List Char} (found : skipBlanks text ≠ []) :
    skipBlanks (text ++ more) = skipBlanks text ++ more := by
  induction text with
  | nil => exact absurd rfl found
  | cons char rest induction =>
      rw [List.cons_append]
      simp only [skipBlanks] at found ⊢
      split
      · next blank =>
          rw [if_pos blank] at found
          exact induction found
      · rfl

/-- A character after which no number goes on. -/
def isStop : List Char → Bool
  | [] => false
  | char :: _ =>
      isBlank char || char == ',' || char == ']' || char == '}'

theorem isStop_of_skipBlanks
    {text rest : List Char} {char : Char}
    (skipped : skipBlanks text = char :: rest)
    (stops : isStop (char :: rest) = true) : isStop text = true := by
  cases text with
  | nil => cases skipped
  | cons first text =>
      simp only [skipBlanks] at skipped
      split at skipped
      · next blank => simp [isStop, blank]
      · cases skipped
        exact stops

theorem isDigit_of_isStop
    {char : Char} {rest : List Char}
    (stops : isStop (char :: rest) = true) :
    char.isDigit = false ∧ char ≠ '.' ∧ char ≠ 'e' ∧ char ≠ 'E' := by
  simp only [isStop, isBlank, Bool.or_eq_true, beq_iff_eq] at stops
  rcases stops with ((((((rfl | rfl) | rfl) | rfl) | rfl) | rfl) | rfl) <;>
    decide

theorem readHex_append
    {text : List Char} {code : Nat} {rest : List Char}
    (read : readHex text = some (code, rest)) :
    readHex (text ++ more) = some (code, rest ++ more) := by
  match text with
  | [] | [_] | [_, _] | [_, _, _] => cases read
  | first :: second :: third :: fourth :: text =>
      simp only [readHex, Option.bind_eq_bind, Option.bind_eq_some_iff,
        Option.pure_def, Option.some.injEq, Prod.mk.injEq] at read
      rcases read with ⟨one, isOne, two, isTwo, three, isThree, four, isFour,
        rfl, rfl⟩
      simp [readHex, isOne, isTwo, isThree, isFour]

theorem readUnicode_append
    {text : List Char} {char : Char} {rest : List Char}
    (read : readUnicode text = some (char, rest)) :
    readUnicode (text ++ more) = some (char, rest ++ more) := by
  rw [readUnicode] at read ⊢
  split at read
  · cases read
  · next code after isCode =>
      simp only [readHex_append more isCode]
      split at read
      · next single =>
          cases read
          rw [if_pos single]
      · next paired =>
          rw [if_neg paired]
          split at read
          · cases read
          · next high =>
              rw [if_neg high]
              split at read
              · next second =>
                  simp only [List.cons_append]
                  split at read
                  · cases read
                  · next low after' isLow =>
                      simp only [readHex_append more isLow]
                      split at read
                      · next inRange =>
                          rw [Option.some.injEq, Prod.mk.injEq] at read
                          rw [if_pos inRange, read.1, read.2]
                      · cases read
              · cases read

theorem readEscape_append
    {text : List Char} {char : Char} {rest : List Char}
    (read : readEscape text = some (char, rest)) :
    readEscape (text ++ more) = some (char, rest ++ more) := by
  cases text with
  | nil => cases read
  | cons first text =>
      rw [List.cons_append]
      simp only [readEscape] at read ⊢
      split at read
      · next isCode =>
          rw [if_pos isCode]
          exact readUnicode_append more read
      · next notCode =>
          rw [if_neg notCode]
          rcases Option.map_eq_some_iff.mp read with
            ⟨unescaped, isChar, same⟩
          cases same
          rw [isChar]
          rfl

theorem readChars_append
    {fuel fuel' : Nat} {text chars rest : List Char}
    (enough : fuel ≤ fuel')
    (read : readChars fuel text = some (chars, rest)) :
    readChars fuel' (text ++ more) = some (chars, rest ++ more) := by
  induction fuel generalizing fuel' text chars with
  | zero => cases text <;> cases read
  | succ fuel induction =>
      cases fuel' with
      | zero => cases enough
      | succ fuel' =>
          have induction' := fun {text chars : List Char} =>
            @induction fuel' text chars (Nat.le_of_succ_le_succ enough)
          cases text with
          | nil => cases read
          | cons char text =>
              rw [List.cons_append]
              simp only [readChars] at read ⊢
              split at read
              · next isQuote =>
                  cases read
                  rw [if_pos isQuote]
              · next notQuote =>
                  rw [if_neg notQuote]
                  split at read
                  · next isEscape =>
                      rw [if_pos isEscape]
                      simp only [Option.bind_eq_bind,
                        Option.bind_eq_some_iff, Option.pure_def,
                        Option.some.injEq, Prod.mk.injEq] at read
                      rcases read with
                        ⟨escaped, isEscaped, others, areRead, rfl, rfl⟩
                      simp [readEscape_append more isEscaped,
                        induction' areRead]
                  · next notEscape =>
                      rw [if_neg notEscape]
                      split at read
                      · cases read
                      · next notControl =>
                          rw [if_neg notControl]
                          simp only [Option.bind_eq_bind,
                            Option.bind_eq_some_iff, Option.pure_def,
                            Option.some.injEq, Prod.mk.injEq] at read
                          rcases read with ⟨others, areRead, rfl, rfl⟩
                          simp [induction' areRead]

theorem readDigits_eq (text : List Char) :
    (readDigits text).1 ++ (readDigits text).2 = text ∧
      (∀ char ∈ (readDigits text).1, char.isDigit) ∧
      ∀ char, (readDigits text).2.head? = some char →
        char.isDigit = false := by
  rw [readDigits, List.span_eq_takeWhile_dropWhile]
  refine ⟨List.takeWhile_append_dropWhile, ?_, ?_⟩
  · exact fun char member => List.mem_takeWhile_imp member
  · intro char first
    have notDigit := List.head?_dropWhile_not Char.isDigit text
    rw [first] at notDigit
    exact notDigit

theorem readDigits_longer
    {text : List Char} (goesOn : (readDigits text).2 ≠ []) :
    readDigits (text ++ more) =
      ((readDigits text).1, (readDigits text).2 ++ more) := by
  rcases readDigits_eq text with ⟨same, allDigits, ends⟩
  have longer := @readDigits_append (readDigits text).1
    ((readDigits text).2 ++ more) allDigits
    (by
      intro char first
      rw [List.head?_append_of_ne_nil _ goesOn] at first
      exact ends char first)
  rw [← List.append_assoc, same] at longer
  exact longer

theorem readWhole_append
    {text rest : List Char} {value : Nat}
    (read : readWhole text = some (value, rest)) (goesOn : rest ≠ []) :
    readWhole (text ++ more) = some (value, rest ++ more) := by
  cases text with
  | nil => cases read
  | cons char text =>
      rw [List.cons_append]
      simp only [readWhole] at read ⊢
      split at read
      · next isZero =>
          cases read
          rw [if_pos isZero]
      · next notZero =>
          rw [if_neg notZero]
          split at read
          · next isDigit =>
              rw [Option.some.injEq, Prod.mk.injEq] at read
              rw [if_pos isDigit,
                readDigits_longer more (by rw [read.2]; exact goesOn),
                read.1, read.2]
          · cases read

theorem readSign_append
    {text : List Char} (goesOn : text ≠ []) :
    readSign (text ++ more) = ((readSign text).1, (readSign text).2 ++ more) := by
  cases text with
  | nil => exact absurd rfl goesOn
  | cons char rest =>
      rw [List.cons_append]
      by_cases isMinus : char = '-'
      · subst isMinus
        rfl
      · by_cases isPlus : char = '+'
        · subst isPlus
          rfl
        · simp [readSign, isMinus, isPlus]

theorem readExponent_append
    {text : List Char} (stops : isStop (readExponent text).2 = true) :
    readExponent (text ++ more) =
      ((readExponent text).1, (readExponent text).2 ++ more) := by
  cases text with
  | nil => cases stops
  | cons char rest =>
      rw [List.cons_append]
      simp only [readExponent] at stops ⊢
      split at stops
      · next isExponent =>
          have goesOn : (readDigits (readSign rest).2).2 ≠ [] := by
            intro isEmpty
            rw [isEmpty] at stops
            cases stops
          have notEmpty : rest ≠ [] := by
            rintro rfl
            exact isExponent.2 rfl
          rw [readSign_append more notEmpty]
          simp only [readDigits_longer more goesOn, if_pos isExponent]
      · next notExponent =>
          have notLetter := isDigit_of_isStop stops
          rw [if_neg notExponent, if_neg]
          · rfl
          · rintro ⟨same | same, -⟩
            · exact notLetter.2.2.1 same
            · exact notLetter.2.2.2 same

theorem readFraction_append
    {text : List Char}
    (stops : isStop (readExponent (readFraction text).2).2 = true) :
    readFraction (text ++ more) =
      ((readFraction text).1, (readFraction text).2 ++ more) := by
  cases text with
  | nil => cases stops
  | cons char rest =>
      rw [List.cons_append]
      simp only [readFraction] at stops ⊢
      split at stops
      · next isFraction =>
          have goesOn : (readDigits rest).2 ≠ [] := by
            intro isEmpty
            rw [isEmpty] at stops
            cases stops
          rw [readDigits_longer more goesOn, if_pos isFraction,
            if_pos isFraction]
      · next notFraction =>
          have notPoint : char ≠ '.' := by
            rintro rfl
            cases stops
          rw [if_neg notFraction, if_neg fun point => notPoint point.1]
          rfl

theorem readUnsigned_append
    {negative : Bool} {text rest : List Char} {value : Json}
    (read : readUnsigned negative text = some (value, rest))
    (stops : isStop rest = true) :
    readUnsigned negative (text ++ more) = some (value, rest ++ more) := by
  rw [readUnsigned] at read ⊢
  rcases Option.map_eq_some_iff.mp read with ⟨⟨whole, after⟩, isWhole, same⟩
  rw [Prod.mk.injEq] at same
  rcases same with ⟨isValue, rfl⟩
  have fraction := readFraction_append more stops
  have goesOn : after ≠ [] := by
    rintro rfl
    cases stops
  rw [readWhole_append more isWhole goesOn, Option.map_some, fraction]
  simp only [readExponent_append more stops, isValue]

theorem readNumber_append
    {text rest : List Char} {value : Json}
    (read : readNumber text = some (value, rest))
    (stops : isStop rest = true) :
    readNumber (text ++ more) = some (value, rest ++ more) := by
  cases text with
  | nil => cases read
  | cons char text =>
      rw [List.cons_append]
      by_cases isMinus : char = '-'
      · subst isMinus
        exact readUnsigned_append more read stops
      · rw [readNumber_of_ne _ isMinus] at read ⊢
        exact readUnsigned_append more read stops

theorem readWord_append
    {letters text rest : List Char} {word value : Json}
    (read : readWord letters word text = some (value, rest)) :
    readWord letters word (text ++ more) = some (value, rest ++ more) := by
  rw [readWord] at read ⊢
  split at read
  · next begins =>
      rw [List.isPrefixOf_iff_prefix] at begins
      rcases begins with ⟨after, rfl⟩
      rw [List.drop_left] at read
      cases read
      rw [if_pos, List.append_assoc, List.drop_left]
      rw [List.isPrefixOf_iff_prefix, List.append_assoc]
      exact List.prefix_append _ _
  · cases read

theorem readScalar_append
    {text rest : List Char} {value : Json}
    (read : readScalar text = some (value, rest))
    (stops : isStop rest = true) :
    readScalar (text ++ more) = some (value, rest ++ more) := by
  cases text with
  | nil => cases read
  | cons char text =>
      rw [List.cons_append]
      simp only [readScalar] at read ⊢
      split at read
      · next isLetter =>
          rw [if_pos isLetter]
          exact readWord_append more read
      · next notNull =>
          rw [if_neg notNull]
          split at read
          · next isLetter =>
              rw [if_pos isLetter]
              exact readWord_append more read
          · next notTrue =>
              rw [if_neg notTrue]
              split at read
              · next isLetter =>
                  rw [if_pos isLetter]
                  exact readWord_append more read
              · next notFalse =>
                  rw [if_neg notFalse]
                  exact readNumber_append more read stops

/-- What is read with some fuel is read of a longer text with more. -/
structure ReadsLonger (fuel fuel' : Nat) : Prop where
  value {text rest : List Char} {value : Json}
    (read : readValue fuel text = some (value, rest))
    (stops : isStop rest = true) :
    readValue fuel' (text ++ more) = some (value, rest ++ more)
  array {text rest : List Char} {items : List Json}
    (read : readArray fuel text = some (items, rest)) :
    readArray fuel' (text ++ more) = some (items, rest ++ more)
  items {text rest : List Char} {items : List Json}
    (read : readItems fuel text = some (items, rest)) :
    readItems fuel' (text ++ more) = some (items, rest ++ more)
  object {text rest : List Char} {fields : Json.Fields}
    (read : readObject fuel text = some (fields, rest)) :
    readObject fuel' (text ++ more) = some (fields, rest ++ more)
  fields {text rest : List Char} {fields : Json.Fields}
    (read : readFields fuel text = some (fields, rest)) :
    readFields fuel' (text ++ more) = some (fields, rest ++ more)
  field {text rest : List Char} {field : String × Json}
    (read : readField fuel text = some (field, rest))
    (stops : isStop rest = true) :
    readField fuel' (text ++ more) = some (field, rest ++ more)

/-- The rest of an array or an object begins with a comma or its end. -/
theorem isStop_of_readItems
    {fuel : Nat} {text rest : List Char} {items : List Json}
    (read : readItems fuel (skipBlanks text) = some (items, rest)) :
    isStop text = true ∧ skipBlanks text ≠ [] := by
  cases skipped : skipBlanks text with
  | nil =>
      rw [skipped] at read
      cases fuel <;> cases read
  | cons char after =>
      rw [skipped] at read
      refine ⟨?_, by simp⟩
      apply isStop_of_skipBlanks skipped
      cases fuel with
      | zero => cases read
      | succ fuel =>
          simp only [readItems] at read
          split at read
          · next closes => simp [isStop, closes]
          · split at read
            · next isComma => simp [isStop, isComma]
            · cases read

theorem isStop_of_readFields
    {fuel : Nat} {text rest : List Char} {fields : Json.Fields}
    (read : readFields fuel (skipBlanks text) = some (fields, rest)) :
    isStop text = true ∧ skipBlanks text ≠ [] := by
  cases skipped : skipBlanks text with
  | nil =>
      rw [skipped] at read
      cases fuel <;> cases read
  | cons char after =>
      rw [skipped] at read
      refine ⟨?_, by simp⟩
      apply isStop_of_skipBlanks skipped
      cases fuel with
      | zero => cases read
      | succ fuel =>
          simp only [readFields] at read
          split at read
          · next closes => simp [isStop, closes]
          · split at read
            · next isComma => simp [isStop, isComma]
            · cases read

theorem readValue_ne_nil
    {fuel : Nat} {text : List Char} {read : Json × List Char}
    (isRead : readValue fuel text = some read) : text ≠ [] := by
  rintro rfl
  cases fuel <;> cases isRead

theorem readArray_ne_nil
    {fuel : Nat} {text : List Char} {read : List Json × List Char}
    (isRead : readArray fuel text = some read) : text ≠ [] := by
  rintro rfl
  cases fuel with
  | zero => cases isRead
  | succ fuel => cases fuel <;> cases isRead

theorem readObject_ne_nil
    {fuel : Nat} {text : List Char} {read : Json.Fields × List Char}
    (isRead : readObject fuel text = some read) : text ≠ [] := by
  rintro rfl
  cases fuel with
  | zero => cases isRead
  | succ fuel => cases fuel <;> cases isRead

namespace ReadsLonger

variable {more : List Char} {fuel fuel' : Nat}

/-- One item or field, and the others. -/
theorem sequence
    (longer : ReadsLonger more fuel fuel') {text rest : List Char}
    {items : List Json}
    (read : (do
      let (item, rest) ← readValue fuel text
      let (items, rest) ← readItems fuel (skipBlanks rest)
      return (item :: items, rest)) = some (items, rest)) :
    (do
      let (item, rest) ← readValue fuel' (text ++ more)
      let (items, rest) ← readItems fuel' (skipBlanks rest)
      return (item :: items, rest)) = some (items, rest ++ more) := by
  simp only [Option.bind_eq_bind, Option.bind_eq_some_iff, Option.pure_def,
    Option.some.injEq, Prod.mk.injEq] at read
  rcases read with ⟨⟨item, after⟩, isItem, ⟨others, last⟩, areItems,
    rfl, rfl⟩
  rcases isStop_of_readItems areItems with ⟨stops, goesOn⟩
  simp only [longer.value isItem stops, Option.bind_eq_bind,
    Option.bind_some, skipBlanks_append more goesOn, longer.items areItems,
    Option.pure_def]

theorem sequenceFields
    (longer : ReadsLonger more fuel fuel') {text rest : List Char}
    {fields : Json.Fields}
    (read : (do
      let (field, rest) ← readField fuel text
      let (fields, rest) ← readFields fuel (skipBlanks rest)
      return (field :: fields, rest)) = some (fields, rest)) :
    (do
      let (field, rest) ← readField fuel' (text ++ more)
      let (fields, rest) ← readFields fuel' (skipBlanks rest)
      return (field :: fields, rest)) = some (fields, rest ++ more) := by
  simp only [Option.bind_eq_bind, Option.bind_eq_some_iff, Option.pure_def,
    Option.some.injEq, Prod.mk.injEq] at read
  rcases read with ⟨⟨field, after⟩, isField, ⟨others, last⟩, areFields,
    rfl, rfl⟩
  rcases isStop_of_readFields areFields with ⟨stops, goesOn⟩
  simp only [longer.field isField stops, Option.bind_eq_bind,
    Option.bind_some, skipBlanks_append more goesOn,
    longer.fields areFields, Option.pure_def]

theorem value_succ
    (longer : ReadsLonger more fuel fuel') (enough : fuel ≤ fuel')
    {text rest : List Char} {value : Json}
    (read : readValue (fuel + 1) text = some (value, rest))
    (stops : isStop rest = true ∨ text.head? = some '\x7b') :
    readValue (fuel' + 1) (text ++ more) = some (value, rest ++ more) := by
  cases text with
  | nil => cases read
  | cons char text =>
      rw [List.cons_append]
      simp only [readValue] at read ⊢
      split at read
      · next isString =>
          rw [if_pos isString]
          rcases Option.map_eq_some_iff.mp read with
            ⟨⟨chars, after⟩, areRead, same⟩
          cases same
          rw [readChars_append more enough areRead]
          rfl
      · next notString =>
          rw [if_neg notString]
          split at read
          · next isArray =>
              rw [if_pos isArray]
              rcases Option.map_eq_some_iff.mp read with
                ⟨⟨items, after⟩, areItems, same⟩
              cases same
              rw [skipBlanks_append more (readArray_ne_nil areItems),
                longer.array areItems]
              rfl
          · next notArray =>
              rw [if_neg notArray]
              split at read
              · next isObject =>
                  rw [if_pos isObject]
                  rcases Option.map_eq_some_iff.mp read with
                    ⟨⟨fields, after⟩, areFields, same⟩
                  cases same
                  rw [skipBlanks_append more (readObject_ne_nil areFields),
                    longer.object areFields]
                  rfl
              · next notObject =>
                  rw [if_neg notObject]
                  rcases stops with stops | opens
                  · exact readScalar_append more read stops
                  · exact absurd (Option.some.inj opens) notObject

theorem array_succ
    (longer : ReadsLonger more fuel fuel') {text rest : List Char}
    {items : List Json}
    (read : readArray (fuel + 1) text = some (items, rest)) :
    readArray (fuel' + 1) (text ++ more) = some (items, rest ++ more) := by
  have notEmpty := readArray_ne_nil read
  cases text with
  | nil => exact absurd rfl notEmpty
  | cons char text =>
      simp only [List.cons_append, readArray, List.head?_cons,
        List.tail_cons, Option.some.injEq] at read ⊢
      split at read
      · next closes =>
          cases read
          rw [if_pos closes]
      · next goesOn =>
          rw [if_neg goesOn]
          exact longer.sequence read

theorem items_succ
    (longer : ReadsLonger more fuel fuel') {text rest : List Char}
    {items : List Json}
    (read : readItems (fuel + 1) text = some (items, rest)) :
    readItems (fuel' + 1) (text ++ more) = some (items, rest ++ more) := by
  cases text with
  | nil => cases read
  | cons char text =>
      rw [List.cons_append]
      simp only [readItems] at read ⊢
      split at read
      · next closes =>
          cases read
          rw [if_pos closes]
      · next goesOn =>
          rw [if_neg goesOn]
          split at read
          · next isComma =>
              have notEmpty : skipBlanks text ≠ [] := by
                intro isEmpty
                rw [isEmpty] at read
                cases fuel <;> cases read
              rw [if_pos isComma, skipBlanks_append more notEmpty]
              exact longer.sequence read
          · cases read

theorem object_succ
    (longer : ReadsLonger more fuel fuel') {text rest : List Char}
    {fields : Json.Fields}
    (read : readObject (fuel + 1) text = some (fields, rest)) :
    readObject (fuel' + 1) (text ++ more) = some (fields, rest ++ more) := by
  have notEmpty := readObject_ne_nil read
  cases text with
  | nil => exact absurd rfl notEmpty
  | cons char text =>
      simp only [List.cons_append, readObject, List.head?_cons,
        List.tail_cons, Option.some.injEq] at read ⊢
      split at read
      · next closes =>
          cases read
          rw [if_pos closes]
      · next goesOn =>
          rw [if_neg goesOn]
          exact longer.sequenceFields read

theorem fields_succ
    (longer : ReadsLonger more fuel fuel') {text rest : List Char}
    {fields : Json.Fields}
    (read : readFields (fuel + 1) text = some (fields, rest)) :
    readFields (fuel' + 1) (text ++ more) = some (fields, rest ++ more) := by
  cases text with
  | nil => cases read
  | cons char text =>
      rw [List.cons_append]
      simp only [readFields] at read ⊢
      split at read
      · next closes =>
          cases read
          rw [if_pos closes]
      · next goesOn =>
          rw [if_neg goesOn]
          split at read
          · next isComma =>
              have notEmpty : skipBlanks text ≠ [] := by
                intro isEmpty
                rw [isEmpty] at read
                cases fuel <;> cases read
              rw [if_pos isComma, skipBlanks_append more notEmpty]
              exact longer.sequenceFields read
          · cases read

theorem field_succ
    (longer : ReadsLonger more fuel fuel') (enough : fuel ≤ fuel')
    {text rest : List Char} {field : String × Json}
    (read : readField (fuel + 1) text = some (field, rest))
    (stops : isStop rest = true) :
    readField (fuel' + 1) (text ++ more) = some (field, rest ++ more) := by
  cases text with
  | nil => cases read
  | cons char text =>
      rw [List.cons_append]
      simp only [readField] at read ⊢
      split at read
      · next isQuote =>
          rw [if_pos isQuote]
          simp only [Option.bind_eq_bind, Option.bind_eq_some_iff] at read
          rcases read with ⟨⟨key, after⟩, isKey, read⟩
          split at read
          · next isColon =>
              simp only [Option.bind_eq_some_iff, Option.pure_def,
                Option.some.injEq, Prod.mk.injEq] at read
              rcases read with ⟨⟨value, last⟩, isValue, rfl, rfl⟩
              cases colon : skipBlanks after with
              | nil =>
                  rw [colon] at isColon
                  cases isColon
              | cons first later =>
                  rw [colon] at isColon isValue
                  have goesOn : skipBlanks after ≠ [] := by simp [colon]
                  have valueGoesOn := readValue_ne_nil isValue
                  rw [List.tail_cons] at isValue valueGoesOn
                  simp only [readChars_append more enough isKey,
                    Option.bind_eq_bind, Option.bind_some,
                    skipBlanks_append more goesOn, colon, List.cons_append,
                    List.head?_cons, List.tail_cons,
                    skipBlanks_append more valueGoesOn,
                    longer.value isValue stops]
                  rw [List.head?_cons] at isColon
                  rw [if_pos isColon]
                  rfl
          · cases read
      · cases read

end ReadsLonger

theorem readsLonger
    {fuel fuel' : Nat} (enough : fuel ≤ fuel') :
    ReadsLonger more fuel fuel' := by
  induction fuel generalizing fuel' with
  | zero =>
      constructor
      · intro text rest value read
        cases text <;> cases read
      · rintro _ _ _ ⟨⟩
      · intro text rest items read
        cases text <;> cases read
      · rintro _ _ _ ⟨⟩
      · intro text rest fields read
        cases text <;> cases read
      · intro text rest field read
        cases text <;> cases read
  | succ fuel induction =>
      cases fuel' with
      | zero => cases enough
      | succ fuel' =>
          have enough' := Nat.le_of_succ_le_succ enough
          have longer := induction enough'
          constructor
          · exact fun read stops =>
              longer.value_succ enough' read (Or.inl stops)
          · exact longer.array_succ
          · exact longer.items_succ
          · exact longer.object_succ
          · exact longer.fields_succ
          · exact longer.field_succ enough'

end Longer

/-- A text which is loaded and opens an object goes on with blanks only. -/
theorem loads_beginning
    {text more : List Char} {value whole : Json}
    (opens : text.head? = some '\x7b') (loaded : loads text = some value)
    (loadedWhole : loads (text ++ more) = some whole) :
    skipBlanks more = [] := by
  have notBlank : skipBlanks text = text := by
    cases text with
    | nil => cases opens
    | cons char rest =>
        cases opens
        rfl
  have goesOn : skipBlanks text ≠ [] := by
    rw [notBlank]
    rintro rfl
    cases opens
  rw [loads] at loaded loadedWhole
  split at loaded
  · next value' rest read =>
      split at loaded
      · next isBlank =>
          rw [notBlank] at read
          have longer := (readsLonger more
            (show 2 * text.length ≤ 2 * (text ++ more).length by
              rw [List.length_append]
              omega)).value_succ (by rw [List.length_append]; omega) read
            (Or.inr opens)
          rw [skipBlanks_append more goesOn, notBlank, longer]
            at loadedWhole
          dsimp only at loadedWhole
          split at loadedWhole
          · next allBlank =>
              have dropped : ∀ blanks : List Char, skipBlanks blanks = [] →
                  skipBlanks (blanks ++ more) = skipBlanks more := by
                intro blanks areBlank
                induction blanks with
                | nil => rfl
                | cons char blanks induction =>
                    simp only [List.cons_append, skipBlanks]
                      at areBlank ⊢
                    split at areBlank
                    · next blank =>
                        rw [if_pos blank]
                        exact induction areBlank
                    · cases areBlank
              rw [dropped rest isBlank] at allBlank
              exact allBlank
          · cases loadedWhole
      · cases loaded
  · cases loaded

theorem isBlank_of_skipBlanks
    {text : List Char} (allBlank : skipBlanks text = []) :
    ∀ char ∈ text, isBlank char = true := by
  induction text with
  | nil =>
      intro char member
      cases member
  | cons first rest induction =>
      simp only [skipBlanks] at allBlank
      split at allBlank
      · next blank =>
          intro char member
          rcases List.mem_cons.mp member with rfl | member
          · exact blank
          · exact induction allBlank char member
      · cases allBlank

theorem getLast?_writeFields (spaced : Bool) (fields : Json.Fields) :
    (writeFields spaced fields).getLast? = some '\x7d' := by
  induction fields with
  | nil => rfl
  | cons field rest induction =>
      rw [writeFields, List.getLast?_append, induction]
      rfl

/-- A written object opens and ends with its braces. -/
theorem write_obj_ends (spaced : Bool) (fields : Json.Fields) :
    (write spaced (.obj fields)).head? = some '\x7b' ∧
      (write spaced (.obj fields)).getLast? = some '\x7d' := by
  rcases fields with _ | ⟨⟨key, value⟩, fields⟩
  · exact ⟨rfl, rfl⟩
  · refine ⟨rfl, ?_⟩
    rw [write, ← List.cons_append, List.getLast?_append,
      getLast?_writeFields]
    rfl

/-- No proper beginning of a written object is loaded. -/
theorem loads_beginning_of_write
    {spaced : Bool} {fields : Json.Fields} {text more : List Char}
    (writable : isWritable (.obj fields) = true)
    (isWritten : write spaced (.obj fields) = text ++ more)
    (proper : more ≠ []) : loads text = none := by
  have ends := write_obj_ends spaced fields
  rw [isWritten] at ends
  cases loaded : loads text with
  | none => rfl
  | some value =>
      exfalso
      have opens : text.head? = some '\x7b' := by
        cases text with
        | nil => cases loaded
        | cons char text =>
            rw [← ends.1]
            rfl
      have whole := loads_write spaced writable
      rw [isWritten] at whole
      have blank := isBlank_of_skipBlanks
        (loads_beginning opens loaded whole)
      rw [List.getLast?_append_of_ne_nil _ proper] at ends
      have closes := blank _ (List.mem_of_getLast? ends.2)
      cases closes

end Sluicery.Library.JsonText
