import Mathlib
import Sluicery.Library.JsonText
import Sluicery.Library.Returning

/-!
# Floats

A float of Python is a number with 53 binary digits, an infinity or `nan`; the
two zeros are one value here.  `int`, `round` and `float` are total on numbers
in the range and raise on the others.
-/

namespace Sluicery.Library

/-- The code points of a Python string, which may be lone surrogates. -/
abbrev Text := List Nat

/-- The code points of a literal. -/
def codes (literal : String) : Text := literal.toList.map Char.toNat

/-- The exceptions of conversions and of `json.loads`. -/
inductive PyError where
  | valueError
  | overflowError
  | recursionError
deriving DecidableEq, Repr

/-! ## Rounding -/

/-- The nearest integer; a tie goes to the even one. -/
def roundHalfEven (value : Rat) : Int :=
  let below := value.floor
  let rest := value - below
  if rest < 1 / 2 ∨ rest = 1 / 2 ∧ below % 2 = 0 then below else below + 1

/-- The binary digits of a positive number before its point, less one. -/
def binaryExponent (value : Rat) : Int :=
  let guess : Int := (value.num.natAbs.log2 : Int) - value.den.log2
  if value < 2 ^ guess then guess - 1 else guess

/-- A number with 53 binary digits, or fewer near zero. -/
def nearestBinary (value : Rat) : Rat :=
  if value = 0 then 0
  else
    let magnitude := if value < 0 then -value else value
    let unit : Rat := 2 ^ (max (binaryExponent magnitude) (-1022) - 52)
    roundHalfEven (value / unit) * unit

/-- A float. -/
inductive Double where
  | finite (value : Rat)
  | infinity (negative : Bool)
  | nan
deriving DecidableEq, Repr

namespace Double

/-- From here on a number is rounded to an infinity. -/
def bound : Rat := 2 ^ 1024 - 2 ^ 970

/-- The float nearest to a number. -/
def round (value : Rat) : Double :=
  if -bound < value ∧ value < bound then .finite (nearestBinary value)
  else .infinity (decide (value < 0))

/-- `bool(value)`. -/
def truthy : Double → Bool
  | .finite value => value != 0
  | _ => true

/-! ## Conversions -/

/-- A conversion of a number, which is not an infinity or `nan`. -/
def convert (convert : Rat → Int) : Double → Except PyError Int
  | .finite value => .ok (convert value)
  | .infinity _ => .error .overflowError
  | .nan => .error .valueError

/-- `int(value)`. -/
def toInt : Double → Except PyError Int :=
  convert fun value => if value < 0 then value.ceil else value.floor

/-- `round(value)`. -/
def toNearest : Double → Except PyError Int :=
  convert roundHalfEven

/-- `float(value)` of an integer. -/
def ofInt (value : Int) : Except PyError Double :=
  match round value with
  | .infinity _ => .error .overflowError
  | double => .ok double

/-- A float is not finite. -/
def IsSpecial (double : Double) : Prop := ∀ value, double ≠ .finite value

theorem returns_convert {conversion : Rat → Int} {double : Double} :
    Returns (convert conversion double) ↔ ¬ double.IsSpecial := by
  cases double with
  | finite value => simp [convert, IsSpecial]
  | infinity | nan => simp [convert, IsSpecial]

/-- An integer is too large if and only if it lies beyond the range. -/
theorem returns_ofInt {value : Int} :
    Returns (ofInt value) ↔ -bound < value ∧ (value : Rat) < bound := by
  unfold ofInt round
  split
  · next isInfinite =>
      split at isInfinite
      · cases isInfinite
      · next beyond => simp [beyond]
  · next notInfinite =>
      by_cases inRange : -bound < (value : Rat) ∧ (value : Rat) < bound
      · simp [inRange]
      · rw [if_neg inRange] at notInfinite
        exact absurd rfl (notInfinite _)

end Double

/-! ## Strings -/

/-- `str.isspace` of one code point. -/
def isSpace (code : Nat) : Bool :=
  (9 ≤ code && code ≤ 13) || (28 ≤ code && code ≤ 32) || code == 0x85 ||
    code == 0xa0 || code == 0x1680 || (0x2000 ≤ code && code ≤ 0x200a) ||
    code == 0x2028 || code == 0x2029 || code == 0x202f || code == 0x205f ||
    code == 0x3000

/-- `text.strip()`. -/
def strip (value : Text) : Text :=
  ((value.dropWhile isSpace).reverse.dropWhile isSpace).reverse

/-- `text.upper()`, of the letters of ASCII. -/
def upper (value : Text) : Text :=
  value.map fun code => if 97 ≤ code ∧ code ≤ 122 then code - 32 else code

/-- The zeros of the scripts with decimal digits. -/
def decimalZeros : List Nat :=
  [0x30, 0x660, 0x6f0, 0x7c0, 0x966, 0x9e6, 0xa66, 0xae6, 0xb66, 0xbe6,
    0xc66, 0xce6, 0xd66, 0xde6, 0xe50, 0xed0, 0xf20, 0x1040, 0x1090, 0x17e0,
    0x1810, 0x1946, 0x19d0, 0x1a80, 0x1a90, 0x1b50, 0x1bb0, 0x1c40, 0x1c50,
    0xa620, 0xa8d0, 0xa900, 0xa9d0, 0xa9f0, 0xaa50, 0xabf0, 0xff10, 0x104a0,
    0x10d30, 0x11066, 0x110f0, 0x11136, 0x111d0, 0x112f0, 0x11450, 0x114d0,
    0x11650, 0x116c0, 0x11730, 0x118e0, 0x11950, 0x11c50, 0x11d50, 0x11da0,
    0x11f50, 0x16a60, 0x16ac0, 0x16b50, 0x1d7ce, 0x1d7d8, 0x1d7e2, 0x1d7ec,
    0x1d7f6, 0x1e140, 0x1e2f0, 0x1e4f0, 0x1e950, 0x1fbf0]

/-- A decimal digit of any script, or the character itself. -/
def asciiDigit (code : Nat) : Char :=
  match decimalZeros.find? fun first => first ≤ code && code < first + 10 with
  | some first => Char.ofNat (48 + (code - first))
  | none => Char.ofNat code

/-- An underscore stands between digits only. -/
def underscoresFit : Char → List Char → Bool
  | previous, [] => previous != '_'
  | previous, char :: rest =>
      (char != '_' || previous.isDigit) && (previous != '_' || char.isDigit) &&
        underscoresFit char rest

/-- The digits of a text, with a point or without one. -/
def readDecimal (chars : List Char) : Option (Rat × List Char) :=
  let whole := JsonText.readDigits chars
  let fraction :=
    match whole.2 with
    | '.' :: rest => JsonText.readDigits rest
    | rest => ([], rest)
  if whole.1 = [] ∧ fraction.1 = [] then none
  else
    some (Nat.ofDigitChars 10 whole.1 0 +
      (Nat.ofDigitChars 10 fraction.1 0 : Rat) / 10 ^ fraction.1.length,
      fraction.2)

/-- `float(text)` of a stripped text; `none` is a `ValueError`. -/
def floatOf (value : Text) : Option Double :=
  let chars := value.map asciiDigit
  let signed := JsonText.readSign (chars.filter fun char => char != '_')
  let word := String.ofList (signed.2.map Char.toLower)
  if ¬ underscoresFit ' ' chars then none
  else if word = "inf" ∨ word = "infinity" then some (.infinity signed.1)
  else if word = "nan" then some .nan
  else
    match readDecimal signed.2 with
    | none => none
    | some (mantissa, rest) =>
        let exponent := JsonText.readExponent rest
        if exponent.2 ≠ [] then none
        else
          let number := mantissa * 10 ^ exponent.1.getD 0
          some (Double.round (if signed.1 then -number else number))

end Sluicery.Library
