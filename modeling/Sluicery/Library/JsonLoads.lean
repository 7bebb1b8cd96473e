import Sluicery.Library.Floats

/-!
# `json.loads` of an untrusted text

The reader accepts `NaN`, the infinities, numbers beyond the range of a float
and lone surrogates, and it has two limits of its own: on the digits of an
integer and on the depth.  The text is cut into tokens, and the tokens are
read one by one with the open containers on a stack, so that every text is
read to its end or to the first error.
-/

namespace Sluicery.Library.JsonLoads

/-! ## Values -/

/-- A value which `json.loads` returns. -/
inductive Value where
  | null
  | bool (value : Bool)
  | int (value : Int)
  | float (value : Double)
  | str (value : Text)
  | arr (items : List Value)
  | obj (fields : List (Text × Value))

/-- The fields of an object. -/
abbrev Fields := List (Text × Value)

/-- `fields.get(key)`; a missing field is `None`. -/
def get (fields : Fields) (key : String) : Value :=
  ((fields.find? fun field => field.1 == codes key).map Prod.snd).getD .null

/-- `fields[key] = value`. -/
def set (fields : Fields) (key : Text) (value : Value) : Fields :=
  match fields with
  | [] => [(key, value)]
  | field :: rest =>
      if field.1 == key then (key, value) :: rest
      else field :: set rest key value

/-- `bool(value)`. -/
def Value.truthy : Value → Bool
  | .null => false
  | .bool value => value
  | .int value => value != 0
  | .float value => value.truthy
  | .str value => !value.isEmpty
  | .arr items => !items.isEmpty
  | .obj fields => !fields.isEmpty

/-- Why a text is not read: `JSONDecodeError`, another `ValueError` (an integer
of too many digits) or `RecursionError`. -/
inductive LoadError where
  | decodeError
  | valueError
  | recursionError
deriving DecidableEq, Repr

/-- The limits of the interpreter; no digits are no limit. -/
structure Limits where
  maxDigits : Nat
  maxDepth : Nat

/-! ## Tokens -/

inductive Token where
  | openArray
  | closeArray
  | openObject
  | closeObject
  | comma
  | colon
  | text (value : Text)
  | scalar (value : Except LoadError Value)
  | bad

/-- A number which has been read exactly. -/
def numberValue (limits : Limits) : Json → Except LoadError Value
  | .int value =>
      if limits.maxDigits ≠ 0 ∧
          limits.maxDigits < (Nat.toDigits 10 value.natAbs).length then
        .error .valueError
      else .ok (.int value)
  | .real value => .ok (.float (Double.round value))
  | _ => .error .decodeError

/-- The tokens of the characters between blanks, quotes and punctuation. -/
def wordTokens (limits : Limits) (word : List Char) : List Token :=
  if word = [] then []
  else if word = "null".toList then [.scalar (.ok .null)]
  else if word = "true".toList then [.scalar (.ok (.bool true))]
  else if word = "false".toList then [.scalar (.ok (.bool false))]
  else if word = "NaN".toList then [.scalar (.ok (.float .nan))]
  else if word = "Infinity".toList then
    [.scalar (.ok (.float (.infinity false)))]
  else if word = "-Infinity".toList then
    [.scalar (.ok (.float (.infinity true)))]
  else
    match JsonText.readNumber word with
    | none => [.bad]
    | some (number, rest) =>
        .scalar (numberValue limits number) ::
          if rest = [] then [] else [.bad]

def punctuation (char : Char) : Option Token :=
  if char = '[' then some .openArray
  else if char = ']' then some .closeArray
  else if char = '\x7b' then some .openObject
  else if char = '\x7d' then some .closeObject
  else if char = ',' then some .comma
  else if char = ':' then some .colon
  else none

/-- Where the next character stands; what has been read is kept backwards. -/
inductive Mode where
  | plain (word : List Char)
  /-- In a string, maybe behind an escaped high surrogate. -/
  | quoted (read : Text) (high : Option Nat)
  | escape (read : Text) (high : Option Nat)
  | unicode (read : Text) (high : Option Nat) (missing code : Nat)
  | failed

/-- The string with the surrogate which has found no partner. -/
def alone (read : Text) (high : Option Nat) : Text := high.toList ++ read

/-- The string after an escaped code. -/
def escaped (read : Text) (high : Option Nat) (code : Nat) : Mode :=
  match high with
  | some high =>
      if 0xdc00 ≤ code ∧ code ≤ 0xdfff then
        .quoted ((0x10000 + (high - 0xd800) * 0x400 + (code - 0xdc00)) ::
          read) none
      else if 0xd800 ≤ code ∧ code ≤ 0xdbff then
        .quoted (high :: read) (some code)
      else .quoted (code :: high :: read) none
  | none =>
      if 0xd800 ≤ code ∧ code ≤ 0xdbff then .quoted read (some code)
      else .quoted (code :: read) none

/-- One character. -/
def lexStep (limits : Limits) (mode : Mode) (code : Nat) :
    List Token × Mode :=
  let char := Char.ofNat code
  match mode with
  | .plain word =>
      if JsonText.isBlank char then
        (wordTokens limits word.reverse, .plain [])
      else if char = '"' then
        (wordTokens limits word.reverse, .quoted [] none)
      else
        match punctuation char with
        | some token =>
            (wordTokens limits word.reverse ++ [token], .plain [])
        | none => ([], .plain (char :: word))
  | .quoted read high =>
      if char = '"' then ([.text (alone read high).reverse], .plain [])
      else if char = '\\' then ([], .escape read high)
      else if code < 0x20 then ([.bad], .failed)
      else ([], .quoted (code :: alone read high) none)
  | .escape read high =>
      if char = 'u' then ([], .unicode read high 3 0)
      else
        match JsonText.unescape char with
        | some char => ([], .quoted (char.toNat :: alone read high) none)
        | none => ([.bad], .failed)
  | .unicode read high missing code =>
      match JsonText.hexValue char, missing with
      | none, _ => ([.bad], .failed)
      | some digit, 0 => ([], escaped read high (code * 16 + digit))
      | some digit, missing + 1 =>
          ([], .unicode read high missing (code * 16 + digit))
  | .failed => ([], .failed)

/-- The tokens of a text. -/
def tokens (limits : Limits) : Mode → Text → List Token
  | .plain word, [] => wordTokens limits word.reverse
  | .failed, [] => []
  | _, [] => [.bad]
  | mode, code :: rest =>
      (lexStep limits mode code).1 ++
        tokens limits (lexStep limits mode code).2 rest

/-! ## Values of tokens -/

/-- An open container with what it holds so far. -/
inductive Frame where
  | array (items : List Value)
  | object (fields : Fields) (key : Text)

/-- What comes next, within the open containers. -/
inductive Next where
  | value (frames : List Frame)
  | firstItem (frames : List Frame)
  | firstKey (frames : List Frame)
  | key (fields : Fields) (frames : List Frame)
  | colon (fields : Fields) (key : Text) (frames : List Frame)
  | after (value : Value) (frames : List Frame)

/-- A container is opened, if the depth allows it. -/
def opened (limits : Limits) (frames : List Frame) (next : Next) :
    Except LoadError Next :=
  if frames.length < limits.maxDepth then .ok next
  else .error .recursionError

/-- The first token of a value. -/
def startValue (limits : Limits) (frames : List Frame) :
    Token → Except LoadError Next
  | .scalar value => value.map fun value => .after value frames
  | .text value => .ok (.after (.str value) frames)
  | .openArray => opened limits frames (.firstItem frames)
  | .openObject => opened limits frames (.firstKey frames)
  | _ => .error .decodeError

/-- One token. -/
def readToken (limits : Limits) : Next → Token → Except LoadError Next
  | .value frames, token => startValue limits frames token
  | .firstItem frames, .closeArray => .ok (.after (.arr []) frames)
  | .firstItem frames, token => startValue limits (.array [] :: frames) token
  | .firstKey frames, .closeObject => .ok (.after (.obj []) frames)
  | .firstKey frames, .text key => .ok (.colon [] key frames)
  | .key fields frames, .text key => .ok (.colon fields key frames)
  | .colon fields key frames, .colon =>
      .ok (.value (.object fields key :: frames))
  | .after value (.array items :: frames), .comma =>
      .ok (.value (.array (items ++ [value]) :: frames))
  | .after value (.array items :: frames), .closeArray =>
      .ok (.after (.arr (items ++ [value])) frames)
  | .after value (.object fields key :: frames), .comma =>
      .ok (.key (set fields key value) frames)
  | .after value (.object fields key :: frames), .closeObject =>
      .ok (.after (.obj (set fields key value)) frames)
  | _, _ => .error .decodeError

/-- `json.loads`. -/
def loads (limits : Limits) (text : Text) : Except LoadError Value :=
  match (tokens limits (.plain []) text).foldlM (readToken limits)
      (.value []) with
  | .ok (.after value []) => .ok value
  | .ok _ => .error .decodeError
  | .error error => .error error

end Sluicery.Library.JsonLoads
