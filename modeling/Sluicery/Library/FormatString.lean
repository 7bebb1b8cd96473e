import Sluicery.Library.Floats
import Sluicery.Library.Returning

/-!
# Format strings

`str.format_map`: a text is read piece by piece, and a field is looked up,
converted and formatted before the next piece is read, so an error of the
syntax comes up only after everything before it has worked.  The objects, and
what is done with them, are an `Interpreter`.

Which exceptions an expansion can raise is a question about its single steps:
`Regular` says that every step which is reached meets its demand.
-/

namespace Sluicery.Library.FormatString

/-! ## Fields -/

/-- A step from an object to one of its parts. -/
inductive Accessor where
  | attr (name : List Char)
  | key (name : List Char)
  | index (position : Nat)
deriving DecidableEq, Repr

/-- The value of a decimal digit. -/
def digitValue (char : Char) : Option Nat :=
  let digit := asciiDigit char.toNat
  if digit.isDigit then some (digit.toNat - '0'.toNat) else none

/-- `get_integer` from a value on; `none` for a name which is no number. -/
def readInteger (value : Nat) : List Char → Except String (Option Nat)
  | [] => .ok (some value)
  | char :: rest =>
      match digitValue char with
      | none => .ok none
      | some digit =>
          if value * 10 + digit < 2 ^ 63 then
            readInteger (value * 10 + digit) rest
          else .error "Too many decimal digits in format string"

/-- `get_integer`. -/
def getInteger (name : List Char) : Except String (Option Nat) :=
  if name = [] then .ok none else readInteger 0 name

/-- Where the reader of accessors is. -/
inductive Reading where
  | between
  | attr (reversed : List Char)
  | item (reversed : List Char)

/-- An attribute has a name. -/
def endAttribute (reversed : List Char)
    (later : List (Except String Accessor)) : List (Except String Accessor) :=
  if reversed = [] then [.error "Empty attribute in format string"]
  else .ok (.attr reversed.reverse) :: later

/-- An item is an index if it is a number. -/
def endItem (reversed : List Char)
    (later : List (Except String Accessor)) : List (Except String Accessor) :=
  match getInteger reversed.reverse with
  | .error message => [.error message]
  | .ok (some position) => .ok (.index position) :: later
  | .ok none =>
      if reversed = [] then [.error "Empty attribute in format string"]
      else .ok (.key reversed.reverse) :: later

/-- `FieldNameIterator`: the accessors up to the first error. -/
def accessors : Reading → List Char → List (Except String Accessor)
  | .between, [] => []
  | .between, char :: rest =>
      if char = '.' then accessors (.attr []) rest
      else if char = '[' then accessors (.item []) rest
      else
        [.error "Only '.' or '[' may follow ']' in format field specifier"]
  | .attr reversed, [] => endAttribute reversed []
  | .attr reversed, char :: rest =>
      if char = '.' then endAttribute reversed (accessors (.attr []) rest)
      else if char = '[' then
        endAttribute reversed (accessors (.item []) rest)
      else accessors (.attr (char :: reversed)) rest
  | .item _, [] => [.error "Missing ']' in format string"]
  | .item reversed, char :: rest =>
      if char = ']' then endItem reversed (accessors .between rest)
      else accessors (.item (char :: reversed)) rest

/-- A replacement field. -/
structure Field where
  name : List Char
  conversion : Option Char := none
  spec : List Char := []
  /-- The specification has fields of its own. -/
  isNested : Bool := false
deriving DecidableEq, Repr

/-- The name of the variable. -/
def Field.first (field : Field) : List Char :=
  field.name.takeWhile (· ∉ ['.', '['])

/-- The accessors after the name of the variable. -/
def Field.accessors (field : Field) : List (Except String Accessor) :=
  FormatString.accessors .between (field.name.dropWhile (· ∉ ['.', '[']))

/-! ## Pieces -/

/-- A piece of a format string; nothing is read after an error. -/
inductive Piece where
  | literal (char : Char)
  | field (field : Field)
  | malformed (message : String)
deriving DecidableEq, Repr

/-- Where the reader of a format string is. -/
inductive Parsing where
  | text
  | name (reversed : List Char)
  /-- After a bracket, where nothing but the other one counts. -/
  | bracket (reversed : List Char)
  | conversion (name : List Char)
  | spec (field : Field) (depth : Nat) (reversed : List Char)

/-- `MarkupIterator`. -/
def pieces : Parsing → List Char → List Piece
  | .text, [] => []
  | .text, '{' :: '{' :: rest => .literal '{' :: pieces .text rest
  | .text, '}' :: '}' :: rest => .literal '}' :: pieces .text rest
  | .text, ['{'] => [.malformed "Single '\x7b' encountered in format string"]
  | .text, '{' :: rest => pieces (.name []) rest
  | .text, '}' :: _ =>
      [.malformed "Single '\x7d' encountered in format string"]
  | .text, char :: rest => .literal char :: pieces .text rest
  | .name _, [] => [.malformed "expected '\x7d' before end of string"]
  | .name reversed, char :: rest =>
      if char = '{' then [.malformed "unexpected '\x7b' in field name"]
      else if char = '[' then pieces (.bracket (char :: reversed)) rest
      else if char = '}' then
        .field { name := reversed.reverse } :: pieces .text rest
      else if char = ':' then
        pieces (.spec { name := reversed.reverse } 0 []) rest
      else if char = '!' then pieces (.conversion reversed.reverse) rest
      else pieces (.name (char :: reversed)) rest
  | .bracket _, [] => [.malformed "expected '\x7d' before end of string"]
  | .bracket reversed, char :: rest =>
      if char = ']' then pieces (.name (char :: reversed)) rest
      else pieces (.bracket (char :: reversed)) rest
  | .conversion _, [] =>
      [.malformed "end of string while looking for conversion specifier"]
  | .conversion _, [_] => [.malformed "unmatched '\x7b' in format spec"]
  | .conversion name, char :: '}' :: rest =>
      .field { name, conversion := some char } :: pieces .text rest
  | .conversion name, char :: ':' :: rest =>
      pieces (.spec { name, conversion := some char } 0 []) rest
  | .conversion _, _ :: _ :: _ =>
      [.malformed "expected ':' after conversion specifier"]
  | .spec _ _ _, [] => [.malformed "unmatched '\x7b' in format spec"]
  | .spec field depth reversed, char :: rest =>
      if char = '{' then
        pieces (.spec { field with isNested := true } (depth + 1)
          (char :: reversed)) rest
      else if char = '}' then
        match depth with
        | 0 =>
            .field { field with spec := reversed.reverse } ::
              pieces .text rest
        | depth + 1 => pieces (.spec field depth (char :: reversed)) rest
      else pieces (.spec field depth (char :: reversed)) rest

/-! ## Expansion -/

/-- What is done with the objects of a format string. -/
structure Interpreter (Object Failure : Type) where
  valueError : String → Failure
  lookup : List Char → Except Failure Object
  getAttribute : Object → List Char → Except Failure Object
  getKey : Object → List Char → Except Failure Object
  getIndex : Object → Nat → Except Failure Object
  /-- `str`, `repr` or `ascii`. -/
  convert : Char → Object → Except Failure Object
  format : Object → List Char → Except Failure (List Char)

namespace Interpreter

variable {Object Failure : Type} (interpreter : Interpreter Object Failure)

/-- One accessor. -/
def access (object : Object) : Accessor → Except Failure Object
  | .attr name => interpreter.getAttribute object name
  | .key name => interpreter.getKey object name
  | .index position => interpreter.getIndex object position

/-- The accessors one after the other. -/
def accessAll (object : Object) :
    List (Except String Accessor) → Except Failure Object
  | [] => .ok object
  | .error message :: _ => .error (interpreter.valueError message)
  | .ok accessor :: rest =>
      interpreter.access object accessor >>= fun next => accessAll next rest

/-- The variable of a field; without a name it would be a position. -/
def variableOf (first : List Char) : Except Failure Object :=
  match getInteger first with
  | .error message => .error (interpreter.valueError message)
  | .ok position =>
      if first = [] ∨ position.isSome then
        .error (interpreter.valueError
          "Format string contains positional fields")
      else interpreter.lookup first

/-- How a message writes a conversion: with its code outside ASCII. -/
def specifierText (char : Char) : String :=
  if 32 < char.toNat ∧ char.toNat < 127 then String.singleton char
  else "\\x" ++ String.ofList (Nat.toDigits 16 char.toNat)

/-- `do_conversion`, which a NUL does not call. -/
def conversionOf (conversion : Option Char) (object : Object) :
    Except Failure Object :=
  match conversion with
  | none => .ok object
  | some char =>
      if char = '\x00' then .ok object
      else if char ∈ ['r', 's', 'a'] then interpreter.convert char object
      else
        .error (interpreter.valueError
          ("Unknown conversion specifier " ++ specifierText char))

/-- `output_markup`. -/
def expandField (expand : List Char → Except Failure (List Char))
    (field : Field) : Except Failure (List Char) :=
  interpreter.variableOf field.first >>= fun start =>
    interpreter.accessAll start field.accessors >>= fun object =>
      interpreter.conversionOf field.conversion object >>= fun converted =>
        (if field.isNested then expand field.spec else .ok field.spec) >>=
          fun spec => interpreter.format converted spec

/-- `do_markup`. -/
def expandPieces (expand : List Char → Except Failure (List Char)) :
    List Piece → Except Failure (List Char)
  | [] => .ok []
  | .literal char :: rest =>
      expandPieces expand rest >>= fun later => .ok (char :: later)
  | .malformed message :: _ => .error (interpreter.valueError message)
  | .field field :: rest =>
      interpreter.expandField expand field >>= fun value =>
        expandPieces expand rest >>= fun later => .ok (value ++ later)

/-- `build_string`, with so many levels left. -/
def expand : Nat → List Char → Except Failure (List Char)
  | 0, _ =>
      .error (interpreter.valueError "Max string recursion exceeded")
  | depth + 1, text =>
      interpreter.expandPieces (expand depth) (pieces .text text)

/-- `text.format_map(variables)`. -/
def formatMap (text : List Char) : Except Failure (List Char) :=
  interpreter.expand 2 text

end Interpreter

/-! ## Demands on the steps -/

/-- What the steps of an expansion must meet, each on its own. -/
structure Demands (Object : Type) where
  onAttribute : Object → List Char → Prop
  onKey : Object → List Char → Prop
  onIndex : Object → Nat → Prop
  onConvert : Char → Object → Prop
  onFormat : Object → List Char → Prop

namespace Demands

variable {Object Failure : Type} (demands : Demands Object)
  (interpreter : Interpreter Object Failure)

/-- The demand on an accessor. -/
def Access (object : Object) : Accessor → Prop
  | .attr name => demands.onAttribute object name
  | .key name => demands.onKey object name
  | .index position => demands.onIndex object position

/-- Every accessor which is reached meets its demand. -/
def AccessAll (object : Object) : List (Except String Accessor) → Prop
  | [] => True
  | .error _ :: _ => True
  | .ok accessor :: rest =>
      demands.Access object accessor ∧
        ∀ next, interpreter.access object accessor = .ok next →
          AccessAll next rest

/-- The demand on a conversion which is one. -/
def Conversion (conversion : Option Char) (object : Object) : Prop :=
  ∀ char ∈ conversion, char ∈ ['r', 's', 'a'] → demands.onConvert char object

/-- Every step of a field which is reached meets its demand. -/
def RegularField (expand : List Char → Except Failure (List Char))
    (regular : List Char → Prop) (field : Field) : Prop :=
  ∀ start, interpreter.variableOf field.first = .ok start →
    demands.AccessAll interpreter start field.accessors ∧
    ∀ object,
      interpreter.accessAll start field.accessors = .ok object →
      demands.Conversion field.conversion object ∧
      ∀ converted,
        interpreter.conversionOf field.conversion object = .ok converted →
        (field.isNested = true → regular field.spec) ∧
        ∀ spec,
          (if field.isNested then expand field.spec else .ok field.spec) =
            .ok spec →
          demands.onFormat converted spec

/-- Every field which is reached is regular. -/
def RegularPieces (expand : List Char → Except Failure (List Char))
    (regular : List Char → Prop) : List Piece → Prop
  | [] => True
  | .literal _ :: rest => RegularPieces expand regular rest
  | .malformed _ :: _ => True
  | .field field :: rest =>
      demands.RegularField interpreter expand regular field ∧
        ∀ value, interpreter.expandField expand field = .ok value →
          RegularPieces expand regular rest

/-- Every step of an expansion which is reached meets its demand. -/
def RegularAt : Nat → List Char → Prop
  | 0, _ => True
  | depth + 1, text =>
      demands.RegularPieces interpreter (interpreter.expand depth)
        (RegularAt depth) (pieces .text text)

/-- The text of `format_map` is expanded in regular steps. -/
def Regular (text : List Char) : Prop :=
  demands.RegularAt interpreter 2 text

/-! ## Regular expansions -/

/-- The demands say when the single steps fail in allowed ways only. -/
structure Decides (allowed : Failure → Prop) : Prop where
  valueError (message : String) : allowed (interpreter.valueError message)
  lookup (name : List Char) :
    FailsOnly allowed (interpreter.lookup name)
  access (object : Object) (accessor : Accessor) :
    FailsOnly allowed (interpreter.access object accessor) ↔
      demands.Access object accessor
  convert (char : Char) (object : Object) :
    FailsOnly allowed (interpreter.convert char object) ↔
      demands.onConvert char object
  format (object : Object) (spec : List Char) :
    FailsOnly allowed (interpreter.format object spec) ↔
      demands.onFormat object spec

variable {demands interpreter} {allowed : Failure → Prop}

theorem failsOnly_accessAll_iff
    (decides : demands.Decides interpreter allowed) (object : Object)
    (accessors : List (Except String Accessor)) :
    FailsOnly allowed (interpreter.accessAll object accessors) ↔
      demands.AccessAll interpreter object accessors := by
  induction accessors generalizing object with
  | nil => simp [Interpreter.accessAll, AccessAll]
  | cons accessor rest induction =>
      cases accessor with
      | error message =>
          simp [Interpreter.accessAll, AccessAll,
            decides.valueError message]
      | ok accessor =>
          simp only [Interpreter.accessAll, AccessAll, failsOnly_bind,
            decides.access, induction]

theorem failsOnly_variableOf
    (decides : demands.Decides interpreter allowed) (first : List Char) :
    FailsOnly allowed (interpreter.variableOf first) := by
  rw [Interpreter.variableOf]
  split
  · rw [failsOnly_error]
    exact decides.valueError _
  · split
    · rw [failsOnly_error]
      exact decides.valueError _
    · exact decides.lookup first

theorem failsOnly_conversionOf_iff
    (decides : demands.Decides interpreter allowed)
    (conversion : Option Char) (object : Object) :
    FailsOnly allowed (interpreter.conversionOf conversion object) ↔
      demands.Conversion conversion object := by
  cases conversion with
  | none => simp [Interpreter.conversionOf, Conversion]
  | some char =>
      rw [Interpreter.conversionOf, Conversion]
      split
      · next isNul =>
          refine iff_of_true (failsOnly_ok _) ?_
          rintro _ ⟨⟩ known
          rw [isNul] at known
          exact absurd known (by decide)
      · split
        · next known =>
            rw [decides.convert]
            constructor
            · rintro demand _ ⟨⟩ _
              exact demand
            · intro all
              exact all char rfl known
        · next unknown =>
            rw [failsOnly_error]
            refine iff_of_true (decides.valueError _) ?_
            rintro _ ⟨⟩ known
            exact absurd known unknown

theorem failsOnly_expandField_iff
    (decides : demands.Decides interpreter allowed)
    {expand : List Char → Except Failure (List Char)}
    {regular : List Char → Prop}
    (expands : ∀ text, FailsOnly allowed (expand text) ↔ regular text)
    (field : Field) :
    FailsOnly allowed (interpreter.expandField expand field) ↔
      demands.RegularField interpreter expand regular field := by
  have nested : FailsOnly allowed
      (if field.isNested then expand field.spec else .ok field.spec) ↔
        (field.isNested = true → regular field.spec) := by
    split
    · next isNested => simp [isNested, expands]
    · next plain => simp [plain]
  simp only [Interpreter.expandField, RegularField, failsOnly_bind,
    failsOnly_variableOf decides, failsOnly_accessAll_iff decides,
    failsOnly_conversionOf_iff decides, nested, decides.format, true_and]

theorem failsOnly_expandPieces_iff
    (decides : demands.Decides interpreter allowed)
    {expand : List Char → Except Failure (List Char)}
    {regular : List Char → Prop}
    (expands : ∀ text, FailsOnly allowed (expand text) ↔ regular text)
    (found : List Piece) :
    FailsOnly allowed (interpreter.expandPieces expand found) ↔
      demands.RegularPieces interpreter expand regular found := by
  induction found with
  | nil => simp [Interpreter.expandPieces, RegularPieces]
  | cons piece rest induction =>
      cases piece with
      | literal char =>
          simp [Interpreter.expandPieces, RegularPieces, induction]
      | malformed message =>
          simp [Interpreter.expandPieces, RegularPieces,
            decides.valueError message]
      | field field =>
          simp [Interpreter.expandPieces, RegularPieces, induction,
            failsOnly_expandField_iff decides expands]

theorem failsOnly_expand_iff
    (decides : demands.Decides interpreter allowed) (depth : Nat)
    (text : List Char) :
    FailsOnly allowed (interpreter.expand depth text) ↔
      demands.RegularAt interpreter depth text := by
  induction depth generalizing text with
  | zero =>
      simp [Interpreter.expand, RegularAt, decides.valueError]
  | succ depth induction =>
      exact failsOnly_expandPieces_iff decides induction _

/-- An expansion fails in allowed ways only if it is regular. -/
theorem failsOnly_formatMap_iff
    (decides : demands.Decides interpreter allowed) (text : List Char) :
    FailsOnly allowed (interpreter.formatMap text) ↔
      demands.Regular interpreter text :=
  failsOnly_expand_iff decides 2 text

end Demands

end Sluicery.Library.FormatString
