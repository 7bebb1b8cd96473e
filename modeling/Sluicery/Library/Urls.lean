/-!
# URLs

The parts of a URL as `urllib.parse` finds them: `urlsplit`, the parts of a
netloc, and the fields which `parse_qsl` reads from a query.  Percent escapes
are decoded as UTF-8, with a replacement for what is none.
-/

namespace Sluicery.Library.Urls

/-! ## Splitting -/

/-- `text.partition(separator)`; `none` without a separator. -/
def partition (separator : Char) (text : List Char) :
    List Char × Option (List Char) :=
  match text.dropWhile (· ≠ separator) with
  | [] => (text, none)
  | _ :: rest => (text.takeWhile (· ≠ separator), some rest)

/-- `text.rpartition(separator)`; `none` without a separator. -/
def rpartition (separator : Char) (text : List Char) :
    Option (List Char) × List Char :=
  let parts := partition separator text.reverse
  (parts.2.map List.reverse, parts.1.reverse)

/-- `SplitResult`. -/
structure SplitResult where
  scheme : List Char
  netloc : List Char
  path : List Char
  query : List Char
  fragment : List Char
deriving DecidableEq, Repr

/-- `scheme_chars`. -/
def isSchemeChar (char : Char) : Bool :=
  char.isAlphanum || char ∈ ['+', '-', '.']

/-- The scheme in front of a colon, and what comes after it. -/
def splitScheme (url : List Char) : List Char × List Char :=
  match partition ':' url with
  | (scheme, some rest) =>
      if scheme.head?.any Char.isAlpha ∧ scheme.all isSchemeChar then
        (scheme.map Char.toLower, rest)
      else ([], url)
  | (_, none) => ([], url)

/-- The netloc after two slashes, and what comes after it. -/
def splitNetloc (url : List Char) : List Char × List Char :=
  match url with
  | '/' :: '/' :: rest =>
      (rest.takeWhile (· ∉ ['/', '?', '#']),
        rest.dropWhile (· ∉ ['/', '?', '#']))
  | _ => ([], url)

/-- A bracket of an address without the other one. -/
def isUnbalanced (netloc : List Char) : Bool :=
  decide ('[' ∈ netloc) != decide (']' ∈ netloc)

/-- `urlsplit`; `none` is a `ValueError`.  `raises` says for which netlocs the
address in brackets is none, or a separator comes up under normalization. -/
def urlsplit (raises : List Char → Bool) (url : List Char) :
    Option SplitResult :=
  let url := (url.dropWhile fun char => char.toNat ≤ 32).filter
    (· ∉ ['\t', '\r', '\n'])
  let (scheme, url) := splitScheme url
  let (netloc, url) := splitNetloc url
  if isUnbalanced netloc || raises netloc then none
  else
    let (url, fragment) := partition '#' url
    let (path, query) := partition '?' url
    some
      { scheme, netloc, path
        query := query.getD []
        fragment := fragment.getD [] }

namespace SplitResult

variable (parsed : SplitResult)

/-- `username`. -/
def username : Option (List Char) :=
  (rpartition '@' parsed.netloc).1.map fun userinfo =>
    (partition ':' userinfo).1

/-- `password`. -/
def password : Option (List Char) :=
  (rpartition '@' parsed.netloc).1.bind fun userinfo =>
    (partition ':' userinfo).2

/-- `_hostinfo[0]`. -/
def host : List Char :=
  let hostinfo := (rpartition '@' parsed.netloc).2
  match (partition '[' hostinfo).2 with
  | some bracketed => (partition ']' bracketed).1
  | none => (partition ':' hostinfo).1

/-- `hostname`. -/
def hostname : Option (List Char) :=
  if parsed.host = [] then none
  else
    some (parsed.host.takeWhile (· ≠ '%') |>.map Char.toLower |>.append
      (parsed.host.dropWhile (· ≠ '%')))

/-- A hostname is there, and is not empty, if the host is not. -/
theorem hostname_any_iff :
    (parsed.hostname.map String.ofList).any (· != "") = true ↔
      parsed.host ≠ [] := by
  rw [hostname]
  split
  · next empty => simp [empty]
  · next nonempty =>
      have whole := List.takeWhile_append_dropWhile
        (p := fun char => decide (char ≠ '%')) (l := parsed.host)
      simp only [Option.map_some, Option.any_some, bne_iff_ne, ne_eq,
        String.ofList_eq_empty_iff, nonempty, not_false_iff, iff_true]
      intro isEmpty
      rcases List.append_eq_nil_iff.mp isEmpty with ⟨noName, noZone⟩
      rw [List.map_eq_nil_iff.mp noName, noZone] at whole
      exact nonempty whole.symm

end SplitResult

/-! ## Percent escapes -/

/-- The value of a hexadecimal digit. -/
def hexValue (char : Char) : Option Nat :=
  if char.isDigit then some (char.toNat - '0'.toNat)
  else if 'a' ≤ char ∧ char ≤ 'f' then some (char.toNat - 'a'.toNat + 10)
  else if 'A' ≤ char ∧ char ≤ 'F' then some (char.toNat - 'A'.toNat + 10)
  else none

/-- The bytes of a text; other characters stay as they are. -/
def percentBytes : List Char → List (Nat ⊕ Char)
  | '%' :: high :: low :: rest =>
      match hexValue high, hexValue low with
      | some high, some low => .inl (16 * high + low) :: percentBytes rest
      | _, _ => .inl '%'.toNat :: percentBytes (high :: low :: rest)
  | char :: rest =>
      (if char.toNat < 128 then .inl char.toNat else .inr char) ::
        percentBytes rest
  | [] => []

/-- A sequence of UTF-8 of which this many bytes are still to come. -/
structure Pending where
  bytes : Nat
  low : Nat
  high : Nat
  value : Nat

/-- What a first byte is, or begins. -/
def firstByte (byte : Nat) : List Char × Option Pending :=
  if byte < 0x80 then ([Char.ofNat byte], none)
  else if 0xc2 ≤ byte ∧ byte ≤ 0xdf then
    ([], some ⟨1, 0x80, 0xbf, byte - 0xc0⟩)
  else if 0xe0 ≤ byte ∧ byte ≤ 0xef then
    ([], some ⟨2, if byte = 0xe0 then 0xa0 else 0x80,
      if byte = 0xed then 0x9f else 0xbf, byte - 0xe0⟩)
  else if 0xf0 ≤ byte ∧ byte ≤ 0xf4 then
    ([], some ⟨3, if byte = 0xf0 then 0x90 else 0x80,
      if byte = 0xf4 then 0x8f else 0xbf, byte - 0xf0⟩)
  else (['\ufffd'], none)

/-- `decode("utf-8", errors="replace")` of the bytes between other characters. -/
def decode : Option Pending → List (Nat ⊕ Char) → List Char
  | none, [] => []
  | some _, [] => ['\ufffd']
  | none, .inr char :: rest => char :: decode none rest
  | some _, .inr char :: rest => '\ufffd' :: char :: decode none rest
  | none, .inl byte :: rest =>
      (firstByte byte).1 ++ decode (firstByte byte).2 rest
  | some pending, .inl byte :: rest =>
      if pending.low ≤ byte ∧ byte ≤ pending.high then
        let value := pending.value * 64 + (byte - 0x80)
        if pending.bytes = 1 then Char.ofNat value :: decode none rest
        else decode (some ⟨pending.bytes - 1, 0x80, 0xbf, value⟩) rest
      else
        '\ufffd' :: ((firstByte byte).1 ++ decode (firstByte byte).2 rest)

/-- `unquote_plus`. -/
def unquotePlus (text : List Char) : List Char :=
  decode none (percentBytes (text.map fun char =>
    if char = '+' then ' ' else char))

/-! ## Queries -/

/-- The components of a query between `&`. -/
def components (query : List Char) : List (List Char) :=
  if query = [] then [] else query.splitOn '&'

/-- The key of a component: what stands before its `=`. -/
def key (component : List Char) : List Char :=
  unquotePlus (partition '=' component).1

/-- The value of a component, if it has one which is not blank. -/
def value? (component : List Char) : Option (List Char) :=
  (partition '=' component).2.bind fun value =>
    if value = [] then none else some (unquotePlus value)

/-- `parse_qsl`: the components without a value are left out. -/
def parseQsl (query : List Char) : List (List Char × List Char) :=
  (components query).filterMap fun component =>
    (value? component).map fun value => (key component, value)

/-- The keys of a query are those of its components with a value. -/
theorem mem_keys_parseQsl_iff (query name : List Char) :
    name ∈ (parseQsl query).map Prod.fst ↔
      ∃ component ∈ components query,
        (value? component).isSome ∧ key component = name := by
  constructor
  · intro member
    rcases List.mem_map.mp member with ⟨field, inFields, rfl⟩
    rcases List.mem_filterMap.mp inFields with ⟨component, inQuery, isField⟩
    rcases Option.map_eq_some_iff.mp isField with ⟨value, hasValue, rfl⟩
    refine ⟨component, inQuery, ?_, rfl⟩
    rw [hasValue, Option.isSome_some]
  · rintro ⟨component, inQuery, hasValue, rfl⟩
    rcases Option.isSome_iff_exists.mp hasValue with ⟨value, isValue⟩
    apply List.mem_map_of_mem (f := Prod.fst) (a := (key component, value))
    rw [parseQsl, List.mem_filterMap]
    exact ⟨component, inQuery, by rw [isValue, Option.map_some]⟩

end Sluicery.Library.Urls
