import Sluicery.Library.Floats
import Sluicery.Library.Substitution
import Mathlib.Data.List.Dedup

/-!
# Masking the output of processes

`mask_output_text` replaces the sensitive values of an output, the longest
ones first, and then, when asked to, its URLs and the names of rclone's
environment.  What is put in is a row of asterisks, so nothing which has no
asterisk can arise from a replacement.
-/

namespace Sluicery.Runner.Masking

open Sluicery.Library

/-! ## Patterns -/

/-- What takes the place of a secret. -/
def mask : Text := codes "********"

/-- A letter in either case; `ſ` is a case of `s`. -/
def ignoringCase (lower : Char) (code : Nat) : Bool :=
  code == lower.toNat || code == lower.toUpper.toNat ||
    lower == 's' && code == 0x17f

/-- `[^\s<>'"]`. -/
def isUrlLetter (code : Nat) : Bool :=
  !isSpace code && code ∉ codes "<>'\""

/-- `_URL_IN_TEXT`. -/
def urlInText : Pattern Nat where
  beginnings :=
    ["https://".toList.map ignoringCase, "http://".toList.map ignoringCase]
  more := some isUrlLetter
  nonempty := by decide

/-- `[A-Z0-9_]`. -/
def isEnvLetter (code : Nat) : Bool :=
  65 ≤ code && code ≤ 90 || 48 ≤ code && code ≤ 57 || code == 95

/-- `_RCLONE_ENV_NAME`. -/
def rcloneEnvName : Pattern Nat where
  beginnings := [(codes "RCLONE_CONFIG_").map fun expected code => code == expected]
  more := some isEnvLetter
  nonempty := by decide

/-! ## `mask_output_text` -/

/-- A sensitive value which is not empty. -/
abbrev Secret := {value : Text // value ≠ []}

/-- `value for value in sensitive_values if value`. -/
def secrets (sensitiveValues : List Text) : List Secret :=
  sensitiveValues.filterMap fun value =>
    if nonempty : value ≠ [] then some ⟨value, nonempty⟩ else none

/-- The order in which a set is iterated over. -/
structure SetOrder where
  list : List Secret → List Secret
  perm : ∀ values, (list values).Perm values.dedup

/-- `sorted(values, key=len, reverse=True)`. -/
def longestFirst (values : List Secret) : List Secret :=
  values.mergeSort fun left right => right.1.length ≤ left.1.length

/-- `masked.replace(value, "********")` for every value. -/
def maskValues (values : List Secret) (text : Text) : Text :=
  values.foldl (fun masked value =>
    (Pattern.literal value.1 value.2).substitute mask masked) text

/-- `mask_output_text`. -/
def maskOutputText (order : SetOrder) (text : Text)
    (sensitiveValues : List Text) (maskRcloneEnvNames maskAllUrls : Bool) :
    Text :=
  let masked :=
    maskValues (longestFirst (order.list (secrets sensitiveValues))) text
  let masked := if maskAllUrls then urlInText.substitute mask masked else masked
  if maskRcloneEnvNames then rcloneEnvName.substitute mask masked else masked

/-! ## No replacement makes a match -/

theorem eq_asterisk_of_mem_mask {code : Nat} (member : code ∈ mask) :
    code = 42 := by
  have asterisks : ∀ code ∈ mask, code = 42 := by decide
  exact asterisks code member

theorem separates_literal
    (pattern : Pattern Nat) {value : Text} (nonempty : value ≠ [])
    (noAsterisk : 42 ∉ value) :
    Pattern.Separates pattern (.literal value nonempty) mask where
  replaced := by decide
  apart := by
    intro beginning test letter member tests inMask
    rw [List.mem_singleton.mp member] at tests
    rcases List.mem_map.mp tests with ⟨expected, inValue, rfl⟩
    rw [eq_asterisk_of_mem_mask inMask, beq_eq_false_iff_ne]
    rintro rfl
    exact noAsterisk inValue
  more := by
    intro isMore put letter text asks
    cases asks

theorem separates_rcloneEnvName (pattern : Pattern Nat) :
    Pattern.Separates pattern rcloneEnvName mask where
  replaced := by decide
  apart := by
    intro beginning test letter member tests inMask
    rw [List.mem_singleton.mp member] at tests
    rcases List.mem_map.mp tests with ⟨expected, inName, rfl⟩
    rw [eq_asterisk_of_mem_mask inMask, beq_eq_false_iff_ne]
    rintro rfl
    exact absurd inName (by decide)
  more := by
    intro isMore put letter text asks first isPut
    cases asks
    cases first
    exact absurd isPut (by decide)

theorem separates_urlInText
    (pattern : Pattern Nat)
    (goesOn : ∀ letter text, pattern.isAt (letter :: text) = true →
      isUrlLetter letter = true) :
    Pattern.Separates pattern urlInText mask where
  replaced := by decide
  apart := by
    intro beginning test letter member tests inMask
    have fails : ∀ lower ∈ "https://".toList ++ "http://".toList,
        ignoringCase lower 42 = false := by simp [ignoringCase]
    rw [eq_asterisk_of_mem_mask inMask]
    rcases List.mem_cons.mp member with rfl | member
    · rcases List.mem_map.mp tests with ⟨lower, inScheme, rfl⟩
      exact fails lower (List.mem_append_left _ inScheme)
    · rw [List.mem_singleton.mp member] at tests
      rcases List.mem_map.mp tests with ⟨lower, inScheme, rfl⟩
      exact fails lower (List.mem_append_right _ inScheme)
  more := by
    intro isMore put letter text asks _ _ isAt
    cases asks
    exact goesOn letter text isAt

theorem separates_urlInText_self :
    Pattern.Separates urlInText urlInText mask := by
  apply separates_urlInText
  intro letter text isAt
  rcases Pattern.exists_test_of_isAt isAt with
    ⟨beginning, member, test, tests, rfl, passes⟩
  have isH : ignoringCase 'h' letter = true := by
    rcases List.mem_cons.mp member with same | member
    · cases same
      exact passes
    · cases List.mem_singleton.mp member
      exact passes
  simp only [ignoringCase, Bool.or_eq_true, beq_iff_eq] at isH
  rcases isH with (rfl | rfl) | notS
  · decide
  · decide
  · cases notS

theorem separates_rcloneEnvName_urlInText :
    Pattern.Separates rcloneEnvName urlInText mask := by
  apply separates_urlInText
  intro letter text isAt
  rcases Pattern.exists_test_of_isAt isAt with
    ⟨beginning, member, test, tests, rfl, passes⟩
  cases List.mem_singleton.mp member
  rw [beq_iff_eq] at passes
  rw [passes]
  decide

/-! ## Nothing is left -/

/-- What occurs nowhere occurs nowhere after the values are masked. -/
theorem not_occurs_maskValues_of_absent
    {pattern : Pattern Nat} (values : List Secret) {text : Text}
    (separates : ∀ value : Secret,
      Pattern.Separates (.literal value.1 value.2) pattern mask)
    (absent : ¬ pattern.Occurs text) :
    ¬ pattern.Occurs (maskValues values text) := by
  induction values generalizing text with
  | nil => exact absent
  | cons value values induction =>
      exact induction (Pattern.not_occurs_substitute (separates value) absent)

/-- A masked value occurs nowhere. -/
theorem not_occurs_maskValues
    {values : List Secret} {value : Secret} (member : value ∈ values)
    (noAsterisk : 42 ∉ value.1) (text : Text) :
    ¬ (Pattern.literal value.1 value.2).Occurs (maskValues values text) := by
  induction values generalizing text with
  | nil => cases member
  | cons first values induction =>
      rcases List.mem_cons.mp member with rfl | later
      · apply not_occurs_maskValues_of_absent values
        · exact fun other => separates_literal _ _ noAsterisk
        · exact Pattern.not_occurs_substitute_self
            (separates_literal _ _ noAsterisk) text
      · exact induction later _

/-- Where no value occurs, masking the values changes nothing. -/
theorem maskValues_eq_self
    {values : List Secret} {text : Text}
    (absent : ∀ value ∈ values,
      ¬ (Pattern.literal value.1 value.2).Occurs text) :
    maskValues values text = text := by
  induction values with
  | nil => rfl
  | cons value values induction =>
      rw [maskValues, List.foldl_cons,
        Pattern.substitute_eq_self _ _ (absent value List.mem_cons_self)]
      exact induction fun value member =>
        absent value (List.mem_cons_of_mem _ member)

theorem mem_longestFirst_iff
    (order : SetOrder) (sensitiveValues : List Text) (value : Secret) :
    value ∈ longestFirst (order.list (secrets sensitiveValues)) ↔
      value.1 ∈ sensitiveValues := by
  rw [longestFirst, List.mem_mergeSort, (order.perm _).mem_iff,
    List.mem_dedup, secrets, List.mem_filterMap]
  constructor
  · rintro ⟨text, member, isValue⟩
    split at isValue
    · cases isValue
      exact member
    · cases isValue
  · intro member
    exact ⟨value.1, member, dif_pos value.2⟩

section Masked

variable {order : SetOrder} {text : Text} {sensitiveValues : List Text}
  {maskRcloneEnvNames maskAllUrls : Bool}

/-- No sensitive value is left. -/
theorem not_occurs_value_maskOutputText
    {value : Secret} (member : value.1 ∈ sensitiveValues)
    (noAsterisk : 42 ∉ value.1) :
    ¬ (Pattern.literal value.1 value.2).Occurs
        (maskOutputText order text sensitiveValues maskRcloneEnvNames
          maskAllUrls) := by
  have inValues := not_occurs_maskValues
    ((mem_longestFirst_iff order sensitiveValues value).mpr member) noAsterisk
    text
  have separates := fun pattern => separates_literal pattern value.2 noAsterisk
  rw [maskOutputText]
  cases maskAllUrls with
  | false =>
      cases maskRcloneEnvNames with
      | false => exact inValues
      | true => exact Pattern.not_occurs_substitute (separates _) inValues
  | true =>
      have afterUrls := Pattern.not_occurs_substitute (separates urlInText)
        inValues
      cases maskRcloneEnvNames with
      | false => exact afterUrls
      | true => exact Pattern.not_occurs_substitute (separates _) afterUrls

/-- No URL is left, when they are masked. -/
theorem not_occurs_url_maskOutputText :
    ¬ urlInText.Occurs (maskOutputText order text sensitiveValues
        maskRcloneEnvNames true) := by
  have afterUrls := Pattern.not_occurs_substitute_self
    separates_urlInText_self
    (maskValues (longestFirst (order.list (secrets sensitiveValues))) text)
  cases maskRcloneEnvNames with
  | false => exact afterUrls
  | true =>
      exact Pattern.not_occurs_substitute separates_rcloneEnvName_urlInText
        afterUrls

/-- No name of the environment is left, when they are masked. -/
theorem not_occurs_envName_maskOutputText :
    ¬ rcloneEnvName.Occurs (maskOutputText order text sensitiveValues true
        maskAllUrls) :=
  Pattern.not_occurs_substitute_self (separates_rcloneEnvName _) _

/-- Masked texts have no secret, and masking them again changes nothing,
whatever the order of the values. -/
theorem mask_output_hides_values
    (order again : SetOrder) (text : Text) (sensitiveValues : List Text)
    (maskRcloneEnvNames maskAllUrls : Bool)
    (noAsterisk : ∀ value ∈ sensitiveValues, 42 ∉ value) :
    (∀ value ∈ sensitiveValues, value ≠ [] →
      ¬ value <:+: maskOutputText order text sensitiveValues
          maskRcloneEnvNames maskAllUrls) ∧
      maskOutputText again
          (maskOutputText order text sensitiveValues maskRcloneEnvNames
            maskAllUrls) sensitiveValues maskRcloneEnvNames maskAllUrls =
        maskOutputText order text sensitiveValues maskRcloneEnvNames
          maskAllUrls := by
  have hidden := fun (value : Secret) member =>
    @not_occurs_value_maskOutputText order text sensitiveValues
      maskRcloneEnvNames maskAllUrls value member (noAsterisk value.1 member)
  constructor
  · intro value member nonempty isPart
    exact hidden ⟨value, nonempty⟩ member
      ((Pattern.occurs_literal_iff nonempty _).mpr isPart)
  · have unchanged := maskValues_eq_self fun value member =>
      hidden value ((mem_longestFirst_iff again sensitiveValues value).mp member)
    rw [maskOutputText, unchanged]
    have urls : (if maskAllUrls then
          urlInText.substitute mask (maskOutputText order text sensitiveValues
            maskRcloneEnvNames maskAllUrls)
        else maskOutputText order text sensitiveValues maskRcloneEnvNames
          maskAllUrls) =
        maskOutputText order text sensitiveValues maskRcloneEnvNames
          maskAllUrls := by
      cases maskAllUrls with
      | false => exact if_neg Bool.false_ne_true
      | true =>
          rw [if_pos rfl]
          exact Pattern.substitute_eq_self _ _ not_occurs_url_maskOutputText
    rw [urls]
    cases maskRcloneEnvNames with
    | false => exact if_neg Bool.false_ne_true
    | true =>
        rw [if_pos rfl]
        exact Pattern.substitute_eq_self _ _ not_occurs_envName_maskOutputText

end Masked

/-- A set which is iterated over in the order its values came in. -/
def insertionOrder : SetOrder where
  list values := values.dedup
  perm _ := List.Perm.refl _

/-- One value is a part of another, and both overlap in the text. -/
theorem mask_output_hides_overlapping :
    (∀ value ∈ [codes "ab", codes "bab"], 42 ∉ value) ∧
      ((∀ value ∈ [codes "ab", codes "bab"], value ≠ [] →
        ¬ value <:+: maskOutputText insertionOrder
            (codes "babab https://host/bab") [codes "ab", codes "bab"] true
              true) ∧
        maskOutputText insertionOrder
            (maskOutputText insertionOrder (codes "babab https://host/bab")
              [codes "ab", codes "bab"] true true)
            [codes "ab", codes "bab"] true true =
          maskOutputText insertionOrder (codes "babab https://host/bab")
            [codes "ab", codes "bab"] true true) :=
  ⟨by decide, mask_output_hides_values insertionOrder insertionOrder _ _ _ _
    (by decide)⟩

end Sluicery.Runner.Masking
