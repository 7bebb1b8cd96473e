import Sluicery.Core.ConfigDocument
import Sluicery.Library.Urls

/-!
# Source URLs in documents

A source URL is exported, and accepted by an import, as it is written, when
`_portable_source_url` finds nothing in it which may be a secret.  It looks at
the keys which `parse_qsl` reads from the query, and these are not the keys of
all its components: one without a value is not read at all.
-/

namespace Sluicery.Core.ConfigTransfer

open Sluicery.Library Sluicery.Library.Urls

/-- `urlsplit` with the keys of `parse_qsl`. -/
def splitUrl (raises : List Char → Bool) (value : String) : Option SplitUrl :=
  (urlsplit raises value.toList).map fun parsed =>
    { scheme := String.ofList parsed.scheme
      hostname := parsed.hostname.map String.ofList
      username := parsed.username.map String.ofList
      password := parsed.password.map String.ofList
      fragment := String.ofList parsed.fragment
      queryKeys := (parseQsl parsed.query).map fun field =>
        String.ofList field.1 }

/-- Everything of a URL but its query is portable. -/
structure PortableParts (parsed : SplitResult) : Prop where
  scheme : (String.ofList parsed.scheme).toLower ∈ ["http", "https"]
  host : parsed.host ≠ []
  username : parsed.username = none
  password : parsed.password = none
  fragment : parsed.fragment = []

/-- The key of the component is one which may be exported. -/
def HasAllowedKey (component : List Char) : Prop :=
  (String.ofList (key component)).toLower ∈ ["list", "v", "index"]

instance (component : List Char) : Decidable (HasAllowedKey component) :=
  inferInstanceAs (Decidable (_ ∈ _))

/-- The URL has nothing but portable parts, in the whole of its query, too. -/
def IsPortable (raises : List Char → Bool) (url : String) : Prop :=
  ∃ parsed, urlsplit raises url.toList = some parsed ∧ PortableParts parsed ∧
    ∀ component ∈ components parsed.query, HasAllowedKey component

/-- The check sees the keys of the components which have a value. -/
theorem isPortableUrl_iff (raises : List Char → Bool) (url : String) :
    isPortableUrl (splitUrl raises) url = true ↔
      ∃ parsed, urlsplit raises url.toList = some parsed ∧
        PortableParts parsed ∧
        ∀ component ∈ components parsed.query, (value? component).isSome →
          HasAllowedKey component := by
  rw [isPortableUrl, splitUrl, Option.any_eq_true]
  simp only [Option.map_eq_some_iff]
  constructor
  · rintro ⟨_, ⟨parsed, split, rfl⟩, passes⟩
    simp only [Bool.and_eq_true, Bool.or_eq_true, beq_iff_eq,
      Option.isNone_iff_eq_none, Option.map_eq_none_iff,
      List.all_eq_true, List.contains_iff_mem] at passes
    rcases passes with
      ⟨⟨⟨⟨⟨scheme, host⟩, username⟩, password⟩, fragment⟩, keys⟩
    refine ⟨parsed, split, ?_, ?_⟩
    · constructor
      · simpa using scheme
      · exact parsed.hostname_any_iff.mp host
      · exact username
      · exact password
      · simpa using fragment
    · intro component inQuery hasValue
      have inKeys := (mem_keys_parseQsl_iff parsed.query _).mpr
        ⟨component, inQuery, hasValue, rfl⟩
      rcases List.mem_map.mp inKeys with ⟨field, inFields, isKey⟩
      have allowed := keys _ (List.mem_map_of_mem inFields)
      rw [isKey] at allowed
      exact allowed
  · rintro ⟨parsed, split, parts, allowed⟩
    refine ⟨_, ⟨parsed, split, rfl⟩, ?_⟩
    simp only [Bool.and_eq_true, Bool.or_eq_true, beq_iff_eq,
      Option.isNone_iff_eq_none, Option.map_eq_none_iff,
      List.all_eq_true, List.contains_iff_mem]
    refine ⟨⟨⟨⟨⟨?_, ?_⟩, parts.username⟩, parts.password⟩, ?_⟩, ?_⟩
    · simpa using parts.scheme
    · exact parsed.hostname_any_iff.mpr parts.host
    · simp [parts.fragment]
    · intro name inKeys
      rcases List.mem_map.mp inKeys with ⟨field, inFields, rfl⟩
      rcases (mem_keys_parseQsl_iff parsed.query field.1).mp
        (List.mem_map_of_mem inFields) with
        ⟨component, inQuery, hasValue, isKey⟩
      rw [← isKey]
      exact allowed component inQuery hasValue

/-- A URL which is kept is portable in all its parts, unless a component of its
query has no value and a key of another kind. -/
theorem portable_of_kept_iff (raises : List Char → Bool) (url : String) :
    (portableSourceUrl (splitUrl raises) url = (url, false) →
      IsPortable raises url) ↔
      ∀ parsed, urlsplit raises url.toList = some parsed →
        PortableParts parsed →
        (∀ component ∈ components parsed.query, (value? component).isSome →
          HasAllowedKey component) →
        ∀ component ∈ components parsed.query, value? component = none →
          HasAllowedKey component := by
  have kept : portableSourceUrl (splitUrl raises) url = (url, false) ↔
      isPortableUrl (splitUrl raises) url = true := by
    rw [portableSourceUrl]
    split
    · next portable => simp [portable]
    · next refused => simp [refused]
  rw [kept, isPortableUrl_iff]
  constructor
  · intro portable parsed split parts allowed component inQuery _
    rcases portable ⟨parsed, split, parts, allowed⟩ with
      ⟨parsed', split', -, all⟩
    cases split.symm.trans split'
    exact all component inQuery
  · rintro noForeign ⟨parsed, split, parts, allowed⟩
    refine ⟨parsed, split, parts, ?_⟩
    intro component inQuery
    cases hasValue : value? component with
    | none => exact noForeign parsed split parts allowed component inQuery hasValue
    | some value =>
        exact allowed component inQuery (by rw [hasValue, Option.isSome_some])

/-- A token without a value is exported. -/
theorem kept_with_token :
    portableSourceUrl (splitUrl fun _ => false)
        "https://host/playlist?list=PL1&SECRET" =
      ("https://host/playlist?list=PL1&SECRET", false) ∧
    ¬ IsPortable (fun _ => false) "https://host/playlist?list=PL1&SECRET" := by
  constructor
  · decide +kernel
  · rintro ⟨parsed, split, -, allowed⟩
    have whole : urlsplit (fun _ => false)
        "https://host/playlist?list=PL1&SECRET".toList =
          some ⟨"https".toList, "host".toList, "/playlist".toList,
            "list=PL1&SECRET".toList, []⟩ := by decide +kernel
    rw [whole, Option.some.injEq] at split
    rw [← split] at allowed
    have inQuery : "SECRET".toList ∈ components "list=PL1&SECRET".toList := by
      decide +kernel
    exact absurd (allowed _ inQuery) (by decide +kernel)

end Sluicery.Core.ConfigTransfer
