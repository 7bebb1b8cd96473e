import Sluicery.Library.JsonLoads
import Sluicery.Library.Keyed

/-!
# The entries of a discovery

yt-dlp lists a playlist as JSON lines.  Every line which names an id and a URL
yields an entry, and of two entries with one id the later one remains.  The
numbers of an entry are rounded, which raises on a float that is not finite.
-/

namespace Sluicery.Core.DiscoverEntries

open Sluicery.Library Sluicery.Library.JsonLoads

/-! ## Fields -/

/-- What is read of the result of `urlsplit`. -/
structure SplitUrl where
  scheme : Text
  hostname : Option Text

/-- The interpreter: its limits and its `urlsplit`, which may raise. -/
structure Environment where
  limits : Limits
  urlsplit : Text → Option SplitUrl

structure Entry where
  sourceId : Text
  sourceUrl : Text
  title : Option Text
  uploader : Option Text
  duration : Option Int
  uploadDate : Option Text
  playlistIndex : Option Int
  metadataJson : Fields

/-- `_text`. -/
def textOf : Value → Option Text
  | .str value =>
      if value ≠ [] ∧ value ≠ codes "NA" then some value else none
  | _ => none

/-- `scheme.lower()`, of the letters of ASCII. -/
def lower (value : Text) : Text :=
  value.map fun code => if 65 ≤ code ∧ code ≤ 90 then code + 32 else code

/-- The URL has a host, and its scheme is `http` or `https`. -/
def isHttp (environment : Environment) (url : Text) : Bool :=
  (environment.urlsplit url).any fun parsed =>
    (lower parsed.scheme == codes "http" ||
      lower parsed.scheme == codes "https") &&
      parsed.hostname.any fun hostname => !hostname.isEmpty

/-- `_source_url`. -/
def sourceUrl (environment : Environment) (raw : Fields) : Option Text :=
  ["webpage_url", "original_url", "url"].findSome? fun key =>
    (textOf (get raw key)).filter (isHttp environment)

/-- `_integer`. -/
def integerOf : Value → Except PyError (Option Int)
  | .int value => .ok (some value)
  | .float value => value.toNearest.map some
  | _ => .ok none

/-! ## `parse_discover_entries` -/

/-- The entry with this id and URL. -/
def entryWith (raw : Fields) (sourceId sourceUrl : Text) :
    Except PyError Entry := do
  let duration ← integerOf (get raw "duration")
  let playlistIndex ← integerOf (get raw "playlist_index")
  return { sourceId, sourceUrl, title := textOf (get raw "title"),
           uploader := textOf (get raw "uploader"), duration,
           uploadDate := textOf (get raw "upload_date"), playlistIndex,
           metadataJson := raw }

/-- The entry of one object. -/
def entryOf (environment : Environment) (raw : Fields) :
    Except PyError (Option Entry) :=
  match textOf (get raw "id"), sourceUrl environment raw with
  | some sourceId, some sourceUrl =>
      (entryWith raw sourceId sourceUrl).map some
  | _, _ => .ok none

/-- The entry of one line; only a `JSONDecodeError` is caught. -/
def entryOfLine (environment : Environment) (line : Text) :
    Except PyError (Option Entry) :=
  match loads environment.limits line with
  | .error .decodeError => .ok none
  | .error .valueError => .error .valueError
  | .error .recursionError => .error .recursionError
  | .ok (.obj raw) => entryOf environment raw
  | .ok _ => .ok none

/-- One turn of the loop. -/
def readLine (environment : Environment) (entries : List Entry)
    (line : Text) : Except PyError (List Entry) :=
  (entryOfLine environment line).map fun entry =>
    entry.elim entries (Keyed.put Entry.sourceId entries)

/-- `parse_discover_entries`. -/
def parseDiscoverEntries (environment : Environment) (lines : List Text) :
    Except PyError (List Entry) :=
  lines.foldlM (readLine environment) []

/-! ## Lines which raise -/

/-- A float which `round` does not convert. -/
def IsSpecial : Value → Prop
  | .float value => value.IsSpecial
  | _ => False

/-- The line is read, and the numbers of its entry are finite. -/
structure Acceptable (environment : Environment) (line : Text) : Prop where
  digits : loads environment.limits line ≠ .error .valueError
  nesting : loads environment.limits line ≠ .error .recursionError
  numbers : ∀ raw, loads environment.limits line = .ok (.obj raw) →
    textOf (get raw "id") ≠ none → sourceUrl environment raw ≠ none →
      ¬ IsSpecial (get raw "duration") ∧
        ¬ IsSpecial (get raw "playlist_index")

theorem returns_integerOf (value : Value) :
    Returns (integerOf value) ↔ ¬ IsSpecial value := by
  cases value with
  | float value =>
      rw [integerOf, returns_map]
      exact Double.returns_convert
  | _ => simp [integerOf, IsSpecial]

theorem returns_entryWith (raw : Fields) (sourceId sourceUrl : Text) :
    Returns (entryWith raw sourceId sourceUrl) ↔
      ¬ IsSpecial (get raw "duration") ∧
        ¬ IsSpecial (get raw "playlist_index") := by
  have returned : ∀ entry : Entry,
      Returns (pure entry : Except PyError Entry) ↔ True :=
    fun entry => iff_true_intro ⟨entry, rfl⟩
  unfold entryWith
  rw [returns_bind fun _ => returns_bind fun _ => returned _,
    returns_integerOf, returns_integerOf, and_true]

theorem returns_entryOf (environment : Environment) (raw : Fields) :
    Returns (entryOf environment raw) ↔
      (textOf (get raw "id") ≠ none → sourceUrl environment raw ≠ none →
        ¬ IsSpecial (get raw "duration") ∧
          ¬ IsSpecial (get raw "playlist_index")) := by
  unfold entryOf
  split
  · next isId isUrl =>
      rw [returns_map, returns_entryWith, isId, isUrl]
      simp
  · next missing =>
      apply iff_of_true (returns_ok _)
      intro hasId hasUrl
      rcases Option.ne_none_iff_exists'.mp hasId with ⟨sourceId, isId⟩
      rcases Option.ne_none_iff_exists'.mp hasUrl with ⟨url, isUrl⟩
      exact absurd isUrl (missing sourceId url isId)

theorem returns_entryOfLine (environment : Environment) (line : Text) :
    Returns (entryOfLine environment line) ↔
      Acceptable environment line := by
  unfold entryOfLine
  cases loaded : loads environment.limits line with
  | error error =>
      cases error with
      | decodeError =>
          apply iff_of_true (returns_ok _)
          constructor <;> simp [loaded]
      | valueError =>
          apply iff_of_false (not_returns_error _)
          exact fun acceptable => acceptable.digits loaded
      | recursionError =>
          apply iff_of_false (not_returns_error _)
          exact fun acceptable => acceptable.nesting loaded
  | ok value =>
      cases value with
      | obj raw =>
          dsimp only
          rw [returns_entryOf]
          constructor
          · intro numbers
            constructor
            · simp [loaded]
            · simp [loaded]
            · intro other isOther
              rw [loaded] at isOther
              cases isOther
              exact numbers
          · exact fun acceptable => acceptable.numbers raw loaded
      | _ =>
          apply iff_of_true (returns_ok _)
          constructor <;> simp [loaded]

theorem returns_parseDiscoverEntries (environment : Environment)
    (lines : List Text) :
    Returns (parseDiscoverEntries environment lines) ↔
      ∀ line ∈ lines, Acceptable environment line := by
  apply returns_foldlM
  intro entries line
  rw [readLine, returns_map, returns_entryOfLine]

/-! ## What the lines yield -/

section Yields

variable {environment : Environment}

/-- The entry of a line which does not raise. -/
def entryFrom (environment : Environment) (line : Text) : Option Entry :=
  (entryOfLine environment line).toOption.join

theorem readLine_of_acceptable {line : Text}
    (acceptable : Acceptable environment line) (entries : List Entry) :
    readLine environment entries line =
      .ok ((entryFrom environment line).elim entries
        (Keyed.put Entry.sourceId entries)) := by
  rcases (returns_entryOfLine environment line).mpr acceptable with
    ⟨entry, isEntry⟩
  rw [readLine, entryFrom, isEntry]
  rfl

theorem foldlM_readLine {lines : List Text}
    (acceptable : ∀ line ∈ lines, Acceptable environment line)
    (entries : List Entry) :
    lines.foldlM (readLine environment) entries =
      .ok ((lines.filterMap (entryFrom environment)).foldl
        (Keyed.put Entry.sourceId) entries) := by
  induction lines generalizing entries with
  | nil => rfl
  | cons line rest induction =>
      rw [List.forall_mem_cons] at acceptable
      rw [List.foldlM_cons, readLine_of_acceptable acceptable.1]
      change List.foldlM (readLine environment) _ rest = _
      rw [induction acceptable.2, List.filterMap_cons]
      cases entryFrom environment line with
      | none => rfl
      | some entry => rfl

/-- The entries of the lines, of which the last ones remain. -/
theorem parseDiscoverEntries_eq {lines : List Text}
    (acceptable : ∀ line ∈ lines, Acceptable environment line) :
    parseDiscoverEntries environment lines =
      .ok (Keyed.collect Entry.sourceId
        (lines.filterMap (entryFrom environment))) :=
  foldlM_readLine acceptable []

/-- A line yields the entry when it is read by itself. -/
def YieldsAlone (environment : Environment) (line : Text) (entry : Entry) :
    Prop :=
  parseDiscoverEntries environment [line] = .ok [entry]

theorem yieldsAlone_iff {line : Text} {entry : Entry}
    (acceptable : Acceptable environment line) :
    YieldsAlone environment line entry ↔
      entryFrom environment line = some entry := by
  have alone : ∀ other ∈ [line], Acceptable environment other := by
    intro other isLine
    rw [List.mem_singleton.mp isLine]
    exact acceptable
  rw [YieldsAlone, parseDiscoverEntries_eq alone, List.filterMap_cons]
  cases entryFrom environment line with
  | none => simp [Keyed.collect]
  | some other => simp [Keyed.collect, Keyed.put]

/-- An accepted entry names an id and a URL. -/
theorem identified_of_entryFrom {line : Text} {entry : Entry}
    (isEntry : entryFrom environment line = some entry) :
    entry.sourceId ≠ [] ∧ isHttp environment entry.sourceUrl = true := by
  have ofObject : ∀ raw, entryOf environment raw = .ok (some entry) →
      entry.sourceId ≠ [] ∧ isHttp environment entry.sourceUrl = true := by
    intro raw isEntry
    unfold entryOf at isEntry
    split at isEntry
    · next sourceId url isId isUrl =>
        have named : entry.sourceId = sourceId ∧ entry.sourceUrl = url := by
          unfold entryWith at isEntry
          cases duration : integerOf (get raw "duration") with
          | error =>
              rw [duration] at isEntry
              cases isEntry
          | ok =>
              cases index : integerOf (get raw "playlist_index") with
              | error =>
                  rw [duration, index] at isEntry
                  cases isEntry
              | ok =>
                  rw [duration, index] at isEntry
                  cases isEntry
                  exact ⟨rfl, rfl⟩
        rw [named.1, named.2]
        constructor
        · revert isId
          unfold textOf
          split
          · split
            · next notMissing =>
                intro isId
                cases isId
                exact notMissing.1
            · exact fun impossible => nomatch impossible
          · exact fun impossible => nomatch impossible
        · rcases List.exists_of_findSome?_eq_some isUrl with ⟨_, _, isKept⟩
          exact (Option.filter_eq_some_iff.mp isKept).2
    · cases isEntry
  revert isEntry
  unfold entryFrom entryOfLine
  split
  · exact fun impossible => nomatch impossible
  · exact fun impossible => nomatch impossible
  · exact fun impossible => nomatch impossible
  · next raw _ =>
      intro isEntry
      apply ofObject raw
      cases result : entryOf environment raw with
      | error =>
          rw [result] at isEntry
          cases isEntry
      | ok found =>
          rw [result] at isEntry
          exact congrArg _ isEntry
  · exact fun impossible => nomatch impossible

/-- The last line which yields an entry with its id. -/
def IsLastEntry (environment : Environment) (lines : List Text)
    (entry : Entry) : Prop :=
  ∃ before line after, lines = before ++ line :: after ∧
    YieldsAlone environment line entry ∧
    ∀ later ∈ after, ∀ other, YieldsAlone environment later other →
      other.sourceId ≠ entry.sourceId

theorem isLastEntry_iff {lines : List Text} {entry : Entry}
    (acceptable : ∀ line ∈ lines, Acceptable environment line) :
    IsLastEntry environment lines entry ↔
      Keyed.IsLast Entry.sourceId
        (lines.filterMap (entryFrom environment)) entry := by
  constructor
  · rintro ⟨before, line, after, rfl, alone, isLast⟩
    rw [yieldsAlone_iff (acceptable line (by simp))] at alone
    refine ⟨before.filterMap (entryFrom environment),
      after.filterMap (entryFrom environment), ?_, ?_⟩
    · rw [List.filterMap_append, List.filterMap_cons_some alone]
    · intro other member
      rcases List.mem_filterMap.mp member with ⟨later, inAfter, isOther⟩
      exact isLast later inAfter other
        ((yieldsAlone_iff (acceptable later (by simp [inAfter]))).mpr
          isOther)
  · rintro ⟨before, after, isEntries, isLast⟩
    rcases List.filterMap_eq_append_iff.mp isEntries with
      ⟨first, second, rfl, -, isSecond⟩
    rcases List.filterMap_eq_cons_iff.mp isSecond with
      ⟨middle, line, rest, rfl, -, isEntry, rfl⟩
    refine ⟨first ++ middle, line, rest, by simp, ?_, ?_⟩
    · exact (yieldsAlone_iff (acceptable line (by simp))).mpr isEntry
    · intro later inRest other alone
      rw [yieldsAlone_iff (acceptable later (by simp [inRest]))] at alone
      exact isLast other (List.mem_filterMap.mpr ⟨later, inRest, alone⟩)

/-- What a list of entries has to do with the lines. -/
structure Yields (environment : Environment) (lines : List Text)
    (entries : List Entry) : Prop where
  identified : ∀ entry ∈ entries,
    entry.sourceId ≠ [] ∧ isHttp environment entry.sourceUrl = true
  distinct : (entries.map Entry.sourceId).Nodup
  last : ∀ entry, entry ∈ entries ↔ IsLastEntry environment lines entry
  /-- A line which yields nothing does not change what the others yield. -/
  malformed : ∀ before line after, lines = before ++ line :: after →
    (∀ entry, ¬ YieldsAlone environment line entry) →
      parseDiscoverEntries environment (before ++ after) = .ok entries

end Yields

/-- A discovery is read if and only if none of its lines raises. -/
theorem parse_discover_entries_total_iff (environment : Environment)
    (lines : List Text) :
    (∃ entries, parseDiscoverEntries environment lines = .ok entries ∧
      Yields environment lines entries) ↔
      ∀ line ∈ lines, Acceptable environment line := by
  constructor
  · rintro ⟨entries, isEntries, _⟩
    exact (returns_parseDiscoverEntries environment lines).mp
      ⟨entries, isEntries⟩
  · intro acceptable
    refine ⟨_, parseDiscoverEntries_eq acceptable, ?_⟩
    constructor
    · intro entry member
      rcases (Keyed.mem_collect_iff _ _ _).mp member with
        ⟨before, after, isLines, _⟩
      have inLines : entry ∈ lines.filterMap (entryFrom environment) := by
        rw [isLines]
        exact List.mem_append_right _ List.mem_cons_self
      rcases List.mem_filterMap.mp inLines with ⟨line, _, isEntry⟩
      exact identified_of_entryFrom isEntry
    · exact Keyed.nodup_collect _ _
    · intro entry
      rw [Keyed.mem_collect_iff, isLastEntry_iff acceptable]
    · rintro before line after rfl yieldsNothing
      have others : ∀ other ∈ before ++ after,
          Acceptable environment other := by
        intro other member
        apply acceptable
        simp only [List.mem_append, List.mem_cons] at member ⊢
        tauto
      have none : entryFrom environment line = none := by
        rw [Option.eq_none_iff_forall_ne_some]
        intro entry isEntry
        exact yieldsNothing entry
          ((yieldsAlone_iff (acceptable line (by simp))).mpr isEntry)
      rw [parseDiscoverEntries_eq others, List.filterMap_append,
        List.filterMap_append, List.filterMap_cons_none none]

/-- An interpreter which knows one URL. -/
def oneUrl : Environment where
  limits := ⟨4300, 1000⟩
  urlsplit url :=
    if url = codes "https://example.com/a" then
      some ⟨codes "https", some (codes "example.com")⟩
    else none

/-- One duration is `NaN`, and the other line is lost, too. -/
def nanDuration : List Text :=
  [codes "\x7b\"id\": \"a\", \"url\": \"https://example.com/a\"\x7d",
    codes ("\x7b\"id\": \"b\", \"url\": \"https://example.com/a\", " ++
      "\"duration\": NaN\x7d")]

theorem not_total_nanDuration :
    ¬ ∃ entries, parseDiscoverEntries oneUrl nanDuration = .ok entries ∧
      Yields oneUrl nanDuration entries := by
  rintro ⟨entries, isEntries, _⟩
  cases isEntries

end Sluicery.Core.DiscoverEntries
