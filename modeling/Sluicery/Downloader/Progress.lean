import Sluicery.Library.JsonLoads

/-!
# Progress lines

yt-dlp prints its progress as JSON lines, which `parse_progress_line` turns
into events.  It drops what is no JSON, but its numbers go through `int` and
`float`, which do not convert every number that JSON can spell.
-/

namespace Sluicery.Downloader

open Sluicery.Library Sluicery.Library.JsonLoads

/-! ## `parse_progress_line` -/

def maxLineLen : Nat := 1000000

structure ProgressEvent where
  status : Text
  downloadedBytes : Option Int
  totalBytes : Option Int
  speed : Option Double
  eta : Option Int
  fragmentIndex : Option Int
  fragmentCount : Option Int
  filename : Option Text
  raw : Fields

/-- `not stripped or stripped.upper() == "NA"`. -/
def isMissing (stripped : Text) : Bool :=
  stripped.isEmpty || upper stripped == codes "NA"

/-- `_as_int`: only a string is converted within the `try`. -/
def asInt : Value → Except PyError (Option Int)
  | .int value => .ok (some value)
  | .float value => value.toInt.map some
  | .str value =>
      if isMissing (strip value) then .ok none
      else
        match (floatOf (strip value)).map Double.toInt with
        | none | some (.error .valueError) => .ok none
        | some converted => converted.map some
  | _ => .ok none

/-- `_as_float`. -/
def asFloat : Value → Except PyError (Option Double)
  | .int value => (Double.ofInt value).map some
  | .float value => .ok (some value)
  | .str value =>
      .ok (if isMissing (strip value) then none else floatOf (strip value))
  | _ => .ok none

/-- `_as_str`. -/
def asStr : Value → Option Text
  | .str value => some value
  | _ => none

/-- `payload.get("total_bytes") or payload.get("total_bytes_estimate")`. -/
def totalBytes (payload : Fields) : Value :=
  if (get payload "total_bytes").truthy then get payload "total_bytes"
  else get payload "total_bytes_estimate"

/-- The event of an object with a status. -/
def progressEvent (status : Text) (payload : Fields) :
    Except PyError ProgressEvent := do
  let downloadedBytes ← asInt (get payload "downloaded_bytes")
  let totalBytes ← asInt (totalBytes payload)
  let speed ← asFloat (get payload "speed")
  let eta ← asInt (get payload "eta")
  let fragmentIndex ← asInt (get payload "fragment_index")
  let fragmentCount ← asInt (get payload "fragment_count")
  return { status, downloadedBytes, totalBytes, speed, eta, fragmentIndex,
           fragmentCount, filename := asStr (get payload "filename"),
           raw := payload }

/-- The non-empty `status` of an object. -/
def statusOf : Value → Option (Text × Fields)
  | .obj payload =>
      match get payload "status" with
      | .str status => if status.isEmpty then none else some (status, payload)
      | _ => none
  | _ => none

/-- `parse_progress_line`; a `ValueError` of `json.loads` is caught. -/
def parseProgressLine (limits : Limits) (line : Text) :
    Except PyError (Option ProgressEvent) :=
  if maxLineLen < line.length then .ok none
  else
    match loads limits line with
    | .error .recursionError => .error .recursionError
    | .error _ => .ok none
    | .ok value =>
        match statusOf value with
        | none => .ok none
        | some (status, payload) => (progressEvent status payload).map some

/-! ## Numbers which are not converted -/

/-- No number which `int` converts. -/
def IsUnlimited : Value → Prop
  | .float value => value.IsSpecial
  | .str value => isMissing (strip value) = false ∧
      ∃ negative, floatOf (strip value) = some (.infinity negative)
  | _ => False

/-- An integer which no float is near to. -/
def IsTooLarge : Value → Prop
  | .int value => ¬ (-Double.bound < value ∧ (value : Rat) < Double.bound)
  | _ => False

theorem returns_asInt {value : Value} :
    Returns (asInt value) ↔ ¬ IsUnlimited value := by
  cases value with
  | float value =>
      rw [asInt, returns_map]
      exact Double.returns_convert
  | str value =>
      simp only [asInt, IsUnlimited]
      cases missing : isMissing (strip value) with
      | true => simp
      | false =>
          cases number : floatOf (strip value) with
          | none => simp
          | some double =>
              cases double with
              | finite | infinity | nan =>
                  simp [Double.toInt, Double.convert, Except.map]
  | _ => simp [asInt, IsUnlimited]

theorem returns_asFloat {value : Value} :
    Returns (asFloat value) ↔ ¬ IsTooLarge value := by
  cases value with
  | int value =>
      rw [asFloat, returns_map, Double.returns_ofInt]
      exact not_not.symm
  | _ => simp [asFloat, IsTooLarge]

/-- The fields which `int` converts. -/
def integerValues (payload : Fields) : List Value :=
  [get payload "downloaded_bytes", totalBytes payload, get payload "eta",
    get payload "fragment_index", get payload "fragment_count"]

/-- Every number of an event is converted. -/
structure Convertible (payload : Fields) : Prop where
  integers : ∀ value ∈ integerValues payload, ¬ IsUnlimited value
  speed : ¬ IsTooLarge (get payload "speed")

theorem returns_progressEvent {status : Text} {payload : Fields} :
    Returns (progressEvent status payload) ↔ Convertible payload := by
  have returned : ∀ event : ProgressEvent,
      Returns (pure event : Except PyError ProgressEvent) ↔ True :=
    fun event => iff_true_intro ⟨event, rfl⟩
  unfold progressEvent
  rw [returns_bind fun _ => returns_bind fun _ => returns_bind fun _ =>
    returns_bind fun _ => returns_bind fun _ => returns_bind fun _ =>
      returned _]
  simp only [returns_asInt, returns_asFloat]
  constructor
  · rintro ⟨downloaded, total, speed, eta, fragmentIndex, fragmentCount, -⟩
    constructor
    · simp only [integerValues, List.forall_mem_cons, List.not_mem_nil,
        false_implies, implies_true, and_true]
      exact ⟨downloaded, total, eta, fragmentIndex, fragmentCount⟩
    · exact speed
  · rintro ⟨integers, speed⟩
    simp only [integerValues, List.forall_mem_cons, List.not_mem_nil,
      false_implies, implies_true, and_true] at integers
    rcases integers with
      ⟨downloaded, total, eta, fragmentIndex, fragmentCount⟩
    exact ⟨downloaded, total, speed, eta, fragmentIndex, fragmentCount,
      trivial⟩

/-- No exception escapes on this line. -/
structure Harmless (limits : Limits) (line : Text) : Prop where
  nesting : line.length ≤ maxLineLen →
    loads limits line ≠ .error .recursionError
  numbers : ∀ value status payload, line.length ≤ maxLineLen →
    loads limits line = .ok value → statusOf value = some (status, payload) →
      Convertible payload

/-- A line is parsed if and only if its numbers can be converted. -/
theorem returns_parseProgressLine (limits : Limits) (line : Text) :
    Returns (parseProgressLine limits line) ↔ Harmless limits line := by
  unfold parseProgressLine
  split
  · next tooLong =>
      apply iff_of_true (returns_ok _)
      constructor
      · intro short
        exact absurd short (Nat.not_le_of_lt tooLong)
      · intro _ _ _ short
        exact absurd short (Nat.not_le_of_lt tooLong)
  · next short =>
      have fits := Nat.le_of_not_lt short
      split
      · next isRecursion =>
          apply iff_of_false (not_returns_error _)
          intro harmless
          exact harmless.nesting fits isRecursion
      · next error notRecursion isError =>
          apply iff_of_true (returns_ok _)
          constructor
          · rw [isError]
            intro _ same
            cases same
            exact notRecursion rfl
          · intro value _ _ _ isValue
            rw [isError] at isValue
            cases isValue
      · next value isValue =>
          have nesting : line.length ≤ maxLineLen →
              loads limits line ≠ .error .recursionError := by
            rw [isValue]
            intro _ impossible
            cases impossible
          split
          · next noStatus =>
              apply iff_of_true (returns_ok _)
              apply Harmless.mk nesting
              intro other _ _ _ isOther hasStatus
              rw [isValue] at isOther
              cases isOther
              rw [noStatus] at hasStatus
              cases hasStatus
          · next status payload hasStatus =>
              rw [returns_map, returns_progressEvent]
              constructor
              · intro convertible
                apply Harmless.mk nesting
                intro other _ _ _ isOther hasStatus'
                rw [isValue] at isOther
                cases isOther
                rw [hasStatus] at hasStatus'
                cases hasStatus'
                exact convertible
              · intro harmless
                exact harmless.numbers value status payload fits isValue
                  hasStatus

/-! ## The reader of the output -/

/-- What `YtdlpRunner.run` collects. -/
structure Output where
  stdoutLines : List Text := []
  progressEvents : List ProgressEvent := []
  resultMetadata : List Fields := []

def progressPrefix : String := "SLUICERY_PROGRESS "
def printPrefix : String := "SLUICERY_PRINT "
def resultPrefix : String := "SLUICERY_RESULT "

/-- `line[len(prefix):]`, if the line starts with the prefix. -/
def afterPrefix (start : String) (line : Text) : Option Text :=
  if (codes start).isPrefixOf line then some (line.drop start.length)
  else none

/-- `read_stdout`. -/
def readStdout (limits : Limits) (output : Output) (line : Text) :
    Except PyError Output :=
  match afterPrefix progressPrefix line with
  | some progress =>
      (parseProgressLine limits progress).map fun event =>
        { output with
          progressEvents := output.progressEvents ++ event.toList }
  | none =>
      match afterPrefix printPrefix line with
      | some printed =>
          .ok { output with stdoutLines := output.stdoutLines ++ [printed] }
      | none =>
          match afterPrefix resultPrefix line with
          | some result =>
              match loads limits result with
              | .error .recursionError => .error .recursionError
              | .ok (.obj fields) =>
                  .ok { output with
                    resultMetadata := output.resultMetadata ++ [fields] }
              | _ => .ok output
          | none => .ok output

/-- The reader goes on after this line. -/
structure Readable (limits : Limits) (line : Text) : Prop where
  progress : ∀ progress, afterPrefix progressPrefix line = some progress →
    Harmless limits progress
  result : afterPrefix progressPrefix line = none →
    afterPrefix printPrefix line = none →
      ∀ result, afterPrefix resultPrefix line = some result →
        loads limits result ≠ .error .recursionError

theorem returns_readStdout (limits : Limits) (output : Output)
    (line : Text) :
    Returns (readStdout limits output line) ↔ Readable limits line := by
  unfold readStdout
  split
  · next progress isProgress =>
      rw [returns_map, returns_parseProgressLine]
      constructor
      · intro harmless
        constructor
        · intro other isOther
          rw [isProgress] at isOther
          cases isOther
          exact harmless
        · intro notProgress
          rw [isProgress] at notProgress
          cases notProgress
      · intro readable
        exact readable.progress progress isProgress
  · next notProgress =>
      split
      · next printed isPrinted =>
          apply iff_of_true (returns_ok _)
          constructor
          · simp [notProgress]
          · simp [isPrinted]
      · next notPrinted =>
          split
          · next result isResult =>
              have readable : loads limits result ≠ .error .recursionError →
                  Readable limits line := by
                intro nesting
                constructor
                · simp [notProgress]
                · intro _ _ other isOther
                  rw [isResult] at isOther
                  cases isOther
                  exact nesting
              split
              · next isRecursion =>
                  apply iff_of_false (not_returns_error _)
                  intro readable
                  exact readable.result notProgress notPrinted result
                    isResult isRecursion
              · next fields isObject =>
                  apply iff_of_true (returns_ok _)
                  apply readable
                  simp [isObject]
              · next notRecursion _ =>
                  exact iff_of_true (returns_ok _) (readable notRecursion)
          · next notResult =>
              apply iff_of_true (returns_ok _)
              constructor
              · simp [notProgress]
              · simp [notResult]

/-- Lines are parsed and read if and only if their numbers are converted. -/
theorem parse_progress_line_returns_iff (limits : Limits) :
    (∀ line, Returns (parseProgressLine limits line) ↔
      Harmless limits line) ∧
    ∀ (lines : List Text) (output : Output),
      Returns (lines.foldlM (readStdout limits) output) ↔
        ∀ line ∈ lines, Readable limits line := by
  constructor
  · exact returns_parseProgressLine limits
  · exact returns_foldlM (returns_readStdout limits)

/-- The limits of an interpreter which nobody has changed. -/
def defaultLimits : Limits := ⟨4300, 1000⟩

theorem not_returns_nanEta :
    ¬ Returns (parseProgressLine defaultLimits
      (codes "\x7b\"status\": \"downloading\", \"eta\": NaN\x7d")) := by
  rintro ⟨event, impossible⟩
  cases impossible

end Sluicery.Downloader
