import Sluicery.Library.Transition
import Sluicery.Storage.Capacity
import Sluicery.Tasks.WorkerConfig

/-!
# Changes of the settings

The settings page, `set_override`, `unset_override` and an import write the
rows of `setting`.  The worker and the capacity check read several rows at
once, and accept them only together.
-/

namespace Sluicery.Web.Settings

open Sluicery.Library Sluicery.Library.Transition
open Sluicery.Core Sluicery.Core.Settings Sluicery.Storage Sluicery.Tasks

/-! ## The settings page -/

/-- `spec.type_.__name__`. -/
def typeName : SettingType → String
  | .bool => "bool"
  | .int => "int"
  | .float => "float"
  | .str => "str"
  | .list => "list"

/-- A setting without a default. -/
def isOptional (spec : SettingSpec) : Bool :=
  spec.type == .str && spec.default == .null

/-- `number(value) < bound`; anything but a number is not compared. -/
def isBelow (bound : Rat) (value : Json) : Bool :=
  (number value).any fun value => value < bound

/-- The checks of `parse_setting_form_value` after the cast. -/
def checkFormValue (rules : Rules) (key : Key) (value : Json) :
    Except String Unit :=
  if isBelow 0 value then .error "数値は0以上にしてください"
  else if key ∈ [.downloadItemConcurrency, .logRetentionDays] ∧
      isBelow 1 value then
    .error "1以上にしてください"
  else if key ∈ [.stagingWarnPct, .stagingStopPct] ∧
      (number value).any fun value => 100 < value then
    .error "割合は0から100の範囲にしてください"
  else if key = .workerProgressWritePercentStep ∧
      (number value).any fun value => 100 < value then
    .error "進捗率の刻みは100以下にしてください"
  else if key ∈ [.scheduleDiscoverCron, .scheduleDownloadCron] then
    rules.validateCronExpression (toStr rules (.json value))
  else if key = .scheduleDownloadWindow then rules.parseDownloadWindow value
  else .ok ()

/-- `parse_setting_form_value` of a known key. -/
def parseSettingFormValue (rules : Rules) (key : Key) (raw : String) :
    Except String Json :=
  let spec := codeDefaults key
  if spec.type = .bool then
    if raw = "true" then .ok (.bool true)
    else if raw = "false" then .ok (.bool false)
    else .error "真偽値はtrueまたはfalseを選択してください"
  else if isOptional spec ∧ isBlank raw then .ok .null
  else
    match cast rules spec.type (.json (.str raw)) with
    | .error _ => .error (typeName spec.type ++ "として解釈できません")
    | .ok value => (checkFormValue rules key value).map fun _ => value

/-- The value of the form for one of the two keys, the stored one for the
other. -/
def valueOrStored (rules : Rules) (overrides : Overrides)
    (key : Key) (value : Json) (wanted : Key) : Except String Json :=
  if key = wanted then .ok value else get rules overrides wanted

/-- Both are numbers, which meet the relation. -/
def related (relation : Rat → Rat → Bool) (left right : Json) :
    Except String Bool :=
  match number left, number right with
  | some left, some right => .ok (relation left right)
  | _, _ => .error "TypeError"

/-- `validate_setting_relationships`. -/
def validateSettingRelationships (rules : Rules) (overrides : Overrides)
    (key : Key) (value : Json) : Except String Unit := do
  if key ∈ [.stagingWarnPct, .stagingStopPct] then
    let warn ← valueOrStored rules overrides key value .stagingWarnPct
    let stop ← valueOrStored rules overrides key value .stagingStopPct
    let ordered ← related
      (fun warn stop => 0 ≤ warn && warn < stop && stop ≤ 100) warn stop
    if ordered = false then
      throw "Staging閾値は0 <= warn < stop <= 100にしてください"
  if key ∈ [.storageFreeSpaceWarnBytes, .storageFreeSpaceStopBytes] then
    let warn ←
      valueOrStored rules overrides key value .storageFreeSpaceWarnBytes
    let stop ←
      valueOrStored rules overrides key value .storageFreeSpaceStopBytes
    let ordered ← related (fun warn stop => stop ≤ warn) warn stop
    if ordered = false then
      throw "Storage容量閾値はstop <= warnにしてください"

/-- A higher concurrency is saved only when it was confirmed. -/
def checkConfirmed (key : Key) (value : Json) (confirmed : Bool) :
    Except String Unit :=
  if key = .downloadItemConcurrency ∧
      ((number value).any fun value => 2 ≤ value) ∧ confirmed = false then
    .error "2以上は配信元へのアクセス集中を招きます。警告を確認して再保存してください"
  else .ok ()

/-- `settings_update`. -/
def settingsUpdate (rules : Rules) (overrides : Overrides)
    (name raw : String) (confirmed : Bool) : Except String Overrides :=
  match Key.ofName name with
  | none => .error name
  | some key => do
      let value ← parseSettingFormValue rules key raw
      checkConfirmed key value confirmed
      validateSettingRelationships rules overrides key value
      setOverride rules overrides key (.json value)

/-! ## Imports -/

/-- What an import does with what is there already. -/
inductive CollisionMode where
  | skip | overwrite | create
deriving DecidableEq, Repr

/-- `ConfigDocument.settings`: a document names a key once. -/
structure SettingsDocument where
  fields : List (Key × Value)
  distinct : (fields.map Prod.fst).Nodup

/-- An import leaves an existing row alone unless it overwrites. -/
def isSkipped (mode : CollisionMode) (existing : Option Json) : Bool :=
  existing.isSome && mode != .overwrite

/-- `validate_override` takes every setting of the document. -/
def loadSettings (rules : Rules) (document : SettingsDocument) :
    Except String Unit :=
  match document.fields.find? fun field =>
      !(validateOverride rules field.1 field.2).isOk with
  | none => .ok ()
  | some field => .error ("設定値が不正です: " ++ field.1.name)

/-- One setting of `apply_config_import`. -/
def importSetting (rules : Rules) (mode : CollisionMode) (before : Overrides)
    (overrides : Overrides) (field : Key × Value) :
    Except String Overrides :=
  if isSkipped mode (before field.1) then .ok overrides
  else (validateOverride rules field.1 field.2).map (write overrides field.1)

/-- `sorted(document.settings)`. -/
def sortedFields (document : SettingsDocument) : List (Key × Value) :=
  document.fields.mergeSort fun left right => left.1.name ≤ right.1.name

/-- The settings of `apply_config_import`. -/
def importSettings (rules : Rules) (overrides : Overrides)
    (mode : CollisionMode) (document : SettingsDocument) :
    Except String Overrides := do
  loadSettings rules document
  (sortedFields document).foldlM (importSetting rules mode overrides)
    overrides

/-! ## Steps -/

/-- What changes the settings. -/
inductive Change where
  | update (name raw : String) (confirmed : Bool)
  | reset (name : String)
  | setOverride (name : String) (value : Value)
  | unsetOverride (name : String)
  | importSettings (mode : CollisionMode) (document : SettingsDocument)

/-- The overrides after a change. -/
def change (rules : Rules) (overrides : Overrides) :
    Change → Except String Overrides
  | .update name raw confirmed =>
      settingsUpdate rules overrides name raw confirmed
  | .reset name | .unsetOverride name =>
      match Key.ofName name with
      | none => .error name
      | some key => .ok (unsetOverride overrides key)
  | .setOverride name value =>
      match Key.ofName name with
      | none => .error name
      | some key => Core.Settings.setOverride rules overrides key value
  | .importSettings mode document =>
      importSettings rules overrides mode document

/-- An accepted change. -/
def step (rules : Rules) (overrides : Overrides) (requested : Change) :
    Option Overrides :=
  (change rules overrides requested).toOption

/-- The capacity check of `publish` and of the download preflight. -/
def storedCapacity (rules : Rules) (overrides : Overrides)
    (freeBytes : Option Int) : Except String CapacityResult := do
  let warnBytes ← get rules overrides .storageFreeSpaceWarnBytes
  let stopBytes ← get rules overrides .storageFreeSpaceStopBytes
  evaluateCapacity freeBytes warnBytes stopBytes

/-! ## What a change asks for -/

/-- The row which a change asks for, where it asks for one. -/
def requestedRow (rules : Rules) (overrides : Overrides) :
    Change → Key → Option (Option Json)
  | .update name raw _, key =>
      if Key.ofName name = some key then
        (parseSettingFormValue rules key raw).toOption.map some
      else none
  | .reset name, key | .unsetOverride name, key =>
      if Key.ofName name = some key then some none else none
  | .setOverride name value, key =>
      if Key.ofName name = some key then
        (cast rules (codeDefaults key).type value).toOption.map some
      else none
  | .importSettings mode document, key =>
      if isSkipped mode (overrides key) then none
      else
        (document.fields.lookup key).bind fun value =>
          (cast rules (codeDefaults key).type value).toOption.map some

/-- The row as it is read. -/
def rowValue (key : Key) (row : Option Json) : Json :=
  row.getD (codeDefaults key).default

/-- The value which a change asks for, or the one which is stored. -/
def requestedValue (rules : Rules) (overrides : Overrides)
    (requested : Change) (key : Key) : Json :=
  match requestedRow rules overrides requested key with
  | none => readValue rules overrides key
  | some row => rowValue key row

/-- A change asks for the row of the key. -/
def touches (rules : Rules) (overrides : Overrides) (requested : Change)
    (key : Key) : Prop :=
  (requestedRow rules overrides requested key).isSome = true

/-- The settings page itself compares the storage thresholds. -/
def comparesThresholds : Change → Prop
  | .update _ _ _ => True
  | _ => False

/-- What the code does not check of a change. -/
structure Fits (rules : Rules) (overrides : Overrides)
    (requested : Change) : Prop where
  suits : ∀ key ∈ workerKeys, ∀ row,
    requestedRow rules overrides requested key = some row →
      suitsWorker key (rowValue key row) = true
  notStale :
    (touches rules overrides requested .workerStaleThresholdSec ∨
      touches rules overrides requested .workerHeartbeatIntervalSec) →
    staleBelow rules
      (requestedValue rules overrides requested .workerStaleThresholdSec)
      (requestedValue rules overrides requested .workerHeartbeatIntervalSec) =
        some false
  ordered : ¬ comparesThresholds requested →
    (touches rules overrides requested .storageFreeSpaceWarnBytes ∨
      touches rules overrides requested .storageFreeSpaceStopBytes) →
    inOrder
      (requestedValue rules overrides requested .storageFreeSpaceWarnBytes)
      (requestedValue rules overrides requested .storageFreeSpaceStopBytes) =
        true

/-! ## The rows after a change -/

theorem cast_of_validateOverride
    {rules : Rules} {key : Key} {value : Value} {casted : Json}
    (valid : validateOverride rules key value = .ok casted) :
    cast rules (codeDefaults key).type value = .ok casted := by
  unfold validateOverride at valid
  split at valid
  · cases valid
  · next casted' casts =>
      cases checked : checkOverride rules key casted' with
      | error message => simp [checked, Except.map] at valid
      | ok =>
          simp only [checked, Except.map, Except.ok.injEq] at valid
          rw [casts, valid]

/-- An override is stored as it was cast. -/
theorem eq_write_of_setOverride
    {rules : Rules} {overrides overrides' : Overrides} {key : Key}
    {value : Value}
    (set : Core.Settings.setOverride rules overrides key value =
      .ok overrides') :
    ∃ casted, validateOverride rules key value = .ok casted ∧
      overrides' = write overrides key casted := by
  unfold Core.Settings.setOverride at set
  cases valid : validateOverride rules key value with
  | error message => simp [valid, Except.map] at set
  | ok casted =>
      simp only [valid, Except.map, Except.ok.injEq] at set
      exact ⟨casted, rfl, set.symm⟩

/-- The value of the form is of the type of its setting. -/
theorem cast_of_parseSettingFormValue
    {rules : Rules} {key : Key} {raw : String} {value : Json}
    (parsed : parseSettingFormValue rules key raw = .ok value) :
    cast rules (codeDefaults key).type (.json value) = .ok value := by
  simp only [parseSettingFormValue] at parsed
  split at parsed
  · next isBool =>
      rw [isBool]
      split at parsed
      · obtain rfl := Except.ok.inj parsed
        rfl
      · split at parsed
        · obtain rfl := Except.ok.inj parsed
          rfl
        · cases parsed
  · split at parsed
    · obtain rfl := Except.ok.inj parsed
      rfl
    · split at parsed
      · cases parsed
      · next casted casts =>
          cases checked : checkFormValue rules key casted with
          | error message => simp [checked, Except.map] at parsed
          | ok =>
              simp only [checked, Except.map, Except.ok.injEq] at parsed
              rw [← parsed]
              exact cast_of_cast casts

/-- A field of an import writes its own row, unless it is skipped. -/
theorem importSetting_row
    {rules : Rules} {mode : CollisionMode}
    {before overrides overrides' : Overrides} {field : Key × Value}
    (written : importSetting rules mode before overrides field =
      .ok overrides') (key : Key) :
    overrides' key =
      (if key = field.1 ∧ isSkipped mode (before key) = false then
        (cast rules (codeDefaults key).type field.2).toOption.map some
      else none : Option (Option Json)).getD (overrides key) := by
  unfold importSetting at written
  cases skipped : isSkipped mode (before field.1) with
  | true =>
      simp only [skipped, if_true, Except.ok.injEq] at written
      subst written
      by_cases isKey : key = field.1
      · subst isKey
        simp [skipped]
      · simp [isKey]
  | false =>
      simp only [skipped, Bool.false_eq_true, if_false] at written
      have set : Core.Settings.setOverride rules overrides field.1 field.2 =
          .ok overrides' := written
      rcases eq_write_of_setOverride set with ⟨casted, valid, rfl⟩
      by_cases isKey : key = field.1
      · subst isKey
        simp [skipped, write, cast_of_validateOverride valid,
          Except.toOption]
      · simp [isKey, write]

/-- The settings of an import, row by row. -/
theorem foldlM_importSetting
    {rules : Rules} {mode : CollisionMode} {before : Overrides}
    {fields : List (Key × Value)}
    (distinct : (fields.map Prod.fst).Nodup) :
    ∀ {overrides overrides' : Overrides},
      fields.foldlM (importSetting rules mode before) overrides =
        .ok overrides' →
      ∀ key, overrides' key =
        ((if isSkipped mode (before key) then none
          else (fields.lookup key).bind fun value =>
            (cast rules (codeDefaults key).type value).toOption.map
              some) : Option (Option Json)).getD (overrides key) := by
  induction fields with
  | nil =>
      intro overrides overrides' folded key
      obtain rfl := Except.ok.inj folded
      simp
  | cons field fields induction =>
      rcases field with ⟨written, value⟩
      intro overrides overrides' folded key
      rw [List.foldlM_cons] at folded
      cases first : importSetting rules mode before overrides
          (written, value) with
      | error message => simp [first, bind, Except.bind] at folded
      | ok middle =>
          simp only [first, bind, Except.bind] at folded
          rw [List.map_cons, List.nodup_cons] at distinct
          rw [induction distinct.2 folded key, importSetting_row first key]
          by_cases isKey : key = written
          · subst isKey
            have absent : fields.lookup key = none :=
              List.lookup_eq_none_iff.mpr fun other member =>
                bne_iff_ne.mpr fun same => distinct.1
                  (List.mem_map.mpr ⟨other, member, same.symm⟩)
            cases skipped : isSkipped mode (before key) with
            | true => simp
            | false => simp [absent]
          · have notWritten : (key == written) = false := beq_false_of_ne isKey
            simp [isKey, List.lookup_cons, notWritten]

theorem lookup_of_perm
    {fields fields' : List (Key × Value)} (perm : fields.Perm fields')
    (distinct : (fields.map Prod.fst).Nodup) (key : Key) :
    fields.lookup key = fields'.lookup key := by
  induction perm with
  | nil => rfl
  | cons field _ induction =>
      rcases field with ⟨written, value⟩
      rw [List.map_cons, List.nodup_cons] at distinct
      simp only [List.lookup_cons, induction distinct.2]
  | swap first second rest =>
      rcases first with ⟨first, firstValue⟩
      rcases second with ⟨second, secondValue⟩
      have differs : second ≠ first := by
        rintro rfl
        simp at distinct
      simp only [List.lookup_cons]
      cases isFirst : key == first <;> cases isSecond : key == second
      case true.true =>
        exact absurd ((beq_iff_eq.mp isSecond).symm.trans
          (beq_iff_eq.mp isFirst)) differs
      all_goals rfl
  | trans first second firstSame secondSame =>
      rw [firstSame distinct,
        secondSame ((first.map Prod.fst).nodup_iff.mp distinct)]

theorem importSettings_row
    {rules : Rules} {mode : CollisionMode} {document : SettingsDocument}
    {overrides overrides' : Overrides}
    (imported : importSettings rules overrides mode document =
      .ok overrides') (key : Key) :
    overrides' key =
      (requestedRow rules overrides (.importSettings mode document)
        key).getD (overrides key) := by
  have perm : (sortedFields document).Perm document.fields :=
    List.mergeSort_perm _ _
  have distinct : ((sortedFields document).map Prod.fst).Nodup :=
    (perm.map Prod.fst).nodup_iff.mpr document.distinct
  cases loaded : loadSettings rules document with
  | error message =>
      simp [importSettings, loaded, bind, Except.bind] at imported
  | ok =>
      simp only [importSettings, loaded, bind, Except.bind] at imported
      rw [foldlM_importSetting distinct imported key,
        lookup_of_perm perm distinct]
      rfl

theorem setOverride_row
    {rules : Rules} {overrides overrides' : Overrides} {key : Key}
    {value : Value}
    (set : Core.Settings.setOverride rules overrides key value =
      .ok overrides') (other : Key) :
    overrides' other =
      (if some key = some other then
        (cast rules (codeDefaults other).type value).toOption.map some
      else none : Option (Option Json)).getD (overrides other) := by
  rcases eq_write_of_setOverride set with ⟨casted, valid, rfl⟩
  by_cases isKey : other = key
  · subst isKey
    simp [write, cast_of_validateOverride valid, Except.toOption]
  · have differs : key ≠ other := fun same => isKey same.symm
    simp [write, isKey, differs]

/-- What the settings page accepts. -/
structure UpdateAccepted (rules : Rules) (overrides : Overrides)
    (name raw : String) (overrides' : Overrides) (key : Key)
    (value : Json) : Prop where
  isKey : Key.ofName name = some key
  parsed : parseSettingFormValue rules key raw = .ok value
  related : validateSettingRelationships rules overrides key value = .ok ()
  set : Core.Settings.setOverride rules overrides key (.json value) =
    .ok overrides'

theorem updateAccepted_of_settingsUpdate
    {rules : Rules} {overrides overrides' : Overrides} {name raw : String}
    {confirmed : Bool}
    (updated : settingsUpdate rules overrides name raw confirmed =
      .ok overrides') :
    ∃ key value,
      UpdateAccepted rules overrides name raw overrides' key value := by
  unfold settingsUpdate at updated
  cases found : Key.ofName name with
  | none => simp [found] at updated
  | some key =>
      simp only [found] at updated
      cases parsed : parseSettingFormValue rules key raw with
      | error message => simp [parsed, bind, Except.bind] at updated
      | ok value =>
          cases asked : checkConfirmed key value confirmed with
          | error message => simp [parsed, asked, bind, Except.bind] at updated
          | ok =>
              cases checked : validateSettingRelationships rules overrides
                  key value with
              | error message =>
                  simp [parsed, asked, checked, bind, Except.bind] at updated
              | ok =>
                  simp only [parsed, asked, checked, bind, Except.bind]
                    at updated
                  exact ⟨key, value, found, parsed, checked, updated⟩

theorem settingsUpdate_row
    {rules : Rules} {overrides overrides' : Overrides} {name raw : String}
    {confirmed : Bool}
    (updated : settingsUpdate rules overrides name raw confirmed =
      .ok overrides') (key : Key) :
    overrides' key =
      (requestedRow rules overrides (.update name raw confirmed)
        key).getD (overrides key) := by
  rcases updateAccepted_of_settingsUpdate updated with
    ⟨written, value, isKey, parsed, -, set⟩
  rw [setOverride_row set key]
  simp only [requestedRow, isKey]
  by_cases same : written = key
  · subst same
    simp [parsed, cast_of_parseSettingFormValue parsed, Except.toOption]
  · simp [same]

/-- A change writes the rows which it asks for, and leaves the others. -/
theorem change_row
    {rules : Rules} {overrides overrides' : Overrides} {requested : Change}
    (changed : change rules overrides requested = .ok overrides')
    (key : Key) :
    overrides' key =
      (requestedRow rules overrides requested key).getD (overrides key) := by
  cases requested with
  | update name raw confirmed => exact settingsUpdate_row changed key
  | importSettings mode document => exact importSettings_row changed key
  | setOverride name value =>
      simp only [change] at changed
      cases found : Key.ofName name with
      | none => simp [found] at changed
      | some written =>
          simp only [found] at changed
          simp only [requestedRow, found]
          exact setOverride_row changed key
  | reset name | unsetOverride name =>
      simp only [change] at changed
      cases found : Key.ofName name with
      | none => simp [found] at changed
      | some written =>
          simp only [found, Except.ok.injEq] at changed
          subst changed
          by_cases isKey : key = written
          · subst isKey
            simp [requestedRow, found, Core.Settings.unsetOverride]
          · have differs : written ≠ key := fun same => isKey same.symm
            simp [requestedRow, found, Core.Settings.unsetOverride, isKey,
              differs]

/-- What a change writes is of the type of its setting. -/
theorem cast_requestedRow
    {rules : Rules} {overrides : Overrides} {requested : Change}
    {key : Key} {value : Json}
    (row : requestedRow rules overrides requested key = some (some value)) :
    cast rules (codeDefaults key).type (.json value) = .ok value := by
  have of_toOption : ∀ {raw : Value},
      (cast rules (codeDefaults key).type raw).toOption.map some =
          some (some value) →
        cast rules (codeDefaults key).type raw = .ok value := by
    intro raw found
    cases casts : cast rules (codeDefaults key).type raw with
    | error message => simp [casts, Except.toOption] at found
    | ok casted =>
        simp only [casts, Except.toOption, Option.map_some,
          Option.some.injEq] at found
        rw [found]
  cases requested with
  | update name raw confirmed =>
      simp only [requestedRow] at row
      split at row
      · cases parsed : parseSettingFormValue rules key raw with
        | error message => simp [parsed, Except.toOption] at row
        | ok parsedValue =>
            simp only [parsed, Except.toOption, Option.map_some,
              Option.some.injEq] at row
            rw [← row]
            exact cast_of_parseSettingFormValue parsed
      · cases row
  | importSettings mode document =>
      simp only [requestedRow] at row
      split at row
      · cases row
      · rcases Option.bind_eq_some_iff.mp row with ⟨raw, -, found⟩
        exact cast_of_cast (of_toOption found)
  | setOverride name raw =>
      simp only [requestedRow] at row
      split at row
      · exact cast_of_cast (of_toOption row)
      · cases row
  | reset name | unsetOverride name =>
      simp only [requestedRow] at row
      split at row
      · cases row
      · cases row

/-! ## The consumers after a change -/

/-- The settings which the worker and the capacity check read. -/
def consumedKeys : List Key :=
  workerKeys ++ [.storageFreeSpaceWarnBytes, .storageFreeSpaceStopBytes]

/-- Values which the worker and the capacity check take together. -/
structure Suits (rules : Rules) (value : Key → Json) : Prop where
  suits : ∀ key ∈ workerKeys, suitsWorker key (value key) = true
  notStale : staleBelow rules (value .workerStaleThresholdSec)
    (value .workerHeartbeatIntervalSec) = some false
  ordered : inOrder (value .storageFreeSpaceWarnBytes)
    (value .storageFreeSpaceStopBytes) = true

/-- The worker can start, and the capacity check can run. -/
structure Accepted (rules : Rules) (overrides : Overrides) : Prop where
  worker : (WorkerConfig.fromSession rules overrides).isOk = true
  capacity : ∀ freeBytes,
    (storedCapacity rules overrides freeBytes).isOk = true

theorem storedCapacity_isOk
    (rules : Rules) (overrides : Overrides) (freeBytes : Option Int) :
    (storedCapacity rules overrides freeBytes).isOk = true ↔
      (∃ warn, get rules overrides .storageFreeSpaceWarnBytes = .ok warn) ∧
      (∃ stop, get rules overrides .storageFreeSpaceStopBytes = .ok stop) ∧
      inOrder (readValue rules overrides .storageFreeSpaceWarnBytes)
        (readValue rules overrides .storageFreeSpaceStopBytes) = true := by
  simp only [storedCapacity, isOk_bind, evaluateCapacity_isOk]
  constructor
  · rintro ⟨warn, foundWarn, stop, foundStop, ordered⟩
    rw [readValue_of_get foundWarn, readValue_of_get foundStop]
    exact ⟨⟨warn, foundWarn⟩, ⟨stop, foundStop⟩, ordered⟩
  · rintro ⟨foundWarn, foundStop, ordered⟩
    exact ⟨_, get_readValue foundWarn, _, get_readValue foundStop, ordered⟩

theorem accepted_iff (rules : Rules) (overrides : Overrides) :
    Accepted rules overrides ↔
      (∀ key ∈ consumedKeys, ∃ value,
        get rules overrides key = .ok value) ∧
      Suits rules (readValue rules overrides) := by
  simp only [consumedKeys, List.forall_mem_append, List.forall_mem_cons]
  constructor
  · rintro ⟨worker, capacity⟩
    rw [fromSession_isOk_iff_check, configOf_check_isOk] at worker
    rcases worker with ⟨reads, suits, notStale⟩
    rcases (storedCapacity_isOk rules overrides none).mp (capacity none) with
      ⟨foundWarn, foundStop, ordered⟩
    exact ⟨⟨reads, foundWarn, foundStop, by simp⟩, suits, notStale, ordered⟩
  · rintro ⟨⟨reads, foundWarn, foundStop, -⟩, suits, notStale, ordered⟩
    constructor
    · rw [fromSession_isOk_iff_check, configOf_check_isOk]
      exact ⟨reads, suits, notStale⟩
    · intro freeBytes
      rw [storedCapacity_isOk]
      exact ⟨foundWarn, foundStop, ordered⟩

/-- A setting is read after a change as the change asks for it. -/
theorem get_of_change
    {rules : Rules} {overrides overrides' : Overrides} {requested : Change}
    (changed : change rules overrides requested = .ok overrides')
    {key : Key}
    (read : ∃ value, get rules overrides key = .ok value) :
    get rules overrides' key =
      .ok (requestedValue rules overrides requested key) := by
  have row := change_row changed key
  unfold requestedValue
  cases found : requestedRow rules overrides requested key with
  | none =>
      rw [found, Option.getD_none] at row
      have same : Core.Settings.get rules overrides' key =
          Core.Settings.get rules overrides key := by
        unfold Core.Settings.get
        rw [row]
      rw [same]
      exact get_readValue read
  | some row' =>
      rw [found, Option.getD_some] at row
      cases row' with
      | none => simp [Core.Settings.get, row, rowValue]
      | some value =>
          simp [Core.Settings.get, row, rowValue, cast_requestedRow found]

/-- A count of the settings page is a number from zero on. -/
theorem number_of_parsed
    {rules : Rules} {key : Key} {raw : String} {value : Json}
    (isInt : (codeDefaults key).type = .int)
    (parsed : parseSettingFormValue rules key raw = .ok value) :
    ∃ count, number value = some count ∧ 0 ≤ count := by
  have isRequired : isOptional (codeDefaults key) = false := by
    simp [isOptional, isInt]
  simp only [parseSettingFormValue, isInt, isRequired] at parsed
  rw [if_neg (by decide), if_neg (by simp)] at parsed
  split at parsed
  · cases parsed
  · next casted casts =>
      simp only [Core.Settings.cast] at casts
      split at casts
      · next count isCount =>
          obtain rfl := Except.ok.inj casts
          by_cases negative : isBelow 0 (.int count) = true
          · simp [checkFormValue, negative, Except.map] at parsed
          · cases checked : checkFormValue rules key (.int count) with
            | error message => simp [checked, Except.map] at parsed
            | ok =>
                simp only [checked, Except.map, Except.ok.injEq] at parsed
                subst parsed
                refine ⟨count, rfl, ?_⟩
                simpa [isBelow, number] using negative
      · cases casts

theorem ordered_of_related
    {warn stop : Json}
    (isOrdered : related (fun warn stop => stop ≤ warn) warn stop = .ok true)
    (notNegative : ∀ count, number stop = some count → 0 ≤ count) :
    inOrder warn stop = true := by
  unfold related at isOrdered
  split at isOrdered
  · next warnCount stopCount foundWarn foundStop =>
      have below : stopCount ≤ warnCount := by simpa using isOrdered
      simp [inOrder, foundWarn, foundStop, below,
        notNegative stopCount foundStop]
  · cases isOrdered

/-- The comparison of the storage thresholds. -/
theorem related_of_validated
    {rules : Rules} {overrides : Overrides} {key : Key} {value warn stop : Json}
    (isThreshold : key ∈
      [Key.storageFreeSpaceWarnBytes, .storageFreeSpaceStopBytes])
    (isWarn : valueOrStored rules overrides key value
      .storageFreeSpaceWarnBytes = .ok warn)
    (isStop : valueOrStored rules overrides key value
      .storageFreeSpaceStopBytes = .ok stop)
    (validated : validateSettingRelationships rules overrides key value =
      .ok ()) :
    related (fun warn stop => stop ≤ warn) warn stop = .ok true := by
  have notStaging : key ∉ [Key.stagingWarnPct, .stagingStopPct] := by
    simp only [List.mem_cons, List.not_mem_nil, or_false] at isThreshold
    rcases isThreshold with rfl | rfl <;> decide
  cases compared : related (fun warn stop => stop ≤ warn) warn stop with
  | error message =>
      simp [validateSettingRelationships, notStaging, isThreshold, isWarn,
        isStop, compared, bind, Except.bind] at validated
  | ok ordered =>
      cases ordered with
      | true => rfl
      | false =>
          simp [validateSettingRelationships, notStaging, isThreshold,
            isWarn, isStop, compared, bind, Except.bind, throw,
            throwThe, MonadExceptOf.throw] at validated

/-- The value which the settings page writes. -/
theorem requestedValue_update
    {rules : Rules} {overrides overrides' : Overrides} {name raw : String}
    {confirmed : Bool} {key : Key} {value : Json}
    (accepted : UpdateAccepted rules overrides name raw overrides' key value)
    (other : Key) :
    requestedValue rules overrides (.update name raw confirmed) other =
      if key = other then value else readValue rules overrides other := by
  simp only [requestedValue, requestedRow, accepted.isKey, Option.some.injEq]
  by_cases same : key = other
  · subst same
    simp [accepted.parsed, Except.toOption, rowValue]
  · simp [same]

theorem touches_update
    {rules : Rules} {overrides overrides' : Overrides} {name raw : String}
    {confirmed : Bool} {key : Key} {value : Json}
    (accepted : UpdateAccepted rules overrides name raw overrides' key value)
    {other : Key}
    (touched : touches rules overrides (.update name raw confirmed) other) :
    key = other := by
  by_contra differs
  simp [touches, requestedRow, accepted.isKey, differs] at touched

/-- The thresholds which the settings page takes are in order. -/
theorem ordered_of_update
    {rules : Rules} {overrides overrides' : Overrides} {name raw : String}
    {confirmed : Bool}
    (changed : change rules overrides (.update name raw confirmed) =
      .ok overrides')
    (accepted : Accepted rules overrides)
    (touched :
      touches rules overrides (.update name raw confirmed)
          .storageFreeSpaceWarnBytes ∨
        touches rules overrides (.update name raw confirmed)
          .storageFreeSpaceStopBytes) :
    inOrder
      (requestedValue rules overrides (.update name raw confirmed)
        .storageFreeSpaceWarnBytes)
      (requestedValue rules overrides (.update name raw confirmed)
        .storageFreeSpaceStopBytes) = true := by
  rcases (accepted_iff rules overrides).mp accepted with ⟨reads, before⟩
  rcases updateAccepted_of_settingsUpdate changed with
    ⟨key, value, updated⟩
  rw [requestedValue_update updated, requestedValue_update updated]
  have stored : ∀ wanted ∈ consumedKeys, wanted ≠ key →
      valueOrStored rules overrides key value wanted =
        .ok (readValue rules overrides wanted) := by
    intro wanted member differs
    rw [valueOrStored, if_neg fun same => differs same.symm]
    exact get_readValue (reads wanted member)
  have written : valueOrStored rules overrides key value key = .ok value :=
    if_pos rfl
  rcases touched.imp (touches_update updated) (touches_update updated) with
    rfl | rfl
  · rw [if_pos rfl, if_neg (by decide)]
    refine ordered_of_related (related_of_validated (by decide) written
      (stored _ (by decide) (by decide)) updated.related) ?_
    intro count isCount
    have ordered := before.ordered
    unfold inOrder at ordered
    split at ordered
    · next warn stop foundWarn foundStop =>
        rw [foundStop, Option.some.injEq] at isCount
        simp only [Bool.and_eq_true, decide_eq_true_eq] at ordered
        rw [← isCount]
        exact ordered.2
    · cases ordered
  · rw [if_neg (by decide), if_pos rfl]
    refine ordered_of_related (related_of_validated (by decide)
      (stored _ (by decide) (by decide)) written updated.related) ?_
    intro count isCount
    rcases number_of_parsed rfl updated.parsed with
      ⟨parsedCount, found, notNegative⟩
    rw [found, Option.some.injEq] at isCount
    rw [← isCount]
    exact notNegative

theorem requestedValue_of_not_touches
    {rules : Rules} {overrides : Overrides} {requested : Change} {key : Key}
    (untouched : ¬ touches rules overrides requested key) :
    requestedValue rules overrides requested key =
      readValue rules overrides key := by
  simp only [touches, Option.not_isSome_iff_eq_none] at untouched
  simp only [requestedValue, untouched]

theorem suits_of_fits
    {rules : Rules} {overrides overrides' : Overrides} {requested : Change}
    (accepted : Accepted rules overrides)
    (changed : change rules overrides requested = .ok overrides')
    (fits : Fits rules overrides requested) :
    Suits rules (requestedValue rules overrides requested) := by
  rcases (accepted_iff rules overrides).mp accepted with ⟨-, before⟩
  constructor
  · intro key member
    cases found : requestedRow rules overrides requested key with
    | none =>
        simp only [requestedValue, found]
        exact before.suits key member
    | some row =>
        simp only [requestedValue, found]
        exact fits.suits key member row found
  · by_cases touched :
        touches rules overrides requested .workerStaleThresholdSec ∨
          touches rules overrides requested .workerHeartbeatIntervalSec
    · exact fits.notStale touched
    · rw [not_or] at touched
      rw [requestedValue_of_not_touches touched.1,
        requestedValue_of_not_touches touched.2]
      exact before.notStale
  · by_cases touched :
        touches rules overrides requested .storageFreeSpaceWarnBytes ∨
          touches rules overrides requested .storageFreeSpaceStopBytes
    · by_cases compares : comparesThresholds requested
      · cases requested with
        | update name raw confirmed =>
            exact ordered_of_update changed accepted touched
        | _ => exact absurd compares id
      · exact fits.ordered compares touched
    · rw [not_or] at touched
      rw [requestedValue_of_not_touches touched.1,
        requestedValue_of_not_touches touched.2]
      exact before.ordered

theorem fits_of_suits
    {rules : Rules} {overrides : Overrides} {requested : Change}
    (suits : Suits rules (requestedValue rules overrides requested)) :
    Fits rules overrides requested := by
  constructor
  · intro key member row found
    have suitsKey := suits.suits key member
    simp only [requestedValue, found] at suitsKey
    exact suitsKey
  · intro _
    exact suits.notStale
  · intro _ _
    exact suits.ordered

/-- A change keeps the settings acceptable exactly when it fits. -/
theorem accepted_iff_fits
    {rules : Rules} {overrides overrides' : Overrides} {requested : Change}
    (accepted : Accepted rules overrides)
    (changed : change rules overrides requested = .ok overrides') :
    Accepted rules overrides' ↔ Fits rules overrides requested := by
  rcases (accepted_iff rules overrides).mp accepted with ⟨reads, -⟩
  have after : ∀ key ∈ consumedKeys,
      Core.Settings.get rules overrides' key =
        .ok (requestedValue rules overrides requested key) :=
    fun key member => get_of_change changed (reads key member)
  have same : ∀ key ∈ consumedKeys, readValue rules overrides' key =
      requestedValue rules overrides requested key :=
    fun key member => readValue_of_get (after key member)
  have transfer : Suits rules (readValue rules overrides') ↔
      Suits rules (requestedValue rules overrides requested) := by
    have worker : ∀ key ∈ workerKeys, readValue rules overrides' key =
        requestedValue rules overrides requested key :=
      fun key member => same key (List.mem_append_left _ member)
    constructor
    · rintro ⟨suits, notStale, ordered⟩
      rw [same _ (by decide), same _ (by decide)] at notStale ordered
      exact ⟨fun key member => worker key member ▸ suits key member,
        notStale, ordered⟩
    · rintro ⟨suits, notStale, ordered⟩
      rw [← same _ (by decide), ← same _ (by decide)] at notStale ordered
      exact ⟨fun key member => worker key member ▸ suits key member,
        notStale, ordered⟩
  rw [accepted_iff, transfer]
  constructor
  · rintro ⟨-, suits⟩
    exact fits_of_suits suits
  · intro fits
    exact ⟨fun key member => ⟨_, after key member⟩,
      suits_of_fits accepted changed fits⟩

/-- The code defaults are acceptable. -/
theorem accepted_codeDefaults (rules : Rules) :
    Accepted rules fun _ => none := by
  have defaults : ∀ key, readValue rules (fun _ => none) key =
      (codeDefaults key).default := fun key => readValue_of_get rfl
  rw [accepted_iff]
  refine ⟨fun key _ => ⟨_, rfl⟩, ?_, ?_, ?_⟩
  · have suits : ∀ key ∈ workerKeys,
        suitsWorker key (codeDefaults key).default = true := by decide
    intro key member
    rw [defaults]
    exact suits key member
  · rw [defaults, defaults]
    have threeHeartbeats : (3 * 30 : Rat) ≤ 180 := by decide +kernel
    simpa [staleBelow, triple, number, codeDefaults] using threeHeartbeats
  · rw [defaults, defaults]
    rfl

/-- After changes which all fit, the worker can start and the capacity check
can run. -/
theorem accepted_after_changes
    {rules : Rules} {overrides : Overrides}
    (changes : Steps (step rules) (Fits rules) (fun _ => none) overrides) :
    Accepted rules overrides := by
  refine changes.invariant (Accepted rules) (accepted_codeDefaults rules) ?_
  intro before requested after accepted fits taken
  have changed : change rules before requested = .ok after := by
    unfold step at taken
    cases result : change rules before requested with
    | error message => simp [result, Except.toOption] at taken
    | ok overrides =>
        simp only [result, Except.toOption, Option.some.injEq] at taken
        rw [taken]
  exact (accepted_iff_fits accepted changed).mpr fits

/-- Rules which read a few numbers. -/
def fewNumbers : Rules where
  parseInt text := if text = "0" then some 0 else none
  parseFloat text :=
    if text = "0" then some 0 else if text = "40" then some 40 else none
  floatOfInt value := some value
  strOf _ := ""
  jsonLoads _ := none
  triple value := some (3 * value)
  validateSourceUrl _ := .ok ()
  validCrontab _ := true
  validateCronExpression _ := .ok ()
  parseDownloadWindow _ := .ok ()

/-- A longer heartbeat interval is saved and taken back. -/
theorem accepted_after_longer_heartbeat :
    Accepted fewNumbers
      (unsetOverride
        (write (fun _ => none) .workerHeartbeatIntervalSec (.real 40))
        .workerHeartbeatIntervalSec) := by
  have saved : Fits fewNumbers (fun _ => none)
      (.update "worker.heartbeat_interval_sec" "40" false) :=
    fits_of_suits ⟨by decide, by decide +kernel, by decide⟩
  have takenBack : Fits fewNumbers
      (write (fun _ => none) .workerHeartbeatIntervalSec (.real 40))
      (.reset "worker.heartbeat_interval_sec") :=
    fits_of_suits ⟨by decide, by decide +kernel, by decide⟩
  exact accepted_after_changes
    (.tail (.single saved rfl) takenBack rfl)

/-- A heartbeat interval of zero is saved, and the worker does not start. -/
theorem zero_heartbeat_saved :
    ∃ overrides,
      step fewNumbers (fun _ => none)
        (.update "worker.heartbeat_interval_sec" "0" false) =
          some overrides ∧
      ¬ Accepted fewNumbers overrides := by
  refine ⟨write (fun _ => none) .workerHeartbeatIntervalSec (.real 0), rfl,
    ?_⟩
  intro accepted
  have started := accepted.worker
  revert started
  decide

end Sluicery.Web.Settings
