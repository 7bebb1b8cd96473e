import Mathlib
import Sluicery.Core.ConfigDocument
import Sluicery.Library.Keyed
import Sluicery.Library.UniqueColumn

/-!
# Exporting the configuration

`export_config` makes a document of the Storages, Profiles, Playlists, their
assignments and the overridden settings; `load_config_yaml` reads a dumped
document.  The dump of a document, and what YAML makes of a file, are
parameters.
-/

namespace Sluicery.Core.ConfigTransfer

open Sluicery.Library Sluicery.Db Sluicery.Core.Settings

/-! ## Rows -/

/-- `Storage`. -/
structure Storage extends StorageRow where
  credentialsEncrypted : Option Json := none
deriving DecidableEq

/-- `Profile`. -/
structure Profile extends ProfileRow, ProfileColumns where
  ytdlpArgs : Option String := none
deriving DecidableEq

/-- `Playlist`. -/
structure Playlist extends PlaylistRow, PlaylistColumns where
  url : String
  retentionPolicyJson : Option Json.Fields := none
  cookieEnabled : Bool := false
  cookiesEncrypted : Option Json := none
deriving DecidableEq

/-- `Setting`. -/
structure SettingRow where
  value : Json
  updatedAt : Time
deriving DecidableEq

/-- The tables which the transfer reads and writes. -/
structure ConfigDatabase where
  storage : Table Storage := .empty
  profile : Table Profile := .empty
  playlist : Table Playlist := .empty
  playlistProfile : Table PlaylistProfileRow := .empty
  setting : Key → Option SettingRow := fun _ => none

/-- The stored overrides. -/
def ConfigDatabase.overrides (db : ConfigDatabase) : Overrides := fun key =>
  (db.setting key).map SettingRow.value

/-- What the transfer takes from outside. -/
structure Environment where
  settings : Settings.Rules
  splitUrl : String → Option SplitUrl
  /-- `yaml.safe_dump` of `model_dump`. -/
  dump : ConfigDocument → ByteArray
  /-- `yaml.scan` finds an alias or an anchor; `none` is an error of it. -/
  findsAlias : ByteArray → Option Bool
  /-- `yaml.safe_load` and the fields of the models; `none` is an error. -/
  parse : ByteArray → Option ConfigDocument

/-- `bool(value)`. -/
def truthy : Json → Bool
  | .null => false
  | .bool value => value
  | .int value => value != 0
  | .real value => value != 0
  | .str value => value != ""
  | .arr items => !items.isEmpty
  | .obj fields => !fields.isEmpty

/-! ## `export_config` -/

/-- `_portable_argument_text`. -/
def portableArgumentText (value : Option String) : Option String × Bool :=
  (none, value.isSome)

/-- The allowed fields of a configuration. -/
def allowedConfig (row : Storage) : Json.Fields :=
  (row.configJson.getD []).filter fun field =>
    (storageConfigFields row.kind).contains field.1

/-- `_portable_storage_config`. -/
def portableStorageConfig (row : Storage) : Checked (Json.Fields × Bool) :=
  let omitted := (row.configJson.getD []).any fun field =>
    !(storageConfigFields row.kind).contains field.1
  match validateStorageConfig row.kind (some (allowedConfig row)) false with
  | .ok () => .ok (allowedConfig row, omitted)
  | .error (.value _) => .ok ([], true)
  | .error failure => .error failure

/-- The document of a Storage. -/
def exportStorage (ref : String) (row : Storage) : Checked StorageConfig := do
  let (config, omitted) ← portableStorageConfig row
  let document : StorageConfig :=
    { ref
      name := row.name
      kind := row.kind
      enabled := row.enabled
      config := some config
      requiresCredentials := row.credentialsEncrypted.isSome ||
        row.kind == .remote || row.kind == .mount || omitted }
  checkStorage document
  return document

/-- The document of a Profile. -/
def exportProfile (ref : String) (row : Profile) : Checked ProfileConfig := do
  let (ytdlpArgs, argsOmitted) := portableArgumentText row.ytdlpArgs
  let postprocessOmitted := row.postprocessChainJson.any truthy
  let document : ProfileConfig :=
    { row.toProfileColumns with
      ref
      name := row.name
      kind := row.kind
      ytdlpArgs
      postprocessChain := none
      requiresSecretReentry := argsOmitted || postprocessOmitted }
  checkProfile document
  return document

section Export

variable (environment : Environment)

/-- The document of a Playlist. -/
def exportPlaylist (ref : String) (row : Playlist) :
    Checked PlaylistConfig := do
  let (ytdlpArgs, argsOmitted) := portableArgumentText row.ytdlpArgs
  let (url, urlOmitted) := portableSourceUrl environment.splitUrl row.url
  let document : PlaylistConfig :=
    { row.toPlaylistColumns with
      ref
      name := row.name
      folderName := row.folderName
      url
      enabled := row.enabled
      ytdlpArgs
      paused := row.paused
      retentionPolicy := row.retentionPolicyJson
      missingPolicy := row.missingPolicy
      dedupHardlink := row.dedupHardlink
      requiresCookieReentry :=
        row.cookieEnabled || row.cookiesEncrypted.isSome
      requiresSecretReentry := argsOmitted
      requiresUrlReentry := urlOmitted }
  checkPlaylist environment.splitUrl environment.settings.parseInt document
  return document

/-- The rows of a table with their refs. -/
def withRefs {Row : Type} (label : String) (table : Table Row) :
    List (Nat × String × Row) :=
  (table.rows.zipIdx 1).map fun entry =>
    (entry.1.1, label ++ "-" ++ toString entry.2, entry.1.2)

/-- `storage_refs[id]` and the like. -/
def refOf {Row : Type} (label : String) (table : Table Row) (id : Nat) :
    Checked String :=
  match (withRefs label table).find? fun entry => entry.1 == id with
  | some entry => .ok entry.2.1
  | none => .error .key

/-- The document of an assignment. -/
def exportAssignment (db : ConfigDatabase) (row : PlaylistProfileRow) :
    Checked PlaylistProfileConfig := do
  let playlistRef ← refOf "playlist" db.playlist row.playlistId
  let profileRef ← refOf "profile" db.profile row.profileId
  let storageRef ← refOf "storage" db.storage row.storageId
  let document : PlaylistProfileConfig :=
    { playlistRef, profileRef, storageRef, subpath := row.subpath
      enabled := row.enabled, sortOrder := row.sortOrder }
  checkPlaylistProfile document
  return document

/-- `get`, as `list_all` reads the settings. -/
def readSetting (db : ConfigDatabase) (key : Key) : Checked Unit :=
  match Settings.get environment.settings db.overrides key with
  | .ok _ => .ok ()
  | .error message => invalid message

/-- An override which is exported, with its value. -/
def exportedSetting (db : ConfigDatabase) (key : Key) :
    Option (String × Value) :=
  if key = .ytdlpSmoketestUrl then none
  else
    match db.setting key, Settings.get environment.settings db.overrides key with
    | some _, .ok value => some (key.name, .json value)
    | _, _ => none

theorem distinct_names : (Key.all.map Key.name).Nodup := by
  decide +kernel

theorem name_injective {left right : Key} (same : left.name = right.name) :
    left = right :=
  List.inj_on_of_nodup_map distinct_names (Key.mem_all left)
    (Key.mem_all right) same

theorem ofName_name (key : Key) : Key.ofName key.name = some key := by
  rw [Key.ofName]
  cases found : Key.all.find? fun other => other.name == key.name with
  | none =>
      have missing := List.find?_eq_none.mp found key (Key.mem_all key)
      exact absurd (beq_self_eq_true key.name) missing
  | some other =>
      have same := List.find?_some found
      rw [beq_iff_eq] at same
      rw [name_injective same]

theorem distinct_exportedSettings (db : ConfigDatabase) :
    ((Key.all.filterMap (exportedSetting environment db)).map
      Prod.fst).Nodup := by
  have names : ∀ keys : List Key,
      ((keys.filterMap (exportedSetting environment db)).map
        Prod.fst).Sublist (keys.map Key.name) := by
    intro keys
    induction keys with
    | nil => exact .slnil
    | cons key keys induction =>
        rw [List.filterMap_cons]
        cases exported : exportedSetting environment db key with
        | none => exact induction.cons _
        | some setting =>
            have sameName : setting.1 = key.name := by
              simp only [exportedSetting] at exported
              split at exported
              · cases exported
              · split at exported
                · cases exported
                  rfl
                · cases exported
            rw [List.map_cons, List.map_cons, sameName]
            exact induction.cons_cons _
  exact distinct_names.sublist (names Key.all)

/-- `export_config`. -/
def exportConfig (db : ConfigDatabase) : Checked ConfigDocument := do
  let storages ← (withRefs "storage" db.storage).mapM fun entry =>
    exportStorage entry.2.1 entry.2.2
  let profiles ← (withRefs "profile" db.profile).mapM fun entry =>
    exportProfile entry.2.1 entry.2.2
  let playlists ← (withRefs "playlist" db.playlist).mapM fun entry =>
    exportPlaylist environment entry.2.1 entry.2.2
  let playlistProfiles ← db.playlistProfile.rows.mapM fun entry =>
    exportAssignment db entry.2
  Key.all.forM (readSetting environment db)
  let document : ConfigDocument :=
    { storages, profiles, playlists, playlistProfiles
      settings := Key.all.filterMap (exportedSetting environment db)
      distinct := distinct_exportedSettings environment db }
  checkContainer document
  return document

/-! ## `load_config_yaml` -/

/-- `validate_override` of every setting of a document. -/
def checkSettings (settings : List (String × Value)) : Checked Unit :=
  settings.forM fun setting =>
    match Key.ofName setting.1 with
    | none => .error (.transfer ("設定値が不正です: " ++ setting.1))
    | some key =>
        match validateOverride environment.settings key setting.2 with
        | .ok _ => .ok ()
        | .error _ => .error (.transfer ("設定値が不正です: " ++ setting.1))

/-- `load_config_yaml`. -/
def loadConfigYaml (encoded : ByteArray) : Checked ConfigDocument :=
  if encoded.size = 0 ∨ 1024 * 1024 < encoded.size then
    .error (.transfer "YAMLは1 byte以上1 MiB以下にしてください")
  else
    match environment.findsAlias encoded with
    | some true =>
        .error (.transfer "YAML alias / anchorは使用できません")
    | none => .error (.transfer "設定YAMLの形式または値が不正です")
    | some false =>
        match environment.parse encoded with
        | none => .error (.transfer "設定YAMLの形式または値が不正です")
        | some document =>
            match checkDocument environment.splitUrl
                environment.settings.parseInt document with
            | .ok () =>
                (checkSettings environment document.settings).map
                  fun _ => document
            | .error .type => .error .type
            | .error _ =>
                .error (.transfer "設定YAMLの形式または値が不正です")

end Export

/-! ## What is exported -/

/-- What `_portable_storage_config` returns, if it does. -/
def cleanedConfig (row : Storage) : Json.Fields × Bool :=
  match validateStorageConfig row.kind (some (allowedConfig row)) false with
  | .ok () =>
      (allowedConfig row, (row.configJson.getD []).any fun field =>
        !(storageConfigFields row.kind).contains field.1)
  | .error _ => ([], true)

/-- The document of a Storage, without its checks. -/
def storageDocument (ref : String) (row : Storage) : StorageConfig where
  ref
  name := row.name
  kind := row.kind
  enabled := row.enabled
  config := some (cleanedConfig row).1
  requiresCredentials := row.credentialsEncrypted.isSome ||
    row.kind == .remote || row.kind == .mount || (cleanedConfig row).2

/-- A Storage which is exported. -/
structure PortableStorage (row : Storage) : Prop where
  name : checkText 1 255 row.name = .ok ()
  config : portableStorageConfig row = .ok (cleanedConfig row)

theorem checkStorage_document
    {ref : String} {row : Storage} :
    checkStorage (storageDocument ref row) = .ok () ↔
      checkText 1 100 ref = .ok () ∧ checkText 1 255 row.name = .ok () := by
  have config : validateStorageConfig row.kind (some (cleanedConfig row).1)
      (storageDocument ref row).requiresCredentials = .ok () := by
    cases valid : validateStorageConfig row.kind
        (some (allowedConfig row)) false with
    | ok value =>
        have cleaned : (cleanedConfig row).1 = allowedConfig row := by
          rw [cleanedConfig, valid]
        rw [cleaned]
        by_cases omittable : (storageDocument ref row).requiresCredentials ∧
            (some (allowedConfig row)).getD [] = []
        · rw [validateStorageConfig.eq_def, if_pos omittable]
        · rw [validateStorageConfig.eq_def, if_neg (by simp)] at valid
          rw [validateStorageConfig.eq_def, if_neg omittable]
          exact valid
    | error failure =>
        have cleaned : cleanedConfig row = ([], true) := by
          rw [cleanedConfig, valid]
        rw [cleaned, storageDocument, cleaned]
        simp [validateStorageConfig]
  show (do
    checkText 1 100 ref
    checkText 1 255 row.name
    validateStorageConfig row.kind (some (cleanedConfig row).1)
      (storageDocument ref row).requiresCredentials) = .ok () ↔ _
  rw [andThen_eq_ok_iff, andThen_eq_ok_iff, config]
  simp only [and_true]

theorem exportStorage_eq_ok_iff
    {ref : String} {row : Storage} {document : StorageConfig}
    (isRef : checkText 1 100 ref = .ok ()) :
    exportStorage ref row = .ok document ↔
      PortableStorage row ∧ document = storageDocument ref row := by
  have cleaned : ∀ found, portableStorageConfig row = .ok found →
      found = cleanedConfig row := by
    intro found isFound
    rw [portableStorageConfig] at isFound
    rw [cleanedConfig]
    split at isFound
    · next valid =>
        cases isFound
        rw [valid]
    · next message raised =>
        cases isFound
        rw [raised]
    · cases isFound
  rw [exportStorage, bind_eq_ok_iff]
  constructor
  · rintro ⟨found, isFound, passes⟩
    obtain rfl := cleaned found isFound
    rcases (bind_eq_ok_iff _ _ _).mp passes with ⟨⟨⟩, checked, same⟩
    cases same
    exact ⟨⟨(checkStorage_document.mp checked).2, isFound⟩, rfl⟩
  · rintro ⟨portable, rfl⟩
    refine ⟨cleanedConfig row, portable.config, ?_⟩
    rw [bind_eq_ok_iff]
    exact ⟨(), checkStorage_document.mpr ⟨isRef, portable.name⟩, rfl⟩

/-- The document of a Profile, without its checks. -/
def profileDocument (ref : String) (row : Profile) : ProfileConfig :=
  { row.toProfileColumns with
    ref
    name := row.name
    kind := row.kind
    ytdlpArgs := none
    postprocessChain := none
    requiresSecretReentry :=
      row.ytdlpArgs.isSome || row.postprocessChainJson.any truthy }

/-- A Profile which is exported. -/
structure PortableProfile (row : Profile) : Prop where
  name : checkText 1 255 row.name = .ok ()
  columns : checkProfileColumns row.toProfileColumns = .ok ()

theorem checkProfile_document
    {ref : String} {row : Profile} (isRef : checkText 1 100 ref = .ok ()) :
    checkProfile (profileDocument ref row) = .ok () ↔
      PortableProfile row := by
  show (do
    checkText 1 100 ref
    checkText 1 255 row.name
    checkOptional 4000 none
    checkProfileColumns row.toProfileColumns
    if (none : Option String).isSome ∨
        (none : Option Json.Fields).getD [] ≠ [] then
      invalid "free-form設定はimportできません。画面から再入力してください") =
        .ok () ↔ _
  rw [andThen_eq_ok_iff, andThen_eq_ok_iff, andThen_eq_ok_iff,
    andThen_eq_ok_iff]
  constructor
  · rintro ⟨-, name, -, columns, -⟩
    exact ⟨name, columns⟩
  · rintro ⟨name, columns⟩
    exact ⟨isRef, name, rfl, columns, rfl⟩

theorem exportProfile_eq_ok_iff
    {ref : String} {row : Profile} {document : ProfileConfig}
    (isRef : checkText 1 100 ref = .ok ()) :
    exportProfile ref row = .ok document ↔
      PortableProfile row ∧ document = profileDocument ref row := by
  show (checkProfile (profileDocument ref row) >>=
    fun _ => pure (profileDocument ref row)) = .ok document ↔ _
  rw [bind_eq_ok_iff]
  constructor
  · rintro ⟨⟨⟩, passes, same⟩
    cases same
    exact ⟨(checkProfile_document isRef).mp passes, rfl⟩
  · rintro ⟨portable, rfl⟩
    exact ⟨(), (checkProfile_document isRef).mpr portable, rfl⟩

section Playlists

variable {environment : Environment}

variable (environment) in
/-- The document of a Playlist, without its checks. -/
def playlistDocument (ref : String) (row : Playlist) : PlaylistConfig :=
  { row.toPlaylistColumns with
    ref
    name := row.name
    folderName := row.folderName
    url := (portableSourceUrl environment.splitUrl row.url).1
    enabled := row.enabled
    ytdlpArgs := none
    paused := row.paused
    retentionPolicy := row.retentionPolicyJson
    missingPolicy := row.missingPolicy
    dedupHardlink := row.dedupHardlink
    requiresCookieReentry := row.cookieEnabled || row.cookiesEncrypted.isSome
    requiresSecretReentry := row.ytdlpArgs.isSome
    requiresUrlReentry := (portableSourceUrl environment.splitUrl row.url).2 }

variable (environment) in
/-- A Playlist which is exported. -/
structure PortablePlaylist (row : Playlist) : Prop where
  name : checkText 1 255 row.name = .ok ()
  folderName : checkText 1 255 row.folderName = .ok ()
  url : checkText 1 2000 (portableSourceUrl environment.splitUrl row.url).1 =
    .ok ()
  discoverCron : checkOptional 100 row.discoverCron = .ok ()
  downloadCron : checkOptional 100 row.downloadCron = .ok ()
  policy : ∃ policy, policyFromJson environment.settings.parseInt
    row.retentionPolicyJson = .ok policy

/-- An exported URL is portable, if the placeholder is. -/
theorem portableSourceUrl_exported
    {splitUrl : String → Option SplitUrl}
    (placeholder : isPortableUrl splitUrl placeholderUrl = true)
    (url : String) :
    portableSourceUrl splitUrl (portableSourceUrl splitUrl url).1 =
      ((portableSourceUrl splitUrl url).1, false) := by
  by_cases portable : isPortableUrl splitUrl url = true
  · rw [portableSourceUrl.eq_def splitUrl url, if_pos portable,
      portableSourceUrl, if_pos portable]
  · rw [portableSourceUrl.eq_def splitUrl url, if_neg portable,
      portableSourceUrl, if_pos placeholder]

/-- The fields of a Playlist document with a portable URL. -/
theorem checkPlaylist_iff
    {splitUrl : String → Option SplitUrl} {parseInt : String → Option Int}
    {config : PlaylistConfig} (noArgs : config.ytdlpArgs = none)
    (portable : portableSourceUrl splitUrl config.url = (config.url, false)) :
    checkPlaylist splitUrl parseInt config = .ok () ↔
      checkText 1 100 config.ref = .ok () ∧
      checkText 1 255 config.name = .ok () ∧
      checkText 1 255 config.folderName = .ok () ∧
      checkText 1 2000 config.url = .ok () ∧
      checkOptional 100 config.discoverCron = .ok () ∧
      checkOptional 100 config.downloadCron = .ok () ∧
      ∃ policy, policyFromJson parseInt config.retentionPolicy =
        .ok policy := by
  rw [checkPlaylist, andThen_eq_ok_iff, andThen_eq_ok_iff,
    andThen_eq_ok_iff, andThen_eq_ok_iff, andThen_eq_ok_iff,
    andThen_eq_ok_iff, andThen_eq_ok_iff, noArgs, portable]
  constructor
  · rintro ⟨ref, name, folderName, url, -, discoverCron, downloadCron, rest⟩
    refine ⟨ref, name, folderName, url, discoverCron, downloadCron, ?_⟩
    cases isPolicy : policyFromJson parseInt config.retentionPolicy with
    | ok policy => exact ⟨policy, rfl⟩
    | error failure =>
        rw [isPolicy] at rest
        simp only [Option.isSome_none, Bool.false_eq_true, ne_eq,
          not_true_eq_false, or_self, if_false] at rest
        cases rest
  · rintro ⟨ref, name, folderName, url, discoverCron, downloadCron, policy,
      isPolicy⟩
    refine ⟨ref, name, folderName, url, rfl, discoverCron, downloadCron, ?_⟩
    simp only [Option.isSome_none, Bool.false_eq_true, ne_eq,
      not_true_eq_false, or_self, if_false, isPolicy]

theorem checkPlaylist_document
    (placeholder : isPortableUrl environment.splitUrl placeholderUrl = true)
    {ref : String} {row : Playlist} (isRef : checkText 1 100 ref = .ok ()) :
    checkPlaylist environment.splitUrl environment.settings.parseInt
        (playlistDocument environment ref row) = .ok () ↔
      PortablePlaylist environment row := by
  rw [checkPlaylist_iff rfl (portableSourceUrl_exported placeholder _)]
  constructor
  · rintro ⟨-, name, folderName, url, discoverCron, downloadCron, policy⟩
    exact ⟨name, folderName, url, discoverCron, downloadCron, policy⟩
  · rintro ⟨name, folderName, url, discoverCron, downloadCron, policy⟩
    exact ⟨isRef, name, folderName, url, discoverCron, downloadCron, policy⟩

theorem exportPlaylist_eq_ok_iff
    (placeholder : isPortableUrl environment.splitUrl placeholderUrl = true)
    {ref : String} {row : Playlist} {document : PlaylistConfig}
    (isRef : checkText 1 100 ref = .ok ()) :
    exportPlaylist environment ref row = .ok document ↔
      PortablePlaylist environment row ∧
        document = playlistDocument environment ref row := by
  show (checkPlaylist environment.splitUrl environment.settings.parseInt
      (playlistDocument environment ref row) >>=
    fun _ => pure (playlistDocument environment ref row)) = .ok document ↔ _
  rw [bind_eq_ok_iff]
  constructor
  · rintro ⟨⟨⟩, passes, same⟩
    cases same
    exact ⟨(checkPlaylist_document placeholder isRef).mp passes, rfl⟩
  · rintro ⟨portable, rfl⟩
    exact ⟨(), (checkPlaylist_document placeholder isRef).mpr portable, rfl⟩

end Playlists

/-! ## Refs -/

section Refs

variable {Row : Type} {label : String} {table : Table Row}

theorem map_withRefs {Column : Type} (column : Row → Column) :
    (withRefs label table).map (fun entry => column entry.2.2) =
      table.rows.map fun entry => column entry.2 := by
  rw [withRefs, List.map_map]
  show (table.rows.zipIdx 1).map
    ((fun entry : Nat × Row => column entry.2) ∘ Prod.fst) = _
  rw [← List.map_map, List.zipIdx_map_fst]

theorem keys_withRefs :
    (withRefs label table).map Prod.fst = table.rows.map Prod.fst := by
  rw [withRefs, List.map_map]
  show (table.rows.zipIdx 1).map (Prod.fst ∘ Prod.fst) = _
  rw [← List.map_map, List.zipIdx_map_fst]

/-- No two rows have the same ref. -/
theorem distinct_refs :
    ((withRefs label table).map fun entry => entry.2.1).Nodup := by
  rw [withRefs, List.map_map]
  show ((table.rows.zipIdx 1).map
    ((fun index : Nat => label ++ "-" ++ toString index) ∘ Prod.snd)).Nodup
  rw [← List.map_map, List.zipIdx_map_snd]
  refine List.Nodup.map ?_ List.nodup_range'
  intro left right same
  exact Keyed.repr_injective ((String.append_right_inj _).mp same)

/-- The refs of a small table are short. -/
theorem isRef_of_mem
    (short : label.length ≤ 8) (few : table.rows.length ≤ 1000)
    {entry : Nat × String × Row} (member : entry ∈ withRefs label table) :
    checkText 1 100 entry.2.1 = .ok () := by
  rcases List.mem_map.mp member with ⟨⟨row, index⟩, isRow, rfl⟩
  have below : index < 1001 := by
    have indexes := List.mem_zipIdx isRow
    omega
  have digits : (Nat.repr index).length ≤ 4 := by
    rw [Nat.length_repr_le_iff (by decide)]
    omega
  rw [checkText_iff, String.length_append, String.length_append]
  show 1 ≤ label.length + 1 + (Nat.repr index).length ∧
    label.length + 1 + (Nat.repr index).length ≤ 100
  omega

theorem get_of_mem_withRefs
    {id : Nat} {ref : String} {row : Row}
    (member : (id, ref, row) ∈ withRefs label table) :
    table.get id = some row := by
  rcases List.mem_map.mp member with ⟨⟨entry, index⟩, isRow, same⟩
  cases same
  rw [Table.get_eq_some_iff]
  exact List.fst_mem_of_mem_zipIdx isRow

theorem exists_mem_withRefs
    {id : Nat} {row : Row} (found : table.get id = some row) :
    ∃ ref, (id, ref, row) ∈ withRefs label table := by
  rw [Table.get_eq_some_iff] at found
  have member : (id, row) ∈ (table.rows.zipIdx 1).map Prod.fst := by
    rw [List.zipIdx_map_fst]
    exact found
  rcases List.mem_map.mp member with ⟨⟨entry, index⟩, isEntry, same⟩
  cases same
  exact ⟨_, List.mem_map_of_mem
    (f := fun entry : (Nat × Row) × Nat =>
      (entry.1.1, label ++ "-" ++ toString entry.2, entry.1.2)) isEntry⟩

/-- The entry of a row is found by its key. -/
theorem refOf_eq_ok_iff (label : String) (table : Table Row) (id : Nat)
    (ref : String) :
    refOf label table id = .ok ref ↔
      ∃ row, (id, ref, row) ∈ withRefs label table := by
  have distinct : ((withRefs label table).map Prod.fst).Nodup := by
    rw [keys_withRefs]
    exact table.ascending.imp Nat.ne_of_lt
  rw [refOf]
  cases found : (withRefs label table).find? fun entry => entry.1 == id with
  | none =>
      refine iff_of_false (fun impossible => nomatch impossible) ?_
      rintro ⟨row, member⟩
      exact absurd (beq_self_eq_true id)
        (List.find?_eq_none.mp found _ member)
  | some entry =>
      have member := List.mem_of_find?_eq_some found
      have same := List.find?_some found
      rw [beq_iff_eq] at same
      subst same
      constructor
      · intro isRef
        cases isRef
        exact ⟨entry.2.2, member⟩
      · rintro ⟨row, isEntry⟩
        have sameEntry := List.inj_on_of_nodup_map distinct member isEntry rfl
        rw [sameEntry]

theorem refOf_isOk_iff (label : String) (table : Table Row) (id : Nat) :
    (∃ ref, refOf label table id = .ok ref) ↔ table.get id ≠ none := by
  simp only [refOf_eq_ok_iff]
  constructor
  · rintro ⟨ref, row, member⟩
    rw [get_of_mem_withRefs member]
    exact Option.some_ne_none row
  · intro present
    rcases Option.ne_none_iff_exists'.mp present with ⟨row, found⟩
    rcases exists_mem_withRefs found with ⟨ref, member⟩
    exact ⟨ref, row, member⟩

/-- Different rows have different refs. -/
theorem refOf_injective
    {left right : Nat} {ref : String}
    (isLeft : refOf label table left = .ok ref)
    (isRight : refOf label table right = .ok ref) : left = right := by
  rw [refOf_eq_ok_iff] at isLeft isRight
  rcases isLeft with ⟨leftRow, leftMember⟩
  rcases isRight with ⟨rightRow, rightMember⟩
  have sameEntry := List.inj_on_of_nodup_map distinct_refs leftMember
    rightMember rfl
  exact congrArg Prod.fst sameEntry

end Refs

/-! ## When the configuration is exported -/

section Portable

variable (environment : Environment)

/-- The documents of the rows of a table. -/
def documents {Row Document : Type} (label : String) (table : Table Row)
    (document : String → Row → Document) : List Document :=
  (withRefs label table).map fun entry => document entry.2.1 entry.2.2

/-- The document of an assignment, without its checks. -/
def assignmentDocument (db : ConfigDatabase) (row : PlaylistProfileRow) :
    PlaylistProfileConfig where
  playlistRef := (refOf "playlist" db.playlist row.playlistId).toOption.getD ""
  profileRef := (refOf "profile" db.profile row.profileId).toOption.getD ""
  storageRef := (refOf "storage" db.storage row.storageId).toOption.getD ""
  subpath := row.subpath
  enabled := row.enabled
  sortOrder := row.sortOrder

/-- What is exported, if anything is. -/
def configDocument (db : ConfigDatabase) : ConfigDocument where
  storages := documents "storage" db.storage storageDocument
  profiles := documents "profile" db.profile profileDocument
  playlists := documents "playlist" db.playlist (playlistDocument environment)
  playlistProfiles := db.playlistProfile.rows.map fun entry =>
    assignmentDocument db entry.2
  settings := Key.all.filterMap (exportedSetting environment db)
  distinct := distinct_exportedSettings environment db

/-- The pair which an assignment is for. -/
def assignmentPair (row : PlaylistProfileRow) : Nat × Nat :=
  (row.playlistId, row.profileId)

/-- An assignment which is exported. -/
structure PortableAssignment (db : ConfigDatabase)
    (row : PlaylistProfileRow) : Prop where
  subpath : checkText 1 1000 row.subpath = .ok ()
  playlist : db.playlist.get row.playlistId ≠ none
  profile : db.profile.get row.profileId ≠ none
  storage : db.storage.get row.storageId ≠ none

/-- A table whose rows are exported under different names. -/
structure PortableTable {Row : Type} (name : Row → String)
    (portable : Row → Prop) (table : Table Row) : Prop where
  rows : ∀ id row, table.get id = some row → portable row
  names : table.UniqueBy name

/-- A configuration which is exported, if it is not too large. -/
structure Portable (db : ConfigDatabase) : Prop where
  storages : PortableTable (fun row => row.name) PortableStorage db.storage
  profiles : PortableTable (fun row => row.name) PortableProfile db.profile
  playlists : PortableTable (fun row => row.name)
    (PortablePlaylist environment) db.playlist
  assignments : ∀ id row, db.playlistProfile.get id = some row →
    PortableAssignment db row
  pairs : db.playlistProfile.UniqueBy assignmentPair
  settings : ∀ key, readSetting environment db key = .ok ()

/-- No table has more rows than a document may list. -/
structure Few (db : ConfigDatabase) : Prop where
  storages : db.storage.rows.length ≤ 1000
  profiles : db.profile.rows.length ≤ 1000
  playlists : db.playlist.rows.length ≤ 1000
  assignments : db.playlistProfile.rows.length ≤ 5000

variable {environment}

/-- Different values of a column, row by row. -/
theorem nodup_iff_uniqueBy
    {Row Value : Type} {table : Table Row} {column : Row → Value} :
    (table.rows.map fun entry => column entry.2).Nodup ↔
      table.UniqueBy column := by
  constructor
  · exact Table.uniqueBy_of_nodup
  · intro unique
    have keys : table.rows.Pairwise fun left right => left.1 < right.1 :=
      List.pairwise_map.mp table.ascending
    rw [List.nodup_iff_pairwise_ne, List.pairwise_map]
    refine keys.imp_of_mem ?_
    intro left right isLeft isRight before same
    have sameKey := unique left.1 right.1 left.2 right.2
      ((Table.get_eq_some_iff _ _ _).mpr isLeft)
      ((Table.get_eq_some_iff _ _ _).mpr isRight) same
    exact absurd sameKey (Nat.ne_of_lt before)

/-- The rows of a table are exported one by one. -/
theorem mapM_withRefs
    {Row Document : Type} {label : String} {table : Table Row}
    {exportRow : String → Row → Checked Document}
    {document : String → Row → Document} {portable : Row → Prop}
    (exports : ∀ ref row exported, checkText 1 100 ref = .ok () →
      (exportRow ref row = .ok exported ↔
        portable row ∧ exported = document ref row))
    (short : label.length ≤ 8) (few : table.rows.length ≤ 1000)
    (exported : List Document) :
    (withRefs label table).mapM (fun entry =>
        exportRow entry.2.1 entry.2.2) = .ok exported ↔
      (∀ id row, table.get id = some row → portable row) ∧
        exported = documents label table document := by
  have each : ∀ entry ∈ withRefs label table, ∀ exported,
      exportRow entry.2.1 entry.2.2 = .ok exported ↔
        portable entry.2.2 ∧ exported = document entry.2.1 entry.2.2 :=
    fun entry member exported =>
      exports _ _ exported (isRef_of_mem short few member)
  have rows : (∀ id row, table.get id = some row → portable row) ↔
      ∀ entry ∈ withRefs label table, portable entry.2.2 := by
    constructor
    · intro all entry member
      exact all entry.1 entry.2.2 (get_of_mem_withRefs member)
    · intro all id row found
      rcases exists_mem_withRefs found with ⟨ref, member⟩
      exact all _ member
  rw [mapM_eq_ok_iff, rows, documents]
  generalize withRefs label table = entries at each
  induction entries generalizing exported with
  | nil =>
      rw [List.map_nil, List.map_nil]
      cases exported with
      | nil =>
          refine iff_of_true rfl ⟨?_, rfl⟩
          intro entry impossible
          cases impossible
      | cons first rest =>
          exact iff_of_false (fun impossible => nomatch impossible)
            (fun impossible => nomatch impossible.2)
  | cons entry entries induction =>
      rw [List.forall_mem_cons] at each
      cases exported with
      | nil =>
          exact iff_of_false (fun impossible => nomatch impossible)
            (fun impossible => nomatch impossible.2)
      | cons first rest =>
          rw [List.map_cons, List.map_cons, List.cons.injEq,
            List.forall_mem_cons, List.map_cons, List.cons.injEq]
          exact (and_congr (each.1 first) (induction rest each.2)).trans
            and_and_and_comm

theorem length_documents
    {Row Document : Type} (label : String) (table : Table Row)
    (document : String → Row → Document) :
    (documents label table document).length = table.rows.length := by
  rw [documents, withRefs, List.length_map, List.length_map,
    List.length_zipIdx]

/-- A column of the documents, which the refs do not matter to. -/
theorem map_documents
    {Row Document Column : Type} {label : String} {table : Table Row}
    {document : String → Row → Document} {column : Document → Column}
    {rowColumn : Row → Column}
    (same : ∀ ref row, column (document ref row) = rowColumn row) :
    (documents label table document).map column =
      table.rows.map fun entry => rowColumn entry.2 := by
  rw [← map_withRefs rowColumn, documents, List.map_map]
  exact List.map_congr_left fun entry _ => same _ _

theorem refs_documents
    {Row Document : Type} {label : String} {table : Table Row}
    {document : String → Row → Document} {ref : Document → String}
    (same : ∀ isRef row, ref (document isRef row) = isRef) :
    (documents label table document).map ref =
      (withRefs label table).map fun entry => entry.2.1 := by
  rw [documents, List.map_map]
  exact List.map_congr_left fun entry _ => same _ _

/-- The refs and names of the documents are different if the names are. -/
theorem distinct_documents_iff
    {Row Document : Type} {label : String} {table : Table Row}
    {document : String → Row → Document} {ref name : Document → String}
    {rowName : Row → String}
    (sameRef : ∀ isRef row, ref (document isRef row) = isRef)
    (sameName : ∀ isRef row, name (document isRef row) = rowName row) :
    ((documents label table document).map ref).Nodup ∧
        ((documents label table document).map name).Nodup ↔
      table.UniqueBy rowName := by
  rw [refs_documents sameRef, map_documents sameName, nodup_iff_uniqueBy]
  exact and_iff_right distinct_refs

theorem refOf_mem_documents
    {Row Document : Type} {label : String} {table : Table Row}
    {document : String → Row → Document} {ref : Document → String}
    (same : ∀ isRef row, ref (document isRef row) = isRef)
    {id : Nat} {found : String} (isRef : refOf label table id = .ok found) :
    found ∈ (documents label table document).map ref := by
  rcases (refOf_eq_ok_iff _ _ _ _).mp isRef with ⟨row, member⟩
  rw [refs_documents same]
  exact List.mem_map_of_mem
    (f := fun entry : Nat × String × Row => entry.2.1) member

/-- An assignment is exported if its parts are there. -/
theorem exportAssignment_eq_ok_iff
    {db : ConfigDatabase} {row : PlaylistProfileRow}
    {document : PlaylistProfileConfig} :
    exportAssignment db row = .ok document ↔
      PortableAssignment db row ∧ document = assignmentDocument db row := by
  rw [exportAssignment]
  simp only [bind_eq_ok_iff]
  constructor
  · rintro ⟨playlistRef, isPlaylist, profileRef, isProfile, storageRef,
      isStorage, ⟨⟩, subpath, same⟩
    cases same
    refine ⟨⟨subpath, ?_, ?_, ?_⟩, ?_⟩
    · exact (refOf_isOk_iff _ _ _).mp ⟨playlistRef, isPlaylist⟩
    · exact (refOf_isOk_iff _ _ _).mp ⟨profileRef, isProfile⟩
    · exact (refOf_isOk_iff _ _ _).mp ⟨storageRef, isStorage⟩
    · rw [assignmentDocument, isPlaylist, isProfile, isStorage]
      rfl
  · rintro ⟨portable, rfl⟩
    rcases (refOf_isOk_iff "playlist" _ _).mpr portable.playlist with
      ⟨playlistRef, isPlaylist⟩
    rcases (refOf_isOk_iff "profile" _ _).mpr portable.profile with
      ⟨profileRef, isProfile⟩
    rcases (refOf_isOk_iff "storage" _ _).mpr portable.storage with
      ⟨storageRef, isStorage⟩
    refine ⟨playlistRef, isPlaylist, profileRef, isProfile, storageRef,
      isStorage, (), portable.subpath, ?_⟩
    rw [assignmentDocument, isPlaylist, isProfile, isStorage]
    rfl

theorem mapM_exportAssignment_iff
    (db : ConfigDatabase) (exported : List PlaylistProfileConfig) :
    db.playlistProfile.rows.mapM (fun entry =>
        exportAssignment db entry.2) = .ok exported ↔
      (∀ id row, db.playlistProfile.get id = some row →
        PortableAssignment db row) ∧
      exported = db.playlistProfile.rows.map fun entry =>
        assignmentDocument db entry.2 := by
  have rows : (∀ id row, db.playlistProfile.get id = some row →
      PortableAssignment db row) ↔
      ∀ entry ∈ db.playlistProfile.rows, PortableAssignment db entry.2 := by
    constructor
    · intro all entry member
      exact all entry.1 entry.2 ((Table.get_eq_some_iff _ _ _).mpr member)
    · intro all id row found
      exact all _ ((Table.get_eq_some_iff _ _ _).mp found)
  rw [mapM_eq_ok_iff, rows]
  generalize db.playlistProfile.rows = entries
  induction entries generalizing exported with
  | nil =>
      cases exported with
      | nil =>
          refine iff_of_true rfl ⟨?_, rfl⟩
          intro entry impossible
          cases impossible
      | cons first rest =>
          exact iff_of_false (fun impossible => nomatch impossible)
            (fun impossible => nomatch impossible.2)
  | cons entry entries induction =>
      cases exported with
      | nil =>
          exact iff_of_false (fun impossible => nomatch impossible)
            (fun impossible => nomatch impossible.2)
      | cons first rest =>
          rw [List.map_cons, List.map_cons, List.cons.injEq,
            List.forall_mem_cons, List.map_cons, List.cons.injEq]
          exact (and_congr exportAssignment_eq_ok_iff
            (induction rest)).trans and_and_and_comm

/-- Assignments for one pair are exported for one pair of refs. -/
theorem distinct_pairs_iff
    {db : ConfigDatabase}
    (assignments : ∀ id row, db.playlistProfile.get id = some row →
      PortableAssignment db row) :
    ((db.playlistProfile.rows.map fun entry =>
        assignmentDocument db entry.2).map fun row =>
          (row.playlistRef, row.profileRef)).Nodup ↔
      db.playlistProfile.UniqueBy assignmentPair := by
  have refs : ∀ id row, db.playlistProfile.get id = some row →
      refOf "playlist" db.playlist row.playlistId =
          .ok (assignmentDocument db row).playlistRef ∧
        refOf "profile" db.profile row.profileId =
          .ok (assignmentDocument db row).profileRef := by
    intro id row found
    rcases (refOf_isOk_iff "playlist" _ _).mpr (assignments id row found).playlist
      with ⟨playlistRef, isPlaylist⟩
    rcases (refOf_isOk_iff "profile" _ _).mpr (assignments id row found).profile
      with ⟨profileRef, isProfile⟩
    rw [assignmentDocument, isPlaylist, isProfile]
    exact ⟨rfl, rfl⟩
  have byRefs := @nodup_iff_uniqueBy _ _ db.playlistProfile
    fun row => ((assignmentDocument db row).playlistRef,
      (assignmentDocument db row).profileRef)
  rw [List.map_map]
  refine byRefs.trans ?_
  constructor
  · intro unique left right leftRow rightRow foundLeft foundRight same
    apply unique left right leftRow rightRow foundLeft foundRight
    rw [assignmentPair, assignmentPair, Prod.mk.injEq] at same
    simp only [assignmentDocument, same.1, same.2]
  · intro unique left right leftRow rightRow foundLeft foundRight same
    apply unique left right leftRow rightRow foundLeft foundRight
    rw [Prod.mk.injEq] at same
    have isLeft := refs left leftRow foundLeft
    have isRight := refs right rightRow foundRight
    rw [← same.1, ← same.2] at isRight
    rw [assignmentPair, assignmentPair, refOf_injective isLeft.1 isRight.1,
      refOf_injective isLeft.2 isRight.2]

theorem settings_known (db : ConfigDatabase) :
    ∀ setting ∈ Key.all.filterMap (exportedSetting environment db),
      (Key.ofName setting.1).isSome := by
  intro setting member
  rcases List.mem_filterMap.mp member with ⟨key, -, exported⟩
  simp only [exportedSetting] at exported
  split at exported
  · cases exported
  · split at exported
    · cases exported
      rw [ofName_name]
      rfl
    · cases exported

/-- The document which is exported is consistent if the tables are. -/
theorem consistent_configDocument_iff
    {db : ConfigDatabase}
    (assignments : ∀ id row, db.playlistProfile.get id = some row →
      PortableAssignment db row) :
    Consistent (configDocument environment db) ↔
      db.storage.UniqueBy (fun row => row.name) ∧
        db.profile.UniqueBy (fun row => row.name) ∧
        db.playlist.UniqueBy (fun row => row.name) ∧
        db.playlistProfile.UniqueBy assignmentPair ∧ Few db := by
  have fewSettings : (configDocument environment db).settings.length ≤
      1000 := by
    refine (List.length_filterMap_le _ _).trans ?_
    decide
  have fewStorages := length_documents "storage" db.storage storageDocument
  have fewProfiles := length_documents "profile" db.profile profileDocument
  have fewPlaylists := length_documents "playlist" db.playlist
    (playlistDocument environment)
  have storages := @distinct_documents_iff _ _ "storage" db.storage
    storageDocument StorageConfig.ref StorageConfig.name
    (fun row => row.name) (fun _ _ => rfl) (fun _ _ => rfl)
  have profiles := @distinct_documents_iff _ _ "profile" db.profile
    profileDocument ProfileConfig.ref ProfileConfig.name
    (fun row => row.name) (fun _ _ => rfl) (fun _ _ => rfl)
  have playlists := @distinct_documents_iff _ _ "playlist" db.playlist
    (playlistDocument environment) PlaylistConfig.ref PlaylistConfig.name
    (fun row => row.name) (fun _ _ => rfl) (fun _ _ => rfl)
  have pairs := distinct_pairs_iff assignments
  constructor
  · intro consistent
    refine ⟨storages.mp consistent.storages, profiles.mp consistent.profiles,
      playlists.mp consistent.playlists, pairs.mp consistent.pairs, ?_⟩
    constructor
    · exact fewStorages ▸ consistent.fewStorages
    · exact fewProfiles ▸ consistent.fewProfiles
    · exact fewPlaylists ▸ consistent.fewPlaylists
    · have few := consistent.fewAssignments
      rwa [configDocument, List.length_map] at few
  · rintro ⟨storageNames, profileNames, playlistNames, uniquePairs, few⟩
    constructor
    · exact fewStorages ▸ few.storages
    · exact fewProfiles ▸ few.profiles
    · exact fewPlaylists ▸ few.playlists
    · rw [configDocument, List.length_map]
      exact few.assignments
    · exact fewSettings
    · exact storages.mpr storageNames
    · exact profiles.mpr profileNames
    · exact playlists.mpr playlistNames
    · intro document member
      rcases List.mem_map.mp member with ⟨⟨id, row⟩, isRow, rfl⟩
      have portable := assignments id row
        ((Table.get_eq_some_iff _ _ _).mpr isRow)
      rcases (refOf_isOk_iff "playlist" _ _).mpr portable.playlist with
        ⟨playlistRef, isPlaylist⟩
      rcases (refOf_isOk_iff "profile" _ _).mpr portable.profile with
        ⟨profileRef, isProfile⟩
      rcases (refOf_isOk_iff "storage" _ _).mpr portable.storage with
        ⟨storageRef, isStorage⟩
      rw [assignmentDocument, isPlaylist, isProfile, isStorage]
      exact ⟨refOf_mem_documents (fun _ _ => rfl) isPlaylist,
        refOf_mem_documents (fun _ _ => rfl) isProfile,
        refOf_mem_documents (fun _ _ => rfl) isStorage⟩
    · exact pairs.mpr uniquePairs
    · exact settings_known db

theorem length_of_mapM
    {Row Document : Type} {label : String} {table : Table Row}
    {exportRow : String → Row → Checked Document} {exported : List Document}
    (passes : (withRefs label table).mapM (fun entry =>
      exportRow entry.2.1 entry.2.2) = .ok exported) :
    exported.length = table.rows.length := by
  have lengths := congrArg List.length ((mapM_eq_ok_iff _ _ _).mp passes)
  rw [List.length_map, List.length_map, withRefs, List.length_map,
    List.length_zipIdx] at lengths
  exact lengths.symm

theorem exportStorages_iff
    {db : ConfigDatabase} (few : db.storage.rows.length ≤ 1000)
    (exported : List StorageConfig) :
    (withRefs "storage" db.storage).mapM (fun entry =>
        exportStorage entry.2.1 entry.2.2) = .ok exported ↔
      (∀ id row, db.storage.get id = some row → PortableStorage row) ∧
        exported = documents "storage" db.storage storageDocument :=
  @mapM_withRefs _ _ "storage" db.storage exportStorage storageDocument
    PortableStorage (fun _ _ _ isRef => exportStorage_eq_ok_iff isRef)
    (by decide) few exported

theorem exportProfiles_iff
    {db : ConfigDatabase} (few : db.profile.rows.length ≤ 1000)
    (exported : List ProfileConfig) :
    (withRefs "profile" db.profile).mapM (fun entry =>
        exportProfile entry.2.1 entry.2.2) = .ok exported ↔
      (∀ id row, db.profile.get id = some row → PortableProfile row) ∧
        exported = documents "profile" db.profile profileDocument :=
  @mapM_withRefs _ _ "profile" db.profile exportProfile profileDocument
    PortableProfile (fun _ _ _ isRef => exportProfile_eq_ok_iff isRef)
    (by decide) few exported

theorem exportPlaylists_iff
    (placeholder : isPortableUrl environment.splitUrl placeholderUrl = true)
    {db : ConfigDatabase} (few : db.playlist.rows.length ≤ 1000)
    (exported : List PlaylistConfig) :
    (withRefs "playlist" db.playlist).mapM (fun entry =>
        exportPlaylist environment entry.2.1 entry.2.2) = .ok exported ↔
      (∀ id row, db.playlist.get id = some row →
        PortablePlaylist environment row) ∧
        exported = documents "playlist" db.playlist
          (playlistDocument environment) :=
  @mapM_withRefs _ _ "playlist" db.playlist (exportPlaylist environment)
    (playlistDocument environment) (PortablePlaylist environment)
    (fun _ _ _ isRef => exportPlaylist_eq_ok_iff placeholder isRef)
    (by decide) few exported

/-- Exactly portable configurations which are not too large are exported. -/
theorem exportConfig_eq_ok_iff
    (placeholder : isPortableUrl environment.splitUrl placeholderUrl = true)
    {db : ConfigDatabase} {document : ConfigDocument} :
    exportConfig environment db = .ok document ↔
      Portable environment db ∧ Few db ∧
        document = configDocument environment db := by
  rw [exportConfig]
  simp only [bind_eq_ok_iff]
  constructor
  · rintro ⟨storages, isStorages, profiles, isProfiles, playlists,
      isPlaylists, assignments, isAssignments, ⟨⟩, settings, ⟨⟩, consistent,
      same⟩
    cases same
    rw [checkContainer_iff] at consistent
    have fewStorages : db.storage.rows.length ≤ 1000 :=
      length_of_mapM isStorages ▸ consistent.fewStorages
    have fewProfiles : db.profile.rows.length ≤ 1000 :=
      length_of_mapM isProfiles ▸ consistent.fewProfiles
    have fewPlaylists : db.playlist.rows.length ≤ 1000 :=
      length_of_mapM isPlaylists ▸ consistent.fewPlaylists
    rw [exportStorages_iff fewStorages] at isStorages
    rw [exportProfiles_iff fewProfiles] at isProfiles
    rw [exportPlaylists_iff placeholder fewPlaylists] at isPlaylists
    rw [mapM_exportAssignment_iff] at isAssignments
    rcases isStorages with ⟨storages, rfl⟩
    rcases isProfiles with ⟨profiles, rfl⟩
    rcases isPlaylists with ⟨playlists, rfl⟩
    rcases isAssignments with ⟨assignments, rfl⟩
    rcases (consistent_configDocument_iff assignments).mp consistent with
      ⟨storageNames, profileNames, playlistNames, pairs, few⟩
    refine ⟨?_, few, rfl⟩
    constructor
    · exact ⟨storages, storageNames⟩
    · exact ⟨profiles, profileNames⟩
    · exact ⟨playlists, playlistNames⟩
    · exact assignments
    · exact pairs
    · intro key
      exact (forM_eq_ok_iff _ _).mp settings key (Key.mem_all key)
  · rintro ⟨portable, few, rfl⟩
    refine ⟨_, (exportStorages_iff few.storages _).mpr
        ⟨portable.storages.rows, rfl⟩, _,
      (exportProfiles_iff few.profiles _).mpr
        ⟨portable.profiles.rows, rfl⟩, _,
      (exportPlaylists_iff placeholder few.playlists _).mpr
        ⟨portable.playlists.rows, rfl⟩, _,
      (mapM_exportAssignment_iff db _).mpr ⟨portable.assignments, rfl⟩, (),
      ?_, (), ?_, rfl⟩
    · rw [forM_eq_ok_iff]
      intro key _
      exact portable.settings key
    · apply (checkContainer_iff _).mpr
      apply (consistent_configDocument_iff portable.assignments).mpr
      exact ⟨portable.storages.names, portable.profiles.names,
        portable.playlists.names, portable.pairs, few⟩

/-! ## The exported document is loaded again -/

/-- The overrides which are exported are ones which can be set. -/
def ValidOverrides (environment : Environment) (db : ConfigDatabase) :
    Prop :=
  ∀ key row, key ≠ .ytdlpSmoketestUrl → db.setting key = some row →
    ∃ value, validateOverride environment.settings key (.json row.value) =
      .ok value

/-- What YAML makes of the dump of a document. -/
structure InverseOn (environment : Environment) (document : ConfigDocument) :
    Prop where
  nonempty : (environment.dump document).size ≠ 0
  noAlias : environment.findsAlias (environment.dump document) = some false
  parsed : environment.parse (environment.dump document) = some document

/-- A valid override is valid again as it is read. -/
theorem validateOverride_get
    {db : ConfigDatabase} (valid : ValidOverrides environment db)
    {setting : String × Value} {key : Key}
    (exported : exportedSetting environment db key = some setting) :
    setting.1 = key.name ∧ ∃ value,
      validateOverride environment.settings key setting.2 = .ok value := by
  simp only [exportedSetting] at exported
  split at exported
  · cases exported
  · next notSmoketest =>
      split at exported
      · next row value found isValue =>
          cases exported
          refine ⟨rfl, ?_⟩
          rcases valid key row notSmoketest found with ⟨stored, isValid⟩
          have read : Settings.get environment.settings db.overrides key =
              Settings.cast environment.settings (codeDefaults key).type
                (.json row.value) := by
            rw [Settings.get, ConfigDatabase.overrides, found]
            rfl
          rw [read] at isValue
          rw [validateOverride, isValue] at isValid
          refine ⟨stored, ?_⟩
          rw [validateOverride, cast_of_cast isValue]
          exact isValid
      · cases exported

theorem checkSettings_configDocument
    {db : ConfigDatabase} (valid : ValidOverrides environment db) :
    checkSettings environment (configDocument environment db).settings =
      .ok () := by
  rw [checkSettings, forM_eq_ok_iff]
  intro setting member
  rcases List.mem_filterMap.mp member with ⟨key, -, exported⟩
  rcases validateOverride_get valid exported with ⟨name, value, isValid⟩
  rw [name, ofName_name]
  simp only [isValid]

theorem exists_of_mem_documents
    {Row Document : Type} {label : String} {table : Table Row}
    {document : String → Row → Document} {exported : Document}
    (member : exported ∈ documents label table document) :
    ∃ id ref row, (id, ref, row) ∈ withRefs label table ∧
      exported = document ref row := by
  rcases List.mem_map.mp member with ⟨⟨id, ref, row⟩, isEntry, same⟩
  exact ⟨id, ref, row, isEntry, same.symm⟩

/-- The exported document passes its own checks. -/
theorem checkDocument_configDocument
    (placeholder : isPortableUrl environment.splitUrl placeholderUrl = true)
    {db : ConfigDatabase} (portable : Portable environment db)
    (few : Few db) :
    checkDocument environment.splitUrl environment.settings.parseInt
      (configDocument environment db) = .ok () := by
  rw [checkDocument, andThen_eq_ok_iff, andThen_eq_ok_iff,
    andThen_eq_ok_iff, andThen_eq_ok_iff, forM_eq_ok_iff, forM_eq_ok_iff,
    forM_eq_ok_iff, forM_eq_ok_iff, checkContainer_iff,
    consistent_configDocument_iff portable.assignments]
  refine ⟨?_, ?_, ?_, ?_, portable.storages.names, portable.profiles.names,
    portable.playlists.names, portable.pairs, few⟩
  · intro config member
    rcases exists_of_mem_documents member with ⟨id, ref, row, isEntry, rfl⟩
    exact checkStorage_document.mpr
      ⟨isRef_of_mem (by decide) few.storages isEntry,
        (portable.storages.rows id row (get_of_mem_withRefs isEntry)).name⟩
  · intro config member
    rcases exists_of_mem_documents member with ⟨id, ref, row, isEntry, rfl⟩
    exact (checkProfile_document
      (isRef_of_mem (by decide) few.profiles isEntry)).mpr
        (portable.profiles.rows id row (get_of_mem_withRefs isEntry))
  · intro config member
    rcases exists_of_mem_documents member with ⟨id, ref, row, isEntry, rfl⟩
    exact (checkPlaylist_document placeholder
      (isRef_of_mem (by decide) few.playlists isEntry)).mpr
        (portable.playlists.rows id row (get_of_mem_withRefs isEntry))
  · intro document member
    rcases List.mem_map.mp member with ⟨⟨id, row⟩, isRow, rfl⟩
    exact (portable.assignments id row
      ((Table.get_eq_some_iff _ _ _).mpr isRow)).subpath

/-- A dumped export is loaded as the document it was made from. -/
theorem loadConfigYaml_dump
    (placeholder : isPortableUrl environment.splitUrl placeholderUrl = true)
    {db : ConfigDatabase} (portable : Portable environment db)
    (few : Few db) (valid : ValidOverrides environment db)
    (inverse : InverseOn environment (configDocument environment db))
    (small : (environment.dump (configDocument environment db)).size ≤
      1024 * 1024) :
    loadConfigYaml environment
        (environment.dump (configDocument environment db)) =
      .ok (configDocument environment db) := by
  have inBounds : ¬ ((environment.dump
      (configDocument environment db)).size = 0 ∨
        1024 * 1024 <
          (environment.dump (configDocument environment db)).size) := by
    rintro (empty | large)
    · exact inverse.nonempty empty
    · exact absurd small (Nat.not_le.mpr large)
  rw [loadConfigYaml, if_neg inBounds, inverse.noAlias]
  simp only [inverse.parsed,
    checkDocument_configDocument placeholder portable few,
    checkSettings_configDocument valid]
  rfl

end Portable

end Sluicery.Core.ConfigTransfer
