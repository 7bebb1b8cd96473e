import Sluicery.Core.Retention
import Sluicery.Core.Settings
import Sluicery.Library.PosixPath
import Sluicery.Library.Returning

/-!
# Documents of the configuration transfer

`ConfigDocument` with the checks of its models: the bounds of the fields, the
portable parts of Storages, Profiles and Playlists, and the references within
a document.  A check raises the first error; a bound which is not met is
reported with the name pydantic has for it.
-/

namespace Sluicery.Core.ConfigTransfer

open Sluicery.Library Sluicery.Db Sluicery.Core.Settings

/-- What the functions of the transfer raise. -/
inductive Failure where
  /-- `ValueError`, also within a `ValidationError`. -/
  | value (message : String)
  /-- `TypeError`. -/
  | type
  /-- `ConfigTransferError`. -/
  | transfer (message : String)
  /-- `ConfigImportConfirmationError`. -/
  | confirmation (message : String)
  /-- `AssertionError`. -/
  | assertion
  /-- `KeyError`. -/
  | key
  /-- `IntegrityError` of the database. -/
  | integrity
deriving DecidableEq, Repr

/-- A computation which may raise. -/
abbrev Checked (Value : Type) := Except Failure Value

/-- `raise ValueError(message)`. -/
def invalid {Value : Type} (message : String) : Checked Value :=
  .error (.value message)

/-! ## Portable texts -/

/-- A character as `re.IGNORECASE` compares it with an ASCII letter. -/
def foldCase (char : Char) : Char :=
  if char = '\u0130' ∨ char = '\u0131' then 'i'
  else if char = '\u017f' then 's'
  else if char = '\u212a' then 'k'
  else char.toLower

/-- The words of `_SENSITIVE_TEXT`. -/
def sensitiveWords : List (List Char) :=
  ["password", "passwd", "token", "secret", "apikey", "api_key", "api-key",
    "authorization", "cookie"].map String.toList

/-- One of the words, blanks, and a colon or an equals sign. -/
def beginsSensitive (text : List Char) : Bool :=
  sensitiveWords.any fun word =>
    word.isPrefixOf (text.map foldCase) &&
      match (text.drop word.length).dropWhile Options.isSpace with
      | char :: _ => char == ':' || char == '='
      | [] => false

/-- `_SENSITIVE_TEXT.search`. -/
def isSensitive (text : List Char) : Bool :=
  text.tails.any beginsSensitive

/-- `_plain_portable_text`. -/
def plainPortableText (value : Option Json) (allowEmpty : Bool) :
    Checked String :=
  match value with
  | some (.str text) =>
      if text = "" ∧ allowEmpty = false then
        invalid "portable文字列が不正です"
      else if (text.toList.any fun char => char.toNat < 32) ||
          text.toList.tails.any "://".toList.isPrefixOf then
        invalid "portable文字列にURLまたは制御文字は使用できません"
      else if isSensitive text.toList then
        invalid "portable文字列に秘密値を含められません"
      else .ok text
  | _ => invalid "portable文字列が不正です"

/-- `_HOST.fullmatch`. -/
def isHost (text : String) : Bool :=
  let alphanumeric (char : Char) : Bool := char.isAlphanum
  text.toList.head?.any alphanumeric && text.toList.getLast?.any alphanumeric &&
    text.length ≤ 253 && text.toList.all fun char =>
      alphanumeric char || char == '.' || char == '-'

/-- `validate_relative_path(text, allow_empty=True)` does not raise. -/
def isRelativePath (text : String) : Bool :=
  let path := PurePosixPath.ofString
    (String.ofList (text.toList.map fun char =>
      if char = '\\' then '/' else char))
  !text.toList.contains '\x00' && path.root == "" && !path.parts.contains ".."

/-- `isinstance(port, int) and 1 <= port <= 65535`, not for a bool. -/
def isPort : Option Json → Bool
  | some (.int port) => 1 ≤ port && port ≤ 65535
  | _ => false

/-- `MountStorageConfig.parse`; the normalised path is not kept. -/
def parseMountConfig (config : Json.Fields) : Checked Unit :=
  match Json.lookup config "protocol" with
  | some (.str protocol) =>
      if protocol ≠ "cifs" ∧ protocol ≠ "nfs" then
        invalid "mount protocolはcifsまたはnfsで指定してください"
      else
        match Json.lookup config "host" with
        | some (.str host) =>
            if ¬ isHost host then invalid "mount hostが不正です"
            else checkShare protocol (Json.lookup config "share")
        | _ => invalid "mount hostが不正です"
  -- A list or an object is no member of a set.
  | some (.arr _) | some (.obj _) => .error .type
  | _ => invalid "mount protocolはcifsまたはnfsで指定してください"
where
  checkShare (protocol : String) (share : Option Json) : Checked Unit :=
    match share with
    | some (.str share) =>
        if share = "" ∨ (share.toList.any fun char =>
            Options.isSpace char || char.toNat < 32) then
          invalid "mount shareが不正です"
        else if protocol = "cifs" ∧ ((share.toList.any fun char =>
            char == '/' || char == '\\') || share == "." ||
              share == "..") then
          invalid "CIFS shareは単一の共有名で指定してください"
        else if protocol = "nfs" ∧
            ((PurePosixPath.ofString share).root = "" ∨
              ".." ∈ (PurePosixPath.ofString share).parts ∨
              share.toList.contains ',') then
          invalid "NFS exportは安全な絶対pathで指定してください"
        else checkPath (Json.lookup config "path")
    | _ => invalid "mount shareが不正です"
  checkPath (path : Option Json) : Checked Unit :=
    match path with
    | some (.str path) =>
        if ¬ isRelativePath path then invalid "mount pathが不正です"
        else if ¬ isPort (Json.lookup config "port") then
          invalid "mount portが不正です"
        else .ok ()
    | _ => invalid "mount pathが不正です"

/-- `_STORAGE_CONFIG_FIELDS`. -/
def storageConfigFields : StorageKind → List String
  | .local => ["path"]
  | .remote | .mount => ["protocol", "host", "share", "path", "port"]

/-- `set(config) == fields`. -/
def hasExactly (config : Json.Fields) (fields : List String) : Bool :=
  (config.all fun field => fields.contains field.1) &&
    fields.all fun name => (Json.lookup config name).isSome

/-- The part of `_validate_storage_config` for a remote Storage. -/
def checkRemoteConfig (config : Json.Fields) : Checked Unit := do
  if Json.lookup config "protocol" ≠ some (.str "smb") then
    invalid "remote protocolはsmbだけです"
  let host ← plainPortableText (Json.lookup config "host") false
  let share ← plainPortableText (Json.lookup config "share") false
  if ¬ isHost host ∨ (share.toList.any fun char =>
      char == '/' || char == '\\') then
    invalid "remote host/shareが不正です"
  if ¬ isPort (Json.lookup config "port") then
    invalid "remote portが不正です"
  let path ← plainPortableText (Json.lookup config "path") true
  if ¬ isRelativePath path then invalid "remote pathが不正です"

/-- `_validate_storage_config`. -/
def validateStorageConfig (kind : StorageKind) (config : Option Json.Fields)
    (allowOmitted : Bool) : Checked Unit :=
  if allowOmitted ∧ config.getD [] = [] then .ok ()
  else
    match config with
    | none => invalid "Storage configの項目が不正です"
    | some config =>
        if ¬ hasExactly config (storageConfigFields kind) then
          invalid "Storage configの項目が不正です"
        else
          match kind with
          | .local =>
              (plainPortableText (Json.lookup config "path") false).map
                fun _ => ()
          | .mount => parseMountConfig config
          | .remote => checkRemoteConfig config

/-! ## Retention policies -/

open Retention in
/-- `_optional_positive_int`; the texts name the field. -/
def optionalPositiveInt (parseInt : String → Option Int)
    (value : Option Json) (field : String) : Checked (Option Nat) :=
  let refused : Checked (Option Nat) :=
    invalid (field ++ "は1以上の整数にしてください")
  match value with
  | none | some .null | some (.str "") => .ok none
  | some (.int number) =>
      if number ≤ 0 then refused else .ok (some number.toNat)
  | some (.str text) =>
      match parseInt text with
      | none => refused
      | some number =>
          if number ≤ 0 ∨ (toString number).toList ≠
              ((text.toList.dropWhile Options.isSpace).reverse.dropWhile
                Options.isSpace).reverse then refused
          else .ok (some number.toNat)
  | some _ => refused

open Retention in
/-- `RetentionPolicy.from_json`. -/
def policyFromJson (parseInt : String → Option Int)
    (value : Option Json.Fields) : Checked RetentionPolicy :=
  match value with
  | none => .ok {}
  | some fields => do
      if ¬ fields.all fun field =>
          ["enabled", "keep_latest", "max_age_days"].contains field.1 then
        invalid "retention policyに未知の項目があります"
      let enabled ← match Json.lookup fields "enabled" with
        | none => .ok false
        | some (.bool enabled) => .ok enabled
        | some _ => invalid "enabledは真偽値で指定してください"
      let keepLatest ← optionalPositiveInt parseInt
        (Json.lookup fields "keep_latest") "keep_latest"
      let maxAgeDays ← optionalPositiveInt parseInt
        (Json.lookup fields "max_age_days") "max_age_days"
      if enabled ∧ keepLatest = none ∧ maxAgeDays = none then
        invalid "有効化時は件数または期間を1つ以上指定してください"
      return { enabled, keepLatest, maxAgeDays }

/-- A number or null. -/
def optionalNat : Option Nat → Json
  | none => .null
  | some value => .int value

open Retention in
/-- `RetentionPolicy.to_json`. -/
def policyToJson (policy : RetentionPolicy) : Json.Fields :=
  [("enabled", .bool policy.enabled),
    ("keep_latest", optionalNat policy.keepLatest),
    ("max_age_days", optionalNat policy.maxAgeDays)]

/-! ## Source URLs -/

/-- What `urlsplit` and `parse_qsl` find in a URL. -/
structure SplitUrl where
  scheme : String
  hostname : Option String
  username : Option String
  password : Option String
  fragment : String
  queryKeys : List String
deriving DecidableEq, Repr

/-- The URL which takes the place of one that is not exported. -/
def placeholderUrl : String := "https://invalid.local/reenter-source-url"

section Documents

-- `urlsplit` with the keys of `parse_qsl`; `none` is a `ValueError`.
variable (splitUrl : String → Option SplitUrl)
-- `int(text)`.
variable (parseInt : String → Option Int)

/-- A URL without a credential and without an unknown query key. -/
def isPortableUrl (value : String) : Bool :=
  (splitUrl value).any fun parsed =>
    (parsed.scheme.toLower == "http" || parsed.scheme.toLower == "https") &&
      parsed.hostname.any (· != "") && parsed.username.isNone &&
      parsed.password.isNone && parsed.fragment == "" &&
      parsed.queryKeys.all fun key =>
        ["list", "v", "index"].contains key.toLower

/-- `_portable_source_url`. -/
def portableSourceUrl (value : String) : String × Bool :=
  if isPortableUrl splitUrl value then (value, false)
  else (placeholderUrl, true)

/-! ## Models -/

inductive LayoutStrategy where
  | flat
  | custom
deriving DecidableEq, Repr

inductive PlaylistKindHint where
  | video
  | music
  | mixed
deriving DecidableEq, Repr

/-- `StorageConfig`. -/
structure StorageConfig where
  ref : String
  name : String
  kind : StorageKind
  enabled : Bool
  config : Option Json.Fields
  requiresCredentials : Bool

/-- The fields which a Profile and its document have in common. -/
structure ProfileColumns where
  description : Option String := none
  formatSelector : Option String := none
  outputTemplate : Option String := none
  layoutStrategy : LayoutStrategy := .flat
  audioExtract : Option Bool := none
  audioFormat : Option String := none
  audioQuality : Option String := none
  container : Option String := none
  embedMetadata : Option Bool := none
  embedThumbnail : Option Bool := none
  embedChapters : Option Bool := none
  subtitleLangs : Option String := none
  subtitleAuto : Option Bool := none
  subtitleEmbed : Option Bool := none
  expertMode : Bool := false
  allowExec : Bool := false
  concurrentFragments : Option Int := none
deriving DecidableEq, Repr

/-- `ProfileConfig`. -/
structure ProfileConfig extends ProfileColumns where
  ref : String
  name : String
  kind : ProfileKind
  ytdlpArgs : Option String := none
  postprocessChain : Option Json.Fields := none
  requiresSecretReentry : Bool := false

/-- The fields which a Playlist and its document have in common. -/
structure PlaylistColumns where
  kindHint : PlaylistKindHint := .mixed
  ytdlpArgs : Option String := none
  discoverCron : Option String := none
  downloadCron : Option String := none
deriving DecidableEq, Repr

/-- `PlaylistConfig`. -/
structure PlaylistConfig extends PlaylistColumns where
  ref : String
  name : String
  folderName : String
  url : String
  enabled : Bool
  paused : Bool
  retentionPolicy : Option Json.Fields
  missingPolicy : MissingPolicy
  dedupHardlink : Bool
  requiresCookieReentry : Bool := false
  requiresSecretReentry : Bool := false
  requiresUrlReentry : Bool := false

/-- `PlaylistProfileConfig`. -/
structure PlaylistProfileConfig where
  playlistRef : String
  profileRef : String
  storageRef : String
  subpath : String
  enabled : Bool
  sortOrder : Int
deriving DecidableEq, Repr

/-- `ConfigDocument`; the settings are a dictionary. -/
structure ConfigDocument where
  storages : List StorageConfig
  profiles : List ProfileConfig
  playlists : List PlaylistConfig
  playlistProfiles : List PlaylistProfileConfig
  settings : List (String × Value)
  distinct : (settings.map Prod.fst).Nodup

/-! ## Fields -/

/-- `Field(min_length=least, max_length=most)`. -/
def checkText (least most : Nat) (value : String) : Checked Unit :=
  if value.length < least then invalid "string_too_short"
  else if most < value.length then invalid "string_too_long"
  else .ok ()

/-- `Field(max_length=most)` of a text or `None`. -/
def checkOptional (most : Nat) : Option String → Checked Unit
  | none => .ok ()
  | some value => checkText 0 most value

/-- `Field(max_length=most)` of a list or a dictionary. -/
def checkCount {Item : Type} (most : Nat) (items : List Item) :
    Checked Unit :=
  if most < items.length then invalid "too_long" else .ok ()

/-- `StorageConfig`. -/
def checkStorage (config : StorageConfig) : Checked Unit := do
  checkText 1 100 config.ref
  checkText 1 255 config.name
  validateStorageConfig config.kind config.config config.requiresCredentials

/-- The bounds of the common fields. -/
def checkProfileColumns (columns : ProfileColumns) : Checked Unit := do
  checkOptional 1000 columns.description
  checkOptional 1000 columns.formatSelector
  checkOptional 1000 columns.outputTemplate
  checkOptional 50 columns.audioFormat
  checkOptional 50 columns.audioQuality
  checkOptional 50 columns.container
  checkOptional 255 columns.subtitleLangs
  if columns.concurrentFragments.any (· < 1) then
    invalid "greater_than_equal"

/-- `ProfileConfig`. -/
def checkProfile (config : ProfileConfig) : Checked Unit := do
  checkText 1 100 config.ref
  checkText 1 255 config.name
  checkOptional 4000 config.ytdlpArgs
  checkProfileColumns config.toProfileColumns
  if config.ytdlpArgs.isSome ∨ config.postprocessChain.getD [] ≠ [] then
    invalid "free-form設定はimportできません。画面から再入力してください"

/-- `PlaylistConfig`. -/
def checkPlaylist (config : PlaylistConfig) : Checked Unit := do
  checkText 1 100 config.ref
  checkText 1 255 config.name
  checkText 1 255 config.folderName
  checkText 1 2000 config.url
  checkOptional 4000 config.ytdlpArgs
  checkOptional 100 config.discoverCron
  checkOptional 100 config.downloadCron
  if config.ytdlpArgs.isSome then
    invalid "free-form設定はimportできません。画面から再入力してください"
  let (portableUrl, omitted) := portableSourceUrl splitUrl config.url
  if omitted ∨ portableUrl ≠ config.url then
    invalid "秘密を含み得るsource URLはimportできません"
  match policyFromJson parseInt config.retentionPolicy with
  | .ok _ => .ok ()
  | .error _ => invalid "retention policyが不正です"

/-- `PlaylistProfileConfig`. -/
def checkPlaylistProfile (config : PlaylistProfileConfig) : Checked Unit :=
  checkText 1 1000 config.subpath

/-! ## References -/

/-- No ref and no name occurs twice. -/
def checkDistinct (label : String) (refs names : List String) :
    Checked Unit :=
  if ¬ refs.Nodup then invalid (label ++ " refが重複しています")
  else if ¬ names.Nodup then
    invalid (label ++ "名が文書内で重複しています")
  else .ok ()

/-- The loop over the assignments, with `assignment_keys`. -/
def checkAssignments (document : ConfigDocument)
    (keys : List (String × String)) :
    List PlaylistProfileConfig → Checked Unit
  | [] => .ok ()
  | row :: rest =>
      if row.playlistRef ∉ document.playlists.map PlaylistConfig.ref then
        invalid "playlist_profileのPlaylist参照が不正です"
      else if row.profileRef ∉ document.profiles.map ProfileConfig.ref then
        invalid "playlist_profileのProfile参照が不正です"
      else if row.storageRef ∉ document.storages.map StorageConfig.ref then
        invalid "playlist_profileのStorage参照が不正です"
      else if (row.playlistRef, row.profileRef) ∈ keys then
        invalid "playlist_profileが文書内で重複しています"
      else
        checkAssignments document ((row.playlistRef, row.profileRef) :: keys)
          rest

/-- `validate_references`. -/
def validateReferences (document : ConfigDocument) : Checked Unit := do
  checkDistinct "Storage" (document.storages.map StorageConfig.ref)
    (document.storages.map StorageConfig.name)
  checkDistinct "Profile" (document.profiles.map ProfileConfig.ref)
    (document.profiles.map ProfileConfig.name)
  checkDistinct "Playlist" (document.playlists.map PlaylistConfig.ref)
    (document.playlists.map PlaylistConfig.name)
  checkAssignments document [] document.playlistProfiles
  if document.settings.any fun setting =>
      (Key.ofName setting.1).isNone then
    invalid "未知または内部用の設定キーが含まれています"

/-- The checks of `ConfigDocument` beyond those of the models in it. -/
def checkContainer (document : ConfigDocument) : Checked Unit := do
  checkCount 1000 document.storages
  checkCount 1000 document.profiles
  checkCount 1000 document.playlists
  checkCount 5000 document.playlistProfiles
  checkCount 1000 document.settings
  validateReferences document

/-- `ConfigDocument.model_validate`, of a document with all its fields. -/
def checkDocument (document : ConfigDocument) : Checked Unit := do
  document.storages.forM checkStorage
  document.profiles.forM checkProfile
  document.playlists.forM (checkPlaylist splitUrl parseInt)
  document.playlistProfiles.forM checkPlaylistProfile
  checkContainer document

end Documents

/-! ## What passes -/

/-- A sequence of checks passes if both do. -/
theorem andThen_eq_ok_iff
    (first : Checked Unit) (next : Unit → Checked Unit) :
    first >>= next = .ok () ↔ first = .ok () ∧ next () = .ok () := by
  rw [bind_eq_ok_iff]
  exact ⟨fun ⟨_, passes, rest⟩ => ⟨passes, rest⟩,
    fun passes => ⟨(), passes⟩⟩

theorem guard_eq_ok_iff
    (condition : Prop) [Decidable condition] (message : String) :
    (if condition then invalid message else pure () : Checked Unit) =
      .ok () ↔ ¬ condition := by
  split
  · next holds =>
      exact iff_of_false (fun impossible => nomatch impossible)
        (not_not_intro holds)
  · next fails => exact iff_of_true rfl fails

theorem forM_eq_ok_iff
    {Item : Type} (check : Item → Checked Unit) (items : List Item) :
    items.forM check = .ok () ↔ ∀ item ∈ items, check item = .ok () := by
  induction items with
  | nil => exact iff_of_true rfl fun _ impossible => nomatch impossible
  | cons item items induction =>
      show (check item >>= fun _ => items.forM check) = .ok () ↔ _
      rw [andThen_eq_ok_iff, induction, List.forall_mem_cons]

theorem checkText_iff (least most : Nat) (value : String) :
    checkText least most value = .ok () ↔
      least ≤ value.length ∧ value.length ≤ most := by
  rw [checkText]
  split
  · next short =>
      exact iff_of_false (fun impossible => nomatch impossible)
        (fun both => absurd both.1 (Nat.not_le.mpr short))
  · next notShort =>
      split
      · next long =>
          exact iff_of_false (fun impossible => nomatch impossible)
            (fun both => absurd both.2 (Nat.not_le.mpr long))
      · next notLong =>
          exact iff_of_true rfl
            ⟨Nat.not_lt.mp notShort, Nat.not_lt.mp notLong⟩

theorem checkCount_iff {Item : Type} (most : Nat) (items : List Item) :
    checkCount most items = .ok () ↔ items.length ≤ most := by
  rw [checkCount]
  split
  · next long =>
      exact iff_of_false (fun impossible => nomatch impossible)
        (Nat.not_le.mpr long)
  · next notLong => exact iff_of_true rfl (Nat.not_lt.mp notLong)

theorem checkDistinct_iff (label : String) (refs names : List String) :
    checkDistinct label refs names = .ok () ↔ refs.Nodup ∧ names.Nodup := by
  rw [checkDistinct]
  split
  · next repeated =>
      exact iff_of_false (fun impossible => nomatch impossible)
        (fun both => repeated both.1)
  · next refs =>
      rw [not_not] at refs
      split
      · next repeated =>
          exact iff_of_false (fun impossible => nomatch impossible)
            (fun both => repeated both.2)
      · next names => exact iff_of_true rfl ⟨refs, not_not.mp names⟩

/-- Every assignment refers to the document, and no two are for one pair. -/
theorem checkAssignments_iff
    (document : ConfigDocument) (keys : List (String × String))
    (rows : List PlaylistProfileConfig) :
    checkAssignments document keys rows = .ok () ↔
      (∀ row ∈ rows,
        row.playlistRef ∈ document.playlists.map PlaylistConfig.ref ∧
        row.profileRef ∈ document.profiles.map ProfileConfig.ref ∧
        row.storageRef ∈ document.storages.map StorageConfig.ref ∧
        (row.playlistRef, row.profileRef) ∉ keys) ∧
      (rows.map fun row => (row.playlistRef, row.profileRef)).Nodup := by
  induction rows generalizing keys with
  | nil =>
      refine iff_of_true rfl ⟨?_, List.nodup_nil⟩
      intro row impossible
      cases impossible
  | cons row rows induction =>
      rw [checkAssignments, List.forall_mem_cons, List.map_cons,
        List.nodup_cons]
      split_ifs with playlist profile storage fresh
      case neg =>
        rw [induction]
        constructor
        · rintro ⟨each, distinct⟩
          refine ⟨⟨⟨playlist, profile, storage, fresh⟩, ?_⟩, ?_, distinct⟩
          · intro other member
            rcases each other member with ⟨isPlaylist, isProfile, isStorage, new⟩
            exact ⟨isPlaylist, isProfile, isStorage,
              fun isKey => new (List.mem_cons_of_mem _ isKey)⟩
          · intro member
            rcases List.mem_map.mp member with ⟨other, isOther, same⟩
            exact (each other isOther).2.2.2 (same ▸ List.mem_cons_self)
        · rintro ⟨⟨-, each⟩, new, distinct⟩
          refine ⟨?_, distinct⟩
          intro other member
          rcases each other member with ⟨isPlaylist, isProfile, isStorage, notKey⟩
          refine ⟨isPlaylist, isProfile, isStorage, ?_⟩
          rw [List.mem_cons, not_or]
          refine ⟨?_, notKey⟩
          intro same
          apply new
          rw [← same]
          exact List.mem_map_of_mem
            (f := fun row => (row.playlistRef, row.profileRef)) member
      all_goals
        refine iff_of_false (fun impossible => nomatch impossible) ?_
        rintro ⟨⟨⟨_, _, _, _⟩, _⟩, -⟩
        contradiction

/-- What the checks beyond the models ask for. -/
structure Consistent (document : ConfigDocument) : Prop where
  fewStorages : document.storages.length ≤ 1000
  fewProfiles : document.profiles.length ≤ 1000
  fewPlaylists : document.playlists.length ≤ 1000
  fewAssignments : document.playlistProfiles.length ≤ 5000
  fewSettings : document.settings.length ≤ 1000
  storages : (document.storages.map StorageConfig.ref).Nodup ∧
    (document.storages.map StorageConfig.name).Nodup
  profiles : (document.profiles.map ProfileConfig.ref).Nodup ∧
    (document.profiles.map ProfileConfig.name).Nodup
  playlists : (document.playlists.map PlaylistConfig.ref).Nodup ∧
    (document.playlists.map PlaylistConfig.name).Nodup
  refs : ∀ row ∈ document.playlistProfiles,
    row.playlistRef ∈ document.playlists.map PlaylistConfig.ref ∧
    row.profileRef ∈ document.profiles.map ProfileConfig.ref ∧
    row.storageRef ∈ document.storages.map StorageConfig.ref
  pairs : (document.playlistProfiles.map fun row =>
    (row.playlistRef, row.profileRef)).Nodup
  settings : ∀ setting ∈ document.settings, (Key.ofName setting.1).isSome

theorem checkContainer_iff (document : ConfigDocument) :
    checkContainer document = .ok () ↔ Consistent document := by
  rw [checkContainer, andThen_eq_ok_iff, andThen_eq_ok_iff,
    andThen_eq_ok_iff, andThen_eq_ok_iff, andThen_eq_ok_iff,
    validateReferences, andThen_eq_ok_iff, andThen_eq_ok_iff,
    andThen_eq_ok_iff, andThen_eq_ok_iff, guard_eq_ok_iff]
  simp only [checkCount_iff, checkDistinct_iff, checkAssignments_iff]
  constructor
  · rintro ⟨fewStorages, fewProfiles, fewPlaylists, fewAssignments,
      fewSettings, storages, profiles, playlists, ⟨refs, pairs⟩, settings⟩
    refine ⟨fewStorages, fewProfiles, fewPlaylists, fewAssignments,
      fewSettings, storages, profiles, playlists, ?_, pairs, ?_⟩
    · intro row member
      rcases refs row member with ⟨playlist, profile, storage, -⟩
      exact ⟨playlist, profile, storage⟩
    · intro setting member
      rw [Bool.not_eq_true, List.any_eq_false] at settings
      have known := settings setting member
      rwa [Option.isNone_iff_eq_none, ← ne_eq, Option.ne_none_iff_isSome]
        at known
  · intro consistent
    refine ⟨consistent.fewStorages, consistent.fewProfiles,
      consistent.fewPlaylists, consistent.fewAssignments,
      consistent.fewSettings, consistent.storages, consistent.profiles,
      consistent.playlists, ⟨?_, consistent.pairs⟩, ?_⟩
    · intro row member
      rcases consistent.refs row member with ⟨playlist, profile, storage⟩
      exact ⟨playlist, profile, storage, List.not_mem_nil⟩
    · rw [Bool.not_eq_true, List.any_eq_false]
      intro setting member
      rw [Option.isNone_iff_eq_none, ← ne_eq, Option.ne_none_iff_isSome]
      exact consistent.settings setting member

end Sluicery.Core.ConfigTransfer
