import Sluicery.Core.ConfigExport
import Sluicery.Library.Transition

/-!
# Importing a configuration

`preview_config_import` decides for every entry of a document whether it is
created, overwrites a row or is skipped; `apply_config_import` carries this
out if the tables are still as they were when the plan was made.  Storages,
Profiles and Playlists are treated alike: `Entity` holds what is particular
to each of them.
-/

namespace Sluicery.Core.ConfigTransfer

open Sluicery.Library Sluicery.Db Sluicery.Core.Settings

/-! ## Decisions -/

/-- `CollisionMode`. -/
inductive CollisionMode where
  | skip
  | overwrite
  | create
deriving DecidableEq, Repr

/-- `Action`. -/
inductive Action where
  | create
  | overwrite
  | skip
deriving DecidableEq, Repr

/-- `_action`, by whether a row exists. -/
def actionOf (existing : Bool) (mode : CollisionMode) : Action :=
  if existing then
    match mode with
    | .overwrite => .overwrite
    | .skip => .skip
    | .create => .create
  else .create

/-- `ImportOperation`. -/
structure ImportOperation where
  entity : String
  identity : String
  action : Action
  note : String := ""
deriving DecidableEq, Repr

/-- The existing row of an entry, as the fingerprint has it. -/
inductive Existing where
  | absent
  | row (id : Nat) (updatedAt : Time)
  | setting (value : Json) (updatedAt : Time)
deriving DecidableEq

/-- `existing.id`. -/
def Existing.id : Existing → Option Nat
  | .row id _ => some id
  | _ => none

/-- What the preview says of an entry of the document. -/
structure Decision where
  operation : ImportOperation
  ref : String
  existing : Existing
deriving DecidableEq

/-- `resolved[ref]`. -/
def Decision.resolved (decision : Decision) : String × Option Nat :=
  (decision.ref,
    if decision.operation.action = .create then none
    else decision.existing.id)

/-- What is particular to the rows of one table. -/
structure Entity (Document Row : Type) where
  label : String
  ref : Document → String
  documentName : Document → String
  rowName : Row → String
  updatedAt : Row → Time
  note : Document → Checked String
  /-- The values of a new row, by whether a row with its name exists. -/
  create : Document → Bool → Checked Row
  /-- The values of an overwritten row. -/
  overwrite : Document → Row → Checked Row
  stamp : Time → Row → Row

/-! ## The three tables -/

/-- The columns of a Storage. -/
def storageValues (document : StorageConfig) (row : Storage) : Storage :=
  { row with
    name := document.name
    kind := document.kind
    enabled :=
      if document.kind = .remote ∨ document.kind = .mount ∨
        document.requiresCredentials then false
      else document.enabled
    configJson := document.config
    credentialsEncrypted := none }

def storageEntity : Entity StorageConfig Storage where
  label := "Storage"
  ref := StorageConfig.ref
  documentName := StorageConfig.name
  rowName row := row.name
  updatedAt row := row.updatedAt
  note document := .ok
    (if document.requiresCredentials then "クレデンシャル要再入力" else "")
  create document _ := .ok
    (storageValues document { name := document.name, kind := document.kind })
  overwrite document row := .ok (storageValues document row)
  stamp now row := { row with updatedAt := now }

/-- The columns of a Profile. -/
def profileValues (document : ProfileConfig) (row : Profile) : Profile :=
  { row with
    toProfileColumns := document.toProfileColumns
    name := document.name
    kind := document.kind
    ytdlpArgs :=
      if document.requiresSecretReentry then none else document.ytdlpArgs
    postprocessChainJson := document.postprocessChain.map .obj }

def profileEntity : Entity ProfileConfig Profile where
  label := "Profile"
  ref := ProfileConfig.ref
  documentName := ProfileConfig.name
  rowName row := row.name
  updatedAt row := row.updatedAt
  note document := .ok
    (if document.requiresSecretReentry then "秘密を含むオプション要再入力"
      else "")
  create document _ := .ok
    (profileValues document { name := document.name, kind := document.kind })
  overwrite document row := .ok (profileValues document row)
  stamp now row := { row with updatedAt := now }

section Import

variable (environment : Environment)

/-- The note of a Playlist. -/
def playlistNote (document : PlaylistConfig) : Checked String := do
  let policy ← policyFromJson environment.settings.parseInt
    document.retentionPolicy
  let requirements :=
    (if document.requiresCookieReentry then ["Cookie"] else []) ++
    (if document.requiresSecretReentry then ["秘密を含むオプション"] else []) ++
    (if document.requiresUrlReentry then ["source URL"] else []) ++
    if policy.enabled then ["retention有効化dry-run"] else []
  return if requirements = [] then ""
    else String.intercalate " / " requirements ++ "要再入力"

/-- The columns of a Playlist but for its folder and its URL. -/
def playlistValues (document : PlaylistConfig) (row : Playlist) :
    Checked Playlist := do
  let policy ← policyFromJson environment.settings.parseInt
    document.retentionPolicy
  return { row with
    toPlaylistColumns := { document.toPlaylistColumns with
      ytdlpArgs :=
        if document.requiresSecretReentry then none else document.ytdlpArgs }
    name := document.name
    enabled := document.enabled
    missingPolicy := document.missingPolicy
    dedupHardlink := document.dedupHardlink
    retentionPolicyJson :=
      some (policyToJson { policy with enabled := false })
    paused :=
      document.paused || document.requiresCookieReentry ||
        document.requiresSecretReentry || document.requiresUrlReentry ||
        policy.enabled
    cookieEnabled := false
    cookiesEncrypted := none }

def playlistEntity : Entity PlaylistConfig Playlist where
  label := "Playlist"
  ref := PlaylistConfig.ref
  documentName := PlaylistConfig.name
  rowName row := row.name
  updatedAt row := row.updatedAt
  note := playlistNote environment
  create document taken := do
    let row ← playlistValues environment document
      { name := document.name, folderName := document.folderName
        url := document.url }
    -- Without its URL the row is refused by the database.
    if document.requiresUrlReentry ∧ taken then throw .integrity
    return row
  -- The folder is moved elsewhere.
  overwrite document row := do
    let row ← playlistValues environment document row
    return if document.requiresUrlReentry then row
      else { row with url := document.url }
  stamp now row := { row with updatedAt := now }

/-! ## `preview_config_import` -/

/-- `_one_by_name`. -/
def oneByName {Document Row : Type} (entity : Entity Document Row)
    (table : Table Row) (name : String) : Checked (Option (Nat × Row)) :=
  match table.select fun _ row => entity.rowName row == name with
  | [] => .ok none
  | [found] => .ok (some found)
  | _ => .error (.transfer
      ("既存DBに同名" ++ name ++ "が複数あり衝突を解決できません"))

/-- The decision on a row of one of the three tables. -/
def previewRow {Document Row : Type} (entity : Entity Document Row)
    (table : Table Row) (mode : CollisionMode) (document : Document) :
    Checked Decision := do
  let existing ← oneByName entity table (entity.documentName document)
  let note ← entity.note document
  return {
    operation :=
      { entity := entity.label
        identity := entity.documentName document
        action := actionOf existing.isSome mode
        note }
    ref := entity.ref document
    existing := match existing with
      | none => .absent
      | some (id, row) => .row id (entity.updatedAt row) }

/-- `resolved`; an entry replaces an earlier one with its ref. -/
def resolvedId (resolved : List (String × Option Nat)) (ref : String) :
    Option Nat :=
  (resolved.reverse.lookup ref).join

/-- The assignment of a Profile to a Playlist. -/
def findAssignment (db : ConfigDatabase) (playlistId profileId : Nat) :
    Option (Nat × PlaylistProfileRow) :=
  (db.playlistProfile.select fun _ row =>
    assignmentPair row == (playlistId, profileId)).head?

/-- The decision on an assignment. -/
def previewAssignment (db : ConfigDatabase) (mode : CollisionMode)
    (resolved : List (String × Option Nat)) (row : PlaylistProfileConfig) :
    Decision :=
  let existing := do
    let playlistId ← resolvedId resolved row.playlistRef
    let profileId ← resolvedId resolved row.profileRef
    findAssignment db playlistId profileId
  let identity := row.playlistRef ++ " / " ++ row.profileRef
  { operation :=
      { entity := "playlist_profile"
        identity
        action := actionOf existing.isSome mode }
    ref := identity
    existing := match existing with
      | none => .absent
      | some (id, row) => .row id row.updatedAt }

/-- `session.get(Setting, key)`. -/
def getSetting (db : ConfigDatabase) (name : String) : Option SettingRow :=
  (Key.ofName name).bind db.setting

/-- The decision on a setting; one which exists is not created again. -/
def previewSetting (db : ConfigDatabase) (mode : CollisionMode)
    (setting : String × Value) : Decision :=
  let existing := getSetting db setting.1
  { operation :=
      { entity := "setting"
        identity := setting.1
        action :=
          if mode = .create ∧ existing.isSome then .skip
          else actionOf existing.isSome mode }
    ref := setting.1
    existing := match existing with
      | none => .absent
      | some row => .setting row.value row.updatedAt }

/-- `sorted(document.settings)`. -/
def sortedSettings (document : ConfigDocument) : List (String × Value) :=
  document.settings.insertionSort fun left right => left.1 ≤ right.1

/-- The decisions by table; the source has them in one sequence. -/
structure Preview where
  storages : List Decision
  profiles : List Decision
  playlists : List Decision
  assignments : List Decision
  settings : List Decision

/-- The decisions in the order of the source. -/
def Preview.all (preview : Preview) : List Decision :=
  preview.storages ++ preview.profiles ++ preview.playlists ++
    preview.assignments ++ preview.settings

/-- The decisions on a document. -/
def decide (db : ConfigDatabase) (document : ConfigDocument)
    (mode : CollisionMode) : Checked Preview := do
  let storages ← document.storages.mapM
    (previewRow storageEntity db.storage mode)
  let profiles ← document.profiles.mapM
    (previewRow profileEntity db.profile mode)
  let playlists ← document.playlists.mapM
    (previewRow (playlistEntity environment) db.playlist mode)
  let resolved := (storages ++ profiles ++ playlists).map Decision.resolved
  return {
    storages, profiles, playlists
    assignments := document.playlistProfiles.map
      (previewAssignment db mode resolved)
    settings := (sortedSettings document).map (previewSetting db mode) }

/-- `ConfigImportPlan`. -/
structure ConfigImportPlan where
  mode : CollisionMode
  operations : List ImportOperation
  fingerprint : String
deriving DecidableEq, Repr

-- The digest of the state which a plan was made for.
variable (digest : List Decision → String)

/-- `preview_config_import`. -/
def previewConfigImport (db : ConfigDatabase) (document : ConfigDocument)
    (mode : CollisionMode) : Checked ConfigImportPlan := do
  let preview ← decide environment db document mode
  return {
    mode
    operations := preview.all.map Decision.operation
    fingerprint := digest preview.all }

/-! ## `apply_config_import` -/

/-- `ConfigImportResult`. -/
structure ConfigImportResult where
  created : Nat := 0
  overwritten : Nat := 0
  skipped : Nat := 0
deriving DecidableEq, Repr

/-- One more of an action. -/
def ConfigImportResult.add (result : ConfigImportResult) :
    Action → ConfigImportResult
  | .create => { result with created := result.created + 1 }
  | .overwrite => { result with overwritten := result.overwritten + 1 }
  | .skip => { result with skipped := result.skipped + 1 }

/-- An `UPDATE`, which is not issued if no column changes. -/
def updateRow {Row : Type} [DecidableEq Row] (table : Table Row) (id : Nat)
    (old new : Row) (stamp : Row → Row) : Table Row :=
  if new = old then table else table.modify id fun _ => stamp new

/-- One turn of the loop over a table, and the id of the row. -/
def importRow {Document Row : Type} [DecidableEq Row]
    (entity : Entity Document Row) (now : Time) (table : Table Row)
    (document : Document) (action : Action) : Checked (Table Row × Nat) := do
  let existing ← oneByName entity table (entity.documentName document)
  match action, existing with
  | .skip, some (id, _) => return (table, id)
  | .overwrite, some (id, row) =>
      let new ← entity.overwrite document row
      return (updateRow table id row new (entity.stamp now), id)
  | .skip, none | .overwrite, none => throw .assertion
  | .create, existing =>
      let row ← entity.create document existing.isSome
      return (table.insert (entity.stamp now row), table.nextKey)

/-- A table with `mapped`, newest first, and the counts. -/
structure Importing (Row : Type) where
  table : Table Row
  mapped : List (String × Nat)
  result : ConfigImportResult

/-- The loop over a table. -/
def importRows {Document Row : Type} [DecidableEq Row]
    (entity : Entity Document Row) (now : Time) :
    Importing Row → List (Document × Decision) → Checked (Importing Row)
  | state, [] => .ok state
  | state, (document, decision) :: rest => do
      let (table, id) ← importRow entity now state.table document
        decision.operation.action
      importRows entity now
        { table
          mapped := (entity.ref document, id) :: state.mapped
          result := state.result.add decision.operation.action } rest

/-- `mapped[ref].id`. -/
def mappedId (mapped : List (String × Nat)) (ref : String) : Checked Nat :=
  match mapped.lookup ref with
  | some id => .ok id
  | none => .error .key

/-- The foreign keys of an assignment. -/
def hasParts (db : ConfigDatabase) (row : PlaylistProfileRow) : Bool :=
  (db.playlist.get row.playlistId).isSome &&
    (db.profile.get row.profileId).isSome &&
    (db.storage.get row.storageId).isSome

/-- One turn of the loop over the assignments. -/
def importAssignment (now : Time) (mapped : List (String × Nat))
    (db : ConfigDatabase) (document : PlaylistProfileConfig)
    (action : Action) : Checked ConfigDatabase := do
  let playlistId ← mappedId mapped document.playlistRef
  let profileId ← mappedId mapped document.profileRef
  let storageId ← mappedId mapped document.storageRef
  let values (updatedAt : Time) : PlaylistProfileRow :=
    { playlistId, profileId, storageId, subpath := document.subpath
      enabled := document.enabled, sortOrder := document.sortOrder
      updatedAt }
  match action, findAssignment db playlistId profileId with
  | .skip, _ => return db
  | .overwrite, none => throw .assertion
  | .overwrite, some (id, row) =>
      if hasParts db (values now) then
        return { db with
          playlistProfile := updateRow db.playlistProfile id row
            (values row.updatedAt) fun _ => values now }
      else throw .integrity
  -- The pair is unique in its table.
  | .create, some _ => throw .integrity
  | .create, none =>
      if hasParts db (values now) then
        return { db with
          playlistProfile := db.playlistProfile.insert (values now) }
      else throw .integrity

/-- The loop over the assignments. -/
def importAssignments (now : Time) (mapped : List (String × Nat)) :
    ConfigDatabase → ConfigImportResult →
    List (PlaylistProfileConfig × Decision) →
      Checked (ConfigDatabase × ConfigImportResult)
  | db, result, [] => .ok (db, result)
  | db, result, (document, decision) :: rest => do
      let db ← importAssignment now mapped db document
        decision.operation.action
      importAssignments now mapped db
        (result.add decision.operation.action) rest

/-- One turn of the loop over the settings. -/
def importSetting (now : Time) (db : ConfigDatabase)
    (setting : String × Value) (action : Action) :
    Checked (ConfigDatabase × Action) :=
  if action = .skip then .ok (db, .skip)
  else
    match Key.ofName setting.1 with
    | none => .error .key
    | some key =>
        match validateOverride environment.settings key setting.2 with
        | .error message => invalid message
        | .ok value =>
            let row : SettingRow :=
              match db.setting key with
              | some old =>
                  if old.value = value then old
                  else { value, updatedAt := now }
              | none => { value, updatedAt := now }
            .ok ({ db with
                setting := Function.update db.setting key (some row) },
              if (db.setting key).isSome then .overwrite else .create)

/-- The loop over the settings. -/
def importSettings (now : Time) :
    ConfigDatabase → ConfigImportResult → List ((String × Value) × Decision) →
      Checked (ConfigDatabase × ConfigImportResult)
  | db, result, [] => .ok (db, result)
  | db, result, (setting, decision) :: rest => do
      let (db, done) ← importSetting environment now db setting
        decision.operation.action
      importSettings now db (result.add done) rest

/-- The loops of `apply_config_import`, with the operations of the preview. -/
def importAll (now : Time) (db : ConfigDatabase) (document : ConfigDocument)
    (preview : Preview) : Checked (ConfigDatabase × ConfigImportResult) := do
  let storages ← importRows storageEntity now ⟨db.storage, [], {}⟩
    (document.storages.zip preview.storages)
  let profiles ← importRows profileEntity now
    ⟨db.profile, storages.mapped, storages.result⟩
    (document.profiles.zip preview.profiles)
  let playlists ← importRows (playlistEntity environment) now
    ⟨db.playlist, profiles.mapped, profiles.result⟩
    (document.playlists.zip preview.playlists)
  let (db, result) ← importAssignments now playlists.mapped
    { db with
      storage := storages.table
      profile := profiles.table
      playlist := playlists.table } playlists.result
    (document.playlistProfiles.zip preview.assignments)
  importSettings environment now db result
    ((sortedSettings document).zip preview.settings)

/-- `apply_config_import`; what it raises leaves the tables as they were. -/
def applyConfigImport (now : Time) (db : ConfigDatabase)
    (document : ConfigDocument) (plan : ConfigImportPlan) :
    Checked (ConfigDatabase × ConfigImportResult) := do
  let current ← decide environment db document plan.mode
  if digest current.all ≠ plan.fingerprint then
    throw (.confirmation "差分確認後にDB状態が変化しました。再確認してください")
  importAll environment now db document current

end Import

end Sluicery.Core.ConfigTransfer
