import Mathlib
import Sluicery.Core.ConfigImported

/-!
# Exports between imports

After every run of accepted imports the configuration is exported, the dump
of the export is loaded, and importing it in skip mode changes nothing, as
long as no import in create mode brings a name which its table already has.
Such an import is accepted, too; the configuration is not exported any more.
-/

namespace Sluicery.Core.ConfigTransfer

open Sluicery.Library Sluicery.Library.Transition Sluicery.Db
open Sluicery.Core.Settings

/-! ## A table which is skipped -/

/-- The decision on the document of a row, in skip mode. -/
def skipDecision {Document Row : Type} (entity : Entity Document Row)
    (document : String → Row → Document) (entry : Nat × String × Row) :
    Decision where
  operation :=
    { entity := entity.label
      identity := entity.rowName entry.2.2
      action := .skip
      note := (entity.note (document entry.2.1 entry.2.2)).toOption.getD "" }
  ref := entry.2.1
  existing := .row entry.1 (entity.updatedAt entry.2.2)

/-- The counts after so many more rows which are skipped. -/
def ConfigImportResult.skip (result : ConfigImportResult) (count : Nat) :
    ConfigImportResult :=
  { result with skipped := result.skipped + count }

section Skipped

variable {Document Row : Type} {entity : Entity Document Row}
    {document : String → Row → Document} {label : String}
    {table : Table Row}

variable (entity document) in
/-- The documents are those of the rows of the entity. -/
structure Describes : Prop where
  ref : ∀ ref row, entity.ref (document ref row) = ref
  name : ∀ ref row, entity.documentName (document ref row) =
    entity.rowName row

theorem previewRow_skip
    (describes : Describes entity document)
    (unique : table.UniqueBy entity.rowName) {entry : Nat × String × Row}
    (found : table.get entry.1 = some entry.2.2)
    (noted : ∃ note, entity.note (document entry.2.1 entry.2.2) = .ok note) :
    previewRow entity table .skip (document entry.2.1 entry.2.2) =
      .ok (skipDecision entity document entry) := by
  rcases noted with ⟨note, isNote⟩
  rw [previewRow, describes.name, oneByName_of_get unique found,
    skipDecision, isNote, describes.ref]
  rfl

/-- Every row of the table is skipped. -/
theorem previewRows_skip
    (describes : Describes entity document)
    (unique : table.UniqueBy entity.rowName)
    (noted : ∀ id ref row, table.get id = some row →
      ∃ note, entity.note (document ref row) = .ok note) :
    (documents label table document).mapM (previewRow entity table .skip) =
      .ok ((withRefs label table).map (skipDecision entity document)) := by
  rw [mapM_eq_ok_iff, documents, List.map_map, List.map_map]
  apply List.map_congr_left
  rintro ⟨id, ref, row⟩ member
  have found := get_of_mem_withRefs member
  exact @previewRow_skip _ _ entity document table describes unique
    (id, ref, row) found (noted id ref row found)

theorem importRows_skip
    [DecidableEq Row] (describes : Describes entity document)
    (unique : table.UniqueBy entity.rowName) (now : Time)
    {entries : List (Nat × String × Row)}
    (found : ∀ entry ∈ entries, table.get entry.1 = some entry.2.2)
    (mapped : List (String × Nat)) (result : ConfigImportResult) :
    importRows entity now ⟨table, mapped, result⟩
        (entries.map fun entry => (document entry.2.1 entry.2.2,
          skipDecision entity document entry)) =
      .ok ⟨table, (entries.map fun entry => (entry.2.1, entry.1)).reverse ++
        mapped, result.skip entries.length⟩ := by
  induction entries generalizing mapped result with
  | nil => rfl
  | cons entry entries induction =>
      rw [List.forall_mem_cons] at found
      have skipped : importRow entity now table
          (document entry.2.1 entry.2.2) .skip = .ok (table, entry.1) := by
        rw [importRow, describes.name, oneByName_of_get unique found.1]
        rfl
      have counted : (result.add .skip).skip entries.length =
          result.skip (entries.length + 1) := by
        rw [ConfigImportResult.skip, ConfigImportResult.skip,
          ConfigImportResult.add, Nat.add_assoc, Nat.add_comm 1]
      rw [List.map_cons, importRows]
      show (importRow entity now table (document entry.2.1 entry.2.2) .skip >>=
        _) = _
      rw [skipped]
      show importRows entity now ⟨table,
        (entity.ref (document entry.2.1 entry.2.2), entry.1) :: mapped,
        result.add .skip⟩ _ = _
      rw [induction found.2, counted, describes.ref, List.map_cons,
        List.reverse_cons, List.append_assoc, List.length_cons]
      rfl

/-- The loop over the documents of a table, in skip mode. -/
theorem importDocuments_skip
    [DecidableEq Row] (describes : Describes entity document)
    (unique : table.UniqueBy entity.rowName) (now : Time)
    (mapped : List (String × Nat)) (result : ConfigImportResult) :
    importRows entity now ⟨table, mapped, result⟩
        ((documents label table document).zip
          ((withRefs label table).map (skipDecision entity document))) =
      .ok ⟨table, ((withRefs label table).map fun entry =>
          (entry.2.1, entry.1)).reverse ++ mapped,
        result.skip table.rows.length⟩ := by
  have lengths : (withRefs label table).length = table.rows.length := by
    rw [withRefs, List.length_map, List.length_zipIdx]
  rw [documents, List.zip_map', ← lengths]
  apply importRows_skip describes unique now
  rintro ⟨id, ref, row⟩ member
  exact get_of_mem_withRefs member

end Skipped

/-! ## Refs of the three tables -/

theorem lookup_of_mem
    {Value : Type} {entries : List (String × Value)}
    (distinct : (entries.map Prod.fst).Nodup) {key : String} {value : Value}
    (member : (key, value) ∈ entries) :
    entries.lookup key = some value := by
  rcases List.append_of_mem member with ⟨before, after, rfl⟩
  rw [List.lookup_eq_some_iff]
  refine ⟨before, after, rfl, ?_⟩
  intro entry isBefore
  rw [bne_iff_ne]
  rintro same
  rw [List.map_append, List.map_cons] at distinct
  have apart := (List.nodup_append.mp distinct).2.2
  exact apart entry.1 (List.mem_map_of_mem isBefore) key List.mem_cons_self
    same.symm

/-- The refs of a table with its ids. -/
def refEntries {Row : Type} (label : String) (table : Table Row) :
    List (String × Nat) :=
  (withRefs label table).map fun entry => (entry.2.1, entry.1)

/-- The refs of all tables. -/
def allRefs (db : ConfigDatabase) : List (String × Nat) :=
  refEntries "storage" db.storage ++ refEntries "profile" db.profile ++
    refEntries "playlist" db.playlist

theorem mem_refEntries
    {Row : Type} {label ref : String} {table : Table Row} {id : Nat}
    (isRef : refOf label table id = .ok ref) :
    (ref, id) ∈ refEntries label table := by
  rcases (refOf_eq_ok_iff _ _ _ _).mp isRef with ⟨row, member⟩
  exact List.mem_map_of_mem
    (f := fun entry : Nat × String × Row => (entry.2.1, entry.1)) member

theorem distinct_refEntries {Row : Type} (label : String)
    (table : Table Row) : ((refEntries label table).map Prod.fst).Nodup := by
  rw [refEntries, List.map_map]
  exact distinct_refs

/-- A ref begins with the label of its table. -/
theorem take_ref
    {Row : Type} {label ref : String} {table : Table Row}
    (long : 3 ≤ label.toList.length)
    (member : ref ∈ (refEntries label table).map Prod.fst) :
    ref.toList.take 3 = label.toList.take 3 := by
  rw [refEntries, List.map_map] at member
  rcases List.mem_map.mp member with ⟨entry, isEntry, rfl⟩
  rcases List.mem_map.mp isEntry with ⟨⟨row, index⟩, -, rfl⟩
  show (label ++ "-" ++ toString index).toList.take 3 = _
  rw [String.toList_append, String.toList_append, List.append_assoc,
    List.take_append_of_le_length long]

theorem distinct_allRefs (db : ConfigDatabase) :
    ((allRefs db).map Prod.fst).Nodup := by
  rw [allRefs, List.map_append, List.map_append, List.nodup_append,
    List.nodup_append]
  refine ⟨⟨distinct_refEntries _ _, distinct_refEntries _ _, ?_⟩,
    distinct_refEntries _ _, ?_⟩
  · rintro ref isStorage other isProfile rfl
    have storage := take_ref (by decide) isStorage
    rw [take_ref (by decide) isProfile] at storage
    exact absurd storage (by decide)
  · rintro ref member other isPlaylist rfl
    have playlist := take_ref (by decide) isPlaylist
    rcases List.mem_append.mp member with isStorage | isProfile
    · rw [take_ref (by decide) isStorage] at playlist
      exact absurd playlist (by decide)
    · rw [take_ref (by decide) isProfile] at playlist
      exact absurd playlist (by decide)

/-- A ref which is exported is found in `mapped`. -/
theorem mappedId_allRefs
    {db : ConfigDatabase} {ref : String} {id : Nat}
    (member : (ref, id) ∈ allRefs db) :
    mappedId (allRefs db).reverse ref = .ok id := by
  have distinct : (((allRefs db).reverse).map Prod.fst).Nodup := by
    rw [List.map_reverse, List.nodup_reverse]
    exact distinct_allRefs db
  rw [mappedId, lookup_of_mem distinct (List.mem_reverse.mpr member)]

/-- A ref which is exported is resolved. -/
theorem resolvedId_allRefs
    {db : ConfigDatabase} {ref : String} {id : Nat}
    (member : (ref, id) ∈ allRefs db) :
    resolvedId ((allRefs db).map fun entry => (entry.1, some entry.2)) ref =
      some id := by
  have distinct : ((((allRefs db).map fun entry =>
      (entry.1, some entry.2)).reverse).map Prod.fst).Nodup := by
    rw [List.map_reverse, List.nodup_reverse, List.map_map]
    exact distinct_allRefs db
  have isEntry : (ref, some id) ∈ ((allRefs db).map fun entry =>
      (entry.1, some entry.2)).reverse :=
    List.mem_reverse.mpr (List.mem_map_of_mem
      (f := fun entry : String × Nat => (entry.1, some entry.2)) member)
  rw [resolvedId, lookup_of_mem distinct isEntry]
  rfl

/-! ## The export is imported in skip mode -/

section Reimport

variable {environment : Environment} {db : ConfigDatabase}

theorem describes_storage : Describes storageEntity storageDocument :=
  ⟨fun _ _ => rfl, fun _ _ => rfl⟩

theorem describes_profile : Describes profileEntity profileDocument :=
  ⟨fun _ _ => rfl, fun _ _ => rfl⟩

theorem describes_playlist :
    Describes (playlistEntity environment) (playlistDocument environment) :=
  ⟨fun _ _ => rfl, fun _ _ => rfl⟩

variable (environment db) in
/-- The decisions on an export in skip mode. -/
def skipPreview : Preview where
  storages := (withRefs "storage" db.storage).map
    (skipDecision storageEntity storageDocument)
  profiles := (withRefs "profile" db.profile).map
    (skipDecision profileEntity profileDocument)
  playlists := (withRefs "playlist" db.playlist).map
    (skipDecision (playlistEntity environment)
      (playlistDocument environment))
  assignments := (configDocument environment db).playlistProfiles.map
    (previewAssignment db .skip
      ((allRefs db).map fun entry => (entry.1, some entry.2)))
  settings := (sortedSettings (configDocument environment db)).map
    (previewSetting db .skip)

theorem decide_configDocument (portable : Portable environment db) :
    decide environment db (configDocument environment db) .skip =
      .ok (skipPreview environment db) := by
  have storages := @previewRows_skip _ _ _ _ "storage" _ describes_storage
    portable.storages.names fun id ref row found => ⟨_, rfl⟩
  have profiles := @previewRows_skip _ _ _ _ "profile" _ describes_profile
    portable.profiles.names fun id ref row found => ⟨_, rfl⟩
  have playlists := @previewRows_skip _ _ _ _ "playlist" _
    (@describes_playlist environment) portable.playlists.names ?_
  · have resolved : ((skipPreview environment db).storages ++
        (skipPreview environment db).profiles ++
        (skipPreview environment db).playlists).map Decision.resolved =
          (allRefs db).map fun entry => (entry.1, some entry.2) := by
      simp only [skipPreview, allRefs, refEntries, List.map_append,
        List.map_map]
      rfl
    rw [decide]
    show ((documents "storage" db.storage storageDocument).mapM
      (previewRow storageEntity db.storage .skip) >>= _) = _
    rw [storages]
    show ((documents "profile" db.profile profileDocument).mapM
      (previewRow profileEntity db.profile .skip) >>= _) = _
    rw [profiles]
    show ((documents "playlist" db.playlist (playlistDocument environment)).mapM
      (previewRow (playlistEntity environment) db.playlist .skip) >>= _) = _
    rw [playlists]
    rw [skipPreview, ← resolved]
    rfl
  · intro id ref row found
    rcases (portable.playlists.rows id row found).policy with
      ⟨policy, isPolicy⟩
    show ∃ note, playlistNote environment
      (playlistDocument environment ref row) = .ok note
    simp only [playlistNote, bind_eq_ok_iff]
    exact ⟨_, policy, isPolicy, rfl⟩

theorem importAssignments_skip
    {now : Time} {mapped : List (String × Nat)}
    {pairs : List (PlaylistProfileConfig × Decision)}
    (skipped : ∀ pair ∈ pairs, pair.2.operation.action = .skip ∧
      importAssignment now mapped db pair.1 .skip = .ok db)
    (result : ConfigImportResult) :
    importAssignments now mapped db result pairs =
      .ok (db, result.skip pairs.length) := by
  induction pairs generalizing result with
  | nil => rfl
  | cons pair pairs induction =>
      rw [List.forall_mem_cons] at skipped
      rw [importAssignments, skipped.1.1, skipped.1.2]
      show importAssignments now mapped db (result.add .skip) pairs = _
      rw [induction skipped.2, List.length_cons, ConfigImportResult.skip,
        ConfigImportResult.skip, ConfigImportResult.add, Nat.add_assoc,
        Nat.add_comm 1]

theorem importSettings_skip
    {now : Time} {pairs : List ((String × Value) × Decision)}
    (skipped : ∀ pair ∈ pairs, pair.2.operation.action = .skip)
    (result : ConfigImportResult) :
    importSettings environment now db result pairs =
      .ok (db, result.skip pairs.length) := by
  induction pairs generalizing result with
  | nil => rfl
  | cons pair pairs induction =>
      rw [List.forall_mem_cons] at skipped
      rw [importSettings, skipped.1]
      show importSettings environment now db (result.add .skip) pairs = _
      rw [induction skipped.2, List.length_cons, ConfigImportResult.skip,
        ConfigImportResult.skip, ConfigImportResult.add, Nat.add_assoc,
        Nat.add_comm 1]

/-- The refs of an assignment are those of its rows. -/
theorem refs_assignmentDocument
    {row : PlaylistProfileRow} (portable : PortableAssignment db row) :
    ((assignmentDocument db row).playlistRef, row.playlistId) ∈ allRefs db ∧
      ((assignmentDocument db row).profileRef, row.profileId) ∈ allRefs db ∧
      ((assignmentDocument db row).storageRef, row.storageId) ∈
        allRefs db := by
  rcases (refOf_isOk_iff "playlist" _ _).mpr portable.playlist with
    ⟨playlistRef, isPlaylist⟩
  rcases (refOf_isOk_iff "profile" _ _).mpr portable.profile with
    ⟨profileRef, isProfile⟩
  rcases (refOf_isOk_iff "storage" _ _).mpr portable.storage with
    ⟨storageRef, isStorage⟩
  rw [assignmentDocument, isPlaylist, isProfile, isStorage, allRefs]
  refine ⟨?_, ?_, ?_⟩
  · exact List.mem_append_right _ (mem_refEntries isPlaylist)
  · exact List.mem_append_left _
      (List.mem_append_right _ (mem_refEntries isProfile))
  · exact List.mem_append_left _
      (List.mem_append_left _ (mem_refEntries isStorage))

/-- An exported assignment is found again, and skipped. -/
theorem assignment_skip
    (portable : Portable environment db) (now : Time) {id : Nat}
    {row : PlaylistProfileRow} (found : db.playlistProfile.get id = some row) :
    (previewAssignment db .skip
        ((allRefs db).map fun entry => (entry.1, some entry.2))
        (assignmentDocument db row)).operation.action = .skip ∧
      importAssignment now (allRefs db).reverse db
        (assignmentDocument db row) .skip = .ok db := by
  rcases refs_assignmentDocument (portable.assignments id row found) with
    ⟨playlist, profile, storage⟩
  constructor
  · have present : findAssignment db row.playlistId row.profileId ≠ none := by
      intro missing
      exact findAssignment_eq_none_iff.mp missing id row found rfl
    rcases Option.ne_none_iff_exists'.mp present with ⟨existing, isExisting⟩
    rw [previewAssignment, resolvedId_allRefs playlist,
      resolvedId_allRefs profile]
    show actionOf (findAssignment db row.playlistId
      row.profileId).isSome .skip = .skip
    rw [isExisting]
    rfl
  · rw [importAssignment, mappedId_allRefs playlist,
      mappedId_allRefs profile, mappedId_allRefs storage]
    rfl

/-- An exported setting is stored, and skipped. -/
theorem setting_skip
    {setting : String × Value}
    (member : setting ∈ sortedSettings (configDocument environment db)) :
    (previewSetting db .skip setting).operation.action = .skip := by
  have isSetting : setting ∈ (configDocument environment db).settings :=
    (List.perm_insertionSort _ _).mem_iff.mp member
  rcases List.mem_filterMap.mp isSetting with ⟨key, -, exported⟩
  simp only [exportedSetting] at exported
  split at exported
  · cases exported
  · split at exported
    · next row value found isValue =>
        cases exported
        have stored : getSetting db key.name = some row := by
          rw [getSetting, ofName_name]
          exact found
        rw [previewSetting, stored]
        rfl
    · cases exported

/-- The import of an export in skip mode changes nothing. -/
theorem importAll_configDocument
    (portable : Portable environment db) (now : Time) :
    ∃ result, importAll environment now db (configDocument environment db)
        (skipPreview environment db) = .ok (db, result) ∧
      result.created = 0 ∧ result.overwritten = 0 := by
  have assignments : (configDocument environment db).playlistProfiles.zip
      (skipPreview environment db).assignments =
        db.playlistProfile.rows.map fun entry =>
          (assignmentDocument db entry.2, previewAssignment db .skip
            ((allRefs db).map fun entry => (entry.1, some entry.2))
            (assignmentDocument db entry.2)) := by
    rw [skipPreview, configDocument, List.map_map]
    exact List.zip_map'
  have assignmentsSkipped : ∀ pair ∈
      (configDocument environment db).playlistProfiles.zip
        (skipPreview environment db).assignments,
      pair.2.operation.action = .skip ∧
        importAssignment now (allRefs db).reverse db pair.1 .skip =
          .ok db := by
    rw [assignments]
    intro pair member
    rcases List.mem_map.mp member with ⟨⟨id, row⟩, isRow, rfl⟩
    exact assignment_skip portable now
      ((Table.get_eq_some_iff _ _ _).mpr isRow)
  have settingsSkipped : ∀ pair ∈
      (sortedSettings (configDocument environment db)).zip
        (skipPreview environment db).settings,
      pair.2.operation.action = .skip := by
    rintro ⟨setting, decision⟩ member
    rcases List.mem_map.mp (List.of_mem_zip member).2 with
      ⟨other, isOther, rfl⟩
    exact setting_skip isOther
  have mapped : (refEntries "playlist" db.playlist).reverse ++
      ((refEntries "profile" db.profile).reverse ++
        ((refEntries "storage" db.storage).reverse ++ [])) =
      (allRefs db).reverse := by
    rw [allRefs, List.reverse_append, List.reverse_append, List.append_nil]
  have assigned := importAssignments_skip assignmentsSkipped
    (((({} : ConfigImportResult).skip db.storage.rows.length).skip
      db.profile.rows.length).skip db.playlist.rows.length)
  rw [← mapped] at assigned
  simp only [importAll, bind_eq_ok_iff]
  refine ⟨_, ⟨_, importDocuments_skip describes_storage
      portable.storages.names now [] {}, _,
    importDocuments_skip describes_profile portable.profiles.names now _ _, _,
    importDocuments_skip describes_playlist portable.playlists.names now _ _,
    (db, _), assigned, importSettings_skip settingsSkipped _⟩, rfl, rfl⟩

/-! ## Runs of imports -/

variable (environment) in
/-- A call of `apply_config_import` with a loaded document. -/
structure ImportCall where
  document : ConfigDocument
  plan : ConfigImportPlan
  now : Time
  valid : checkDocument environment.splitUrl environment.settings.parseInt
    document = .ok ()

variable {digest : List Decision → String}

variable (environment digest) in
/-- An accepted import; a rejected one changes nothing. -/
def importStep (db : ConfigDatabase) (call : ImportCall environment) :
    Option ConfigDatabase :=
  match applyConfigImport environment digest call.now db call.document
      call.plan with
  | .ok (next, _) => some next
  | .error _ => none

variable (environment) in
/-- An import in create mode brings no name which its table has. -/
def KeepsNamesApart (db : ConfigDatabase) (call : ImportCall environment) :
    Prop :=
  call.plan.mode = .create → Fresh environment db call.document

theorem importStep_portable
    {next : ConfigDatabase} {call : ImportCall environment}
    (taken : importStep environment digest db call = some next)
    (apart : KeepsNamesApart environment db call)
    (held : Portable environment db ∧ ValidOverrides environment db) :
    Portable environment next ∧ ValidOverrides environment next := by
  rw [importStep] at taken
  split at taken
  · next found result applied =>
      cases taken
      rw [applyConfigImport, bind_eq_ok_iff] at applied
      rcases applied with ⟨current, decided, rest⟩
      split at rest
      · cases rest
      · exact importAll_portable call.valid decided rest apart held.1 held.2
  · cases taken

/-- After every run of imports which keep names apart, the configuration is
exported unless a table is too large, a dump of at most 1 MiB is loaded, and
the import in skip mode is accepted and changes nothing. -/
theorem export_after_imports
    (placeholder : isPortableUrl environment.splitUrl placeholderUrl = true)
    {first : ConfigDatabase}
    (exportable : ∃ document, exportConfig environment first = .ok document)
    (overrides : ValidOverrides environment first)
    (steps : Steps (importStep environment digest)
      (KeepsNamesApart environment) first db)
    (few : Few db) :
    ∃ document, exportConfig environment db = .ok document ∧
      (InverseOn environment document →
        (environment.dump document).size ≤ 1024 * 1024 →
          loadConfigYaml environment (environment.dump document) =
            .ok document) ∧
      ∀ now, ∃ plan result,
        previewConfigImport environment digest db document .skip = .ok plan ∧
        applyConfigImport environment digest now db document plan =
          .ok (db, result) ∧
        result.created = 0 ∧ result.overwritten = 0 := by
  rcases exportable with ⟨document, exported⟩
  have initially := ((exportConfig_eq_ok_iff placeholder).mp exported).1
  have held := steps.invariant
    (fun db => Portable environment db ∧ ValidOverrides environment db)
    ⟨initially, overrides⟩
    (fun db call next held apart taken =>
      importStep_portable taken apart held)
  refine ⟨configDocument environment db,
    (exportConfig_eq_ok_iff placeholder).mpr ⟨held.1, few, rfl⟩, ?_, ?_⟩
  · intro inverse small
    exact loadConfigYaml_dump placeholder held.1 few held.2 inverse small
  · intro now
    rcases importAll_configDocument held.1 now with
      ⟨result, imported, created, overwritten⟩
    refine ⟨
      { mode := .skip
        operations := (skipPreview environment db).all.map Decision.operation
        fingerprint := digest (skipPreview environment db).all },
      result, ?_, ?_, created, overwritten⟩
    · rw [previewConfigImport, decide_configDocument held.1]
      rfl
    · rw [applyConfigImport]
      show (decide environment db (configDocument environment db) .skip >>=
        _) = _
      rw [decide_configDocument held.1]
      show (if digest (skipPreview environment db).all ≠
          digest (skipPreview environment db).all then _
        else importAll environment now db (configDocument environment db)
          (skipPreview environment db)) = _
      rw [if_neg (not_not_intro rfl)]
      exact imported

end Reimport

/-! ## Two imports -/

/-- The YAML of a configuration with one Profile. -/
@[irreducible]
def videoYaml : ByteArray :=
  ("version: 1\nstorages: []\nprofiles:\n- ref: profile-1\n  name: video\n" ++
    "  description: null\n  kind: video\n  ytdlp_args: null\n" ++
    "  format_selector: null\n  output_template: null\n" ++
    "  layout_strategy: flat\n  audio_extract: null\n" ++
    "  audio_format: null\n  audio_quality: null\n  container: null\n" ++
    "  embed_metadata: null\n  embed_thumbnail: null\n" ++
    "  embed_chapters: null\n  subtitle_langs: null\n" ++
    "  subtitle_auto: null\n  subtitle_embed: null\n" ++
    "  expert_mode: false\n  allow_exec: false\n" ++
    "  concurrent_fragments: null\n  postprocess_chain: null\n" ++
    "  requires_secret_reentry: false\n" ++
    "playlists: []\nplaylist_profiles: []\nsettings: \x7b\x7d\n").toUTF8

def videoDocument : ConfigDocument where
  storages := []
  profiles := [{ ref := "profile-1", name := "video", kind := .video }]
  playlists := []
  playlistProfiles := []
  settings := []
  distinct := List.nodup_nil

/-- What is outside, for the one document. -/
def videoEnvironment : Environment where
  settings :=
    { parseInt := fun _ => none
      parseFloat := fun _ => none
      floatOfInt := fun value => some value
      strOf := fun _ => ""
      jsonLoads := fun _ => none
      triple := fun value => some (3 * value)
      validateSourceUrl := fun _ => .ok ()
      validCrontab := fun _ => true
      validateCronExpression := fun _ => .ok ()
      parseDownloadWindow := fun _ => .ok () }
  splitUrl url :=
    if url = placeholderUrl then
      some
        { scheme := "https", hostname := some "invalid.local"
          username := none, password := none, fragment := ""
          queryKeys := [] }
    else none
  dump _ := videoYaml
  findsAlias _ := some false
  parse encoded := if encoded = videoYaml then some videoDocument else none

def refsDigest (decisions : List Decision) : String :=
  String.join (decisions.map Decision.ref)

/-- The Profile is imported in create mode. -/
def createVideo (now : Time) : ImportCall videoEnvironment where
  document := videoDocument
  plan :=
    { mode := .create
      operations :=
        [{ entity := "Profile", identity := "video", action := .create }]
      fingerprint := "profile-1" }
  now
  valid := by rfl

/-- The Profile which the import stores. -/
def videoProfile (now : Time) : Profile :=
  { name := "video", kind := .video, updatedAt := now }

/-- The configuration after the import. -/
def videoImported : ConfigDatabase :=
  { profile := Table.empty.insert (videoProfile 1) }

/-- The configuration after the same import again. -/
def videoImportedTwice : ConfigDatabase :=
  { profile := (Table.empty.insert (videoProfile 1)).insert (videoProfile 2) }

theorem import_video :
    importStep videoEnvironment refsDigest {} (createVideo 1) =
      some videoImported := by
  rfl

theorem import_video_again :
    importStep videoEnvironment refsDigest videoImported (createVideo 2) =
      some videoImportedTwice := by
  rfl

theorem placeholder_isPortable :
    isPortableUrl videoEnvironment.splitUrl placeholderUrl = true := by
  decide +kernel

theorem exportConfig_empty :
    ∃ document, exportConfig videoEnvironment {} = .ok document :=
  ⟨_, rfl⟩

theorem exportConfig_videoImported :
    exportConfig videoEnvironment videoImported = .ok videoDocument := by
  rfl

theorem inverseOn_videoDocument :
    InverseOn videoEnvironment videoDocument := by
  constructor
  · show videoYaml.size ≠ 0
    decide +kernel
  · rfl
  · exact if_pos rfl

/-- One import; its export is loaded and imported again. -/
theorem export_after_video :
    exportConfig videoEnvironment videoImported = .ok videoDocument ∧
      loadConfigYaml videoEnvironment videoYaml = .ok videoDocument ∧
      ∃ plan result, previewConfigImport videoEnvironment refsDigest
          videoImported videoDocument .skip = .ok plan ∧
        applyConfigImport videoEnvironment refsDigest 2 videoImported
          videoDocument plan = .ok (videoImported, result) := by
  have steps : Steps (importStep videoEnvironment refsDigest)
      (KeepsNamesApart videoEnvironment) {} videoImported := by
    have apart : KeepsNamesApart videoEnvironment {} (createVideo 1) := by
      intro create
      constructor
      · intro document member id row found
        cases found
      · intro document member id row found
        cases found
      · intro document member id row found
        cases found
    exact .single apart import_video
  have few : Few videoImported := by
    constructor <;> decide
  rcases export_after_imports placeholder_isPortable exportConfig_empty
    (fun key row exportable found => nomatch found) steps few with
    ⟨document, exported, loads, reimports⟩
  rw [exportConfig_videoImported] at exported
  cases exported
  rcases reimports 2 with ⟨plan, result, previewed, applied, -⟩
  exact ⟨exportConfig_videoImported,
    loads inverseOn_videoDocument (by decide +kernel), plan, result,
    previewed, applied⟩

/-- A document which is imported twice in create mode ends the exports. -/
theorem not_export_after_creates :
    ∃ first db, (∃ document, exportConfig videoEnvironment first =
        .ok document) ∧
      Steps (importStep videoEnvironment refsDigest) (fun _ _ => True)
        first db ∧
      exportConfig videoEnvironment db =
        .error (.value "Profile名が文書内で重複しています") ∧
      ∀ mode, previewConfigImport videoEnvironment refsDigest db
        videoDocument mode =
          .error (.transfer
            "既存DBに同名videoが複数あり衝突を解決できません") := by
  refine ⟨{}, videoImportedTwice, exportConfig_empty, ?_, rfl, ?_⟩
  · exact (Steps.single trivial import_video).trans
      (Steps.single trivial import_video_again)
  · intro mode
    rfl

end Sluicery.Core.ConfigTransfer
