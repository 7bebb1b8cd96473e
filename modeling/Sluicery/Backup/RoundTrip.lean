import Sluicery.Backup.Archived
import Sluicery.Backup.Rejection

/-!
# Restoring what was backed up

An archive which `create_backup` returned can be restored unless a name in it
has a backslash, its manifest takes it over the limit, or the file system
cannot hold what is written.  `restore_createBackup` says what is there
afterwards.
-/

namespace Sluicery.Backup

open Sluicery.Library Sluicery.Library.FileTree Sluicery.Library.Raising

/-! ## What is archived -/

/-- The log files of an archive. -/
def archivedLogs (request : Request) (logs : Location) : List StagedFile :=
  if request.includeLogs && logs.exists then treeFiles logs.tree else []

theorem compatible_archivedLogs (request : Request) (logs : Location) :
    Compatible (archivedLogs request logs) := by
  rw [archivedLogs]
  split
  · exact compatible_treeFiles logs.tree
  · constructor
    · exact List.nodup_nil
    · exact fun _ impossible => absurd impossible List.not_mem_nil
    · exact fun _ impossible => absurd impossible List.not_mem_nil
    · exact fun _ impossible => absurd impossible List.not_mem_nil

/-- A file below the directory of its kind. -/
def below (kind : String) (file : StagedFile) : StagedFile :=
  (kind :: file.1, file.2)

/-- Where the files are staged. -/
def placed (snapshot : ByteArray) (config logs : List StagedFile) :
    List StagedFile :=
  (["database", "sluicery.db"], snapshot) ::
    (config.map (below "config") ++ logs.map (below "logs"))

theorem mem_placed_iff
    {snapshot : ByteArray} {config logs : List StagedFile}
    {file : StagedFile} :
    file ∈ placed snapshot config logs ↔
      file = (["database", "sluicery.db"], snapshot) ∨
        (∃ other ∈ config, file = below "config" other) ∨
        ∃ other ∈ logs, file = below "logs" other := by
  rw [placed, List.mem_cons, List.mem_append, List.mem_map, List.mem_map]
  simp only [eq_comm]

theorem below_eq_below_iff {kind otherKind : String}
    {file other : StagedFile} :
    below kind file = below otherKind other ↔
      kind = otherKind ∧ file = other := by
  rw [below, below, Prod.mk.injEq, List.cons.injEq, and_assoc,
    Prod.ext_iff]

/-- The files of one kind are those of its tree. -/
theorem below_mem_placed_iff
    {snapshot : ByteArray} {config logs : List StagedFile} {kind : String}
    (notDatabase : kind ≠ "database") (file : StagedFile) :
    below kind file ∈ placed snapshot config logs ↔
      (kind = "config" ∧ file ∈ config) ∨ (kind = "logs" ∧ file ∈ logs) := by
  rw [mem_placed_iff]
  simp only [below_eq_below_iff]
  constructor
  · rintro (isDatabase | ⟨other, member, isKind, rfl⟩ |
      ⟨other, member, isKind, rfl⟩)
    · exact absurd (List.cons.inj (Prod.ext_iff.mp isDatabase).1).1
        notDatabase
    · exact Or.inl ⟨isKind, member⟩
    · exact Or.inr ⟨isKind, member⟩
  · rintro (⟨isKind, member⟩ | ⟨isKind, member⟩)
    · exact Or.inr (Or.inl ⟨file, member, isKind, rfl⟩)
    · exact Or.inr (Or.inr ⟨file, member, isKind, rfl⟩)

/-- What is above a file below a directory. -/
theorem above_below_iff {kind : String} {path other : Path}
    (notRoot : path ≠ []) :
    Above (kind :: path) (kind :: other) ↔ Above path other := by
  rw [Above, Above, List.prefix_cons_inj, ne_eq, ne_eq, List.cons.injEq,
    and_iff_right rfl]
  exact ⟨fun all => ⟨notRoot, all.2⟩,
    fun all => ⟨List.cons_ne_nil _ _, all.2⟩⟩

/-- Nothing is above a path which begins with another name. -/
theorem not_above_of_head_ne {kind otherKind : String} {path other : Path}
    (different : kind ≠ otherKind) :
    ¬ Above (kind :: path) (otherKind :: other) := by
  rintro ⟨-, before, -⟩
  exact different (List.cons_prefix_cons.mp before).1

theorem compatible_placed
    {snapshot : ByteArray} {config logs : List StagedFile}
    (compatibleConfig : Compatible config)
    (compatibleLogs : Compatible logs) :
    Compatible (placed snapshot config logs) := by
  have isDatabase : ∀ name ∈ (["database", "sluicery.db"] : Path),
      isName name = true := by decide
  constructor
  · rw [placed, List.map_cons, List.nodup_cons, List.map_append,
      List.nodup_append, List.map_map, List.map_map]
    refine ⟨?_, ?_, ?_, ?_⟩
    · simp [below]
    · exact List.Nodup.of_map
        List.tail (by simpa [below, Function.comp_def] using
          compatibleConfig.distinct)
    · exact List.Nodup.of_map
        List.tail (by simpa [below, Function.comp_def] using
          compatibleLogs.distinct)
    · intro path inConfig other inLogs same
      rcases List.mem_map.mp inConfig with ⟨_, -, rfl⟩
      rcases List.mem_map.mp inLogs with ⟨_, -, rfl⟩
      exact absurd (List.cons.inj same).1 (by decide)
  · intro file member other isOther
    rcases mem_placed_iff.mp member with
      rfl | ⟨first, isFirst, rfl⟩ | ⟨first, isFirst, rfl⟩
    all_goals
      rcases mem_placed_iff.mp isOther with
        rfl | ⟨second, isSecond, rfl⟩ | ⟨second, isSecond, rfl⟩
    · exact fun above => above.2.2 rfl
    · exact not_above_of_head_ne (by decide)
    · exact not_above_of_head_ne (by decide)
    · exact not_above_of_head_ne (by decide)
    · rw [below, below, above_below_iff
        (compatibleConfig.notRoot first isFirst)]
      exact compatibleConfig.leaves first isFirst second isSecond
    · exact not_above_of_head_ne (by decide)
    · exact not_above_of_head_ne (by decide)
    · exact not_above_of_head_ne (by decide)
    · rw [below, below, above_below_iff
        (compatibleLogs.notRoot first isFirst)]
      exact compatibleLogs.leaves first isFirst second isSecond
  · intro file member
    rcases mem_placed_iff.mp member with
      rfl | ⟨first, isFirst, rfl⟩ | ⟨first, isFirst, rfl⟩
    · exact List.cons_ne_nil _ _
    · exact List.cons_ne_nil _ _
    · exact List.cons_ne_nil _ _
  · intro file member name isName
    rcases mem_placed_iff.mp member with
      rfl | ⟨first, isFirst, rfl⟩ | ⟨first, isFirst, rfl⟩
    · exact isDatabase name isName
    · rcases List.mem_cons.mp isName with rfl | isBelow
      · decide
      · exact compatibleConfig.named first isFirst name isBelow
    · rcases List.mem_cons.mp isName with rfl | isBelow
      · decide
      · exact compatibleLogs.named first isFirst name isBelow

/-! ## What was created -/

section Created

variable {Content : Type} (environment : Environment Content)
  (database : DatabaseEntry Content) (config logs : Location)
  (request : Request)

/-- What holds where `create_backup` has returned. -/
structure Created (result : BackupResult) (members : List Member)
    (content : Content) (snapshot : ByteArray) (files : List ArchiveFile) :
    Prop where
  valid : environment.crypto.validKey request.secretKey = true
  isDatabase : database = .file (some content)
  isSnapshot : environment.sqlite.snapshot content = some snapshot
  intact : validateDatabase environment.sqlite snapshot = .ok ()
  fingerprint : ∃ recorded,
    environment.sqlite.fingerprint content = some recorded ∧
      ∀ text, recorded = some text →
        text = environment.crypto.secretKeyFingerprint request.secretKey
  perm : files.Perm ((placed snapshot (treeFiles config.tree)
    (archivedLogs request logs)).map (partOf environment.crypto))
  size : (manifestBytes environment.crypto request files).size ≤
    maxManifestBytes
  isArchive : members =
    archiveMembers (manifestBytes environment.crypto request files) files
  fileCount : result.fileCount = files.length

/-- The files of a tree, by where they are staged. -/
theorem map_archiveFile {crypto : Crypto} {kind : String}
    {files : List StagedFile} (compatible : Compatible files) :
    (files.map fun file => archiveFile crypto kind file.1 file.2) =
      (files.map (below kind)).map (partOf crypto) := by
  rw [List.map_map]
  exact List.map_congr_left fun file member =>
    archiveFile_eq_partOf (compatible.notRoot file member)

theorem partOf_database (crypto : Crypto) (snapshot : ByteArray) :
    partOf crypto (["database", "sluicery.db"], snapshot) =
      { path := databaseName, content := snapshot
        sha256 := (crypto.sha256 snapshot).text } := by
  rw [partOf, asPosix_memberPath (List.cons_ne_nil _ _)]
  rfl

theorem created_of_createBackup {output : Location}
    {result : BackupResult} {members : List Member}
    (ok : createBackup environment database config logs output request =
      .ok (result, members)) :
    ∃ content snapshot files, Created environment database config logs
      request result members content snapshot files := by
  unfold createBackup at ok
  dsimp only at ok
  rw [ite_error_bind_eq_ok_iff, ite_error_bind_eq_ok_iff,
    check_bind_eq_ok_iff, bind_eq_ok_iff] at ok
  rcases ok with ⟨valid, -, -, recorded, isRecorded, ok⟩
  rw [ite_error_bind_eq_ok_iff, bind_eq_ok_iff] at ok
  rcases ok with ⟨matched, snapshot, isSnapshot, ok⟩
  rw [bind_eq_ok_iff] at ok
  rcases ok with ⟨configFiles, isConfig, ok⟩
  rw [ite_bind_eq_ok_iff] at ok
  rcases ok with ⟨logFiles, isLogs, ok⟩
  rw [ite_error_bind_eq_ok_iff, ite_error_bind_eq_ok_iff] at ok
  rcases ok with ⟨-, size, ⟨⟩⟩
  have isLogFiles : logFiles = (archivedLogs request logs).map fun file =>
      archiveFile environment.crypto "logs" file.1 file.2 := by
    rw [archivedLogs]
    split at isLogs
    · next included =>
        rw [if_pos included]
        exact eq_of_safeTreeFiles isLogs
    · next notIncluded =>
        rw [if_neg notIncluded]
        cases isLogs
        rfl
  have parts : (archiveFiles environment.crypto snapshot configFiles
      logFiles).Perm ((placed snapshot (treeFiles config.tree)
        (archivedLogs request logs)).map (partOf environment.crypto)) := by
    refine (List.perm_insertionSort _ _).trans ?_
    rw [isLogFiles, eq_of_safeTreeFiles isConfig,
      map_archiveFile (compatible_treeFiles config.tree),
      map_archiveFile (compatible_archivedLogs request logs), placed,
      List.map_cons, List.map_append, partOf_database]
    exact List.Perm.refl _
  cases database with
  | absent => cases isSnapshot
  | other content => cases isSnapshot
  | file found =>
      cases found with
      | none => cases isSnapshot
      | some content =>
          have taken : environment.sqlite.snapshot content = some snapshot ∧
              validateDatabase environment.sqlite snapshot = .ok () := by
            rw [snapshotDatabase, Option.bind_some] at isSnapshot
            split at isSnapshot
            · cases isSnapshot
            · next file isFile =>
                cases passed : validateDatabase environment.sqlite file with
                | error failure =>
                    rw [passed] at isSnapshot
                    cases isSnapshot
                | ok value =>
                    rw [passed] at isSnapshot
                    cases isSnapshot
                    exact ⟨isFile, passed⟩
          have fingerprint : environment.sqlite.fingerprint content =
              some recorded := by
            rw [databaseFingerprint] at isRecorded
            dsimp only at isRecorded
            rw [Option.bind_some] at isRecorded
            split at isRecorded
            · next found isFound =>
                cases isRecorded
                exact isFound
            · cases isRecorded
          refine ⟨content, snapshot, _, ?_, rfl, taken.1, taken.2,
            ⟨recorded, fingerprint, ?_⟩, parts, not_lt.mp size, rfl, rfl⟩
          · rw [← Bool.not_eq_false]
            exact valid
          · rintro text rfl
            rw [Option.any_some, bne_iff_ne, not_not] at matched
            exact matched

end Created

/-! ## Reading it back -/

/-- The directories of the kinds. -/
theorem kind_of_mem_placed
    {snapshot : ByteArray} {config logs : List StagedFile}
    (compatibleConfig : Compatible config)
    (compatibleLogs : Compatible logs) {place : StagedFile}
    (member : place ∈ placed snapshot config logs) :
    place.1 = ["database", "sluicery.db"] ∨
      2 ≤ place.1.length ∧
        (place.1.head? = some "config" ∨ place.1.head? = some "logs") := by
  rcases mem_placed_iff.mp member with
    rfl | ⟨file, isFile, rfl⟩ | ⟨file, isFile, rfl⟩
  · exact Or.inl rfl
  · have positive := List.length_pos_iff.mpr
      (compatibleConfig.notRoot file isFile)
    refine Or.inr ⟨?_, Or.inl rfl⟩
    rw [below, List.length_cons]
    omega
  · have positive := List.length_pos_iff.mpr
      (compatibleLogs.notRoot file isFile)
    refine Or.inr ⟨?_, Or.inr rfl⟩
    rw [below, List.length_cons]
    omega

theorem asPosix_manifestName :
    (memberPath ["manifest.json"]).asPosix = manifestName := by
  decide

theorem asPosix_databaseName :
    (memberPath ["database", "sluicery.db"]).asPosix = databaseName := by
  decide

/-- The name of a place is accepted if it has no backslash. -/
theorem isMemberName_iff {path : Path}
    (named : ∀ name ∈ path, isName name = true) (notRoot : path ≠ [])
    (kind : path = ["database", "sluicery.db"] ∨ 2 ≤ path.length ∧
      (path.head? = some "config" ∨ path.head? = some "logs")) :
    IsMemberName (memberPath path).asPosix ↔
      ∀ name ∈ path, '\\' ∉ name.toList := by
  have isPath := ofString_memberPath named
  constructor
  · intro isMemberName name member backslash
    exact isMemberName.noBackslash
      ((backslash_mem_asPosix_iff notRoot).mpr ⟨name, member, backslash⟩)
  · intro noBackslash
    constructor
    · rw [backslash_mem_asPosix_iff notRoot]
      rintro ⟨name, member, backslash⟩
      exact noBackslash name member backslash
    · rw [isPath]
      rfl
    · rw [isPath]
      intro isParent
      have impossible := named ".." isParent
      revert impossible
      decide
    · rw [isPath]
    · rw [isPath]
      rcases kind with rfl | isTree
      · exact Or.inr (Or.inl asPosix_databaseName)
      · exact Or.inr (Or.inr isTree)

theorem isMemberName_manifestName : IsMemberName manifestName := by
  have named : ∀ name ∈ (["manifest.json"] : Path), isName name = true := by
    decide
  have path := ofString_memberPath named
  rw [asPosix_manifestName] at path
  constructor
  · decide
  · rw [path]
    rfl
  · rw [path]
    decide
  · rw [path]
    exact asPosix_manifestName
  · exact Or.inl rfl

theorem expectedPaths_eq (files : List ArchiveFile) :
    (files.map expectedOf).map Expected.path =
      files.map ArchiveFile.path := by
  rw [List.map_map]
  rfl

section Reading

variable {Content : Type} {environment : Environment Content}
  {database : DatabaseEntry Content} {config logs : Location}
  {request : Request} {result : BackupResult} {members : List Member}
  {content : Content} {snapshot : ByteArray} {files : List ArchiveFile}

/-- Where the files of an archive are staged. -/
def places (config logs : Location) (request : Request)
    (snapshot : ByteArray) : List StagedFile :=
  placed snapshot (treeFiles config.tree) (archivedLogs request logs)

theorem compatible_places (config logs : Location) (request : Request)
    (snapshot : ByteArray) :
    Compatible (places config logs request snapshot) :=
  compatible_placed (compatible_treeFiles config.tree)
    (compatible_archivedLogs request logs)

theorem placeOf_partOf {crypto : Crypto} {place : StagedFile}
    (named : ∀ name ∈ place.1, isName name = true) :
    placeOf (partOf crypto place) = place := by
  rw [placeOf, partOf, ofString_memberPath named]
  rfl

theorem isMemberName_partOf (crypto : Crypto) {place : StagedFile}
    (isPlace : place ∈ places config logs request snapshot) :
    IsMemberName (partOf crypto place).path ↔
      ∀ name ∈ place.1, '\\' ∉ name.toList := by
  have compatible := compatible_places config logs request snapshot
  exact isMemberName_iff (compatible.named place isPlace)
    (compatible.notRoot place isPlace)
    (kind_of_mem_placed (compatible_treeFiles config.tree)
      (compatible_archivedLogs request logs) isPlace)

/-- The archive can be read. -/
structure Readable (environment : Environment Content)
    (config logs : Location) (request : Request) (snapshot : ByteArray)
    (members : List Member) : Prop where
  names : ∀ place ∈ places config logs request snapshot,
    ∀ name ∈ place.1, '\\' ∉ name.toList
  total : (members.map Member.size).sum ≤ maxArchiveUncompressedBytes
  holds : ∀ place ∈ places config logs request snapshot,
    (environment.disk .staging).holds place.1 = true

/-- The manifest which is read. -/
def manifestOf (environment : Environment Content) (request : Request)
    (files : List ArchiveFile) : Manifest where
  fingerprint := environment.crypto.secretKeyFingerprint request.secretKey
  includesLogs := request.includeLogs
  files := files.map sortedEntry

namespace Created

variable (created : Created environment database config logs request result
  members content snapshot files)

include created

theorem mem_iff {file : ArchiveFile} :
    file ∈ files ↔ ∃ place ∈ places config logs request snapshot,
      file = partOf environment.crypto place := by
  rw [created.perm.mem_iff, List.mem_map]
  simp only [eq_comm, places]

theorem perm_places :
    (files.map placeOf).Perm (places config logs request snapshot) := by
  have perm := created.perm.map placeOf
  rw [List.map_map] at perm
  have same : (places config logs request snapshot).map
      (placeOf ∘ partOf environment.crypto) =
        places config logs request snapshot := by
    conv_rhs => rw [← List.map_id (places config logs request snapshot)]
    exact List.map_congr_left fun place member => placeOf_partOf
      ((compatible_places config logs request snapshot).named place member)
  exact perm.trans (List.Perm.of_eq same)

theorem compatible : Compatible (files.map placeOf) :=
  (compatible_places config logs request snapshot).perm
    created.perm_places.symm

theorem distinct : (files.map ArchiveFile.path).Nodup := by
  have places := created.compatible.distinct
  rw [List.map_map] at places
  apply List.Nodup.of_map fun path => (PurePosixPath.ofString path).parts
  rw [List.map_map]
  exact places

theorem length_le : files.length + 1 ≤ maxArchiveMembers := by
  have entries := length_le_manifestBytes environment.crypto request files
    fun file member => by
      rcases created.mem_iff.mp member with ⟨place, -, rfl⟩
      exact (environment.crypto.sha256 place.2).isHex
  have size := created.size
  rw [maxManifestBytes] at size
  rw [maxArchiveMembers]
  omega

theorem manifestName_ne {file : ArchiveFile} (member : file ∈ files) :
    file.path ≠ manifestName := by
  rcases created.mem_iff.mp member with ⟨place, isPlace, rfl⟩
  have compatible := compatible_places config logs request snapshot
  intro same
  have isManifest : ∀ name ∈ (["manifest.json"] : Path),
      isName name = true := by decide
  have paths := memberPath_injective (compatible.named place isPlace)
    isManifest (same.trans asPosix_manifestName.symm)
  rcases kind_of_mem_placed (compatible_treeFiles config.tree)
    (compatible_archivedLogs request logs) isPlace with isDatabase | isTree
  · rw [paths] at isDatabase
    exact absurd isDatabase (by decide)
  · rw [paths] at isTree
    have short := isTree.1
    rw [List.length_singleton] at short
    omega

theorem byName_eq {file : ArchiveFile} (member : file ∈ files) :
    byName members file.path = some (memberOf file) := by
  have found : files.find? (fun other => other.path == file.path) =
      some file := by
    cases isFound : files.find? fun other => other.path == file.path with
    | none =>
        have missing := List.find?_eq_none.mp isFound file member
        exact absurd (beq_self_eq_true file.path) missing
    | some other =>
        have same := List.find?_some isFound
        rw [beq_iff_eq] at same
        rw [List.inj_on_of_nodup_map created.distinct
          (List.mem_of_find?_eq_some isFound) member same]
  have mapped : (files.map memberOf).find?
      (fun other => other.name == file.path) = some (memberOf file) := by
    rw [List.find?_map]
    exact congrArg (Option.map memberOf) found
  rw [created.isArchive, archiveMembers, byName, List.find?_cons_of_neg]
  · exact mapped
  · rw [beq_iff_eq]
    exact (created.manifestName_ne member).symm

theorem names_eq : members.map Member.name =
    manifestName :: files.map ArchiveFile.path := by
  rw [created.isArchive, archiveMembers, List.map_cons, List.map_map]
  rfl

theorem loadManifest_eq :
    loadManifest members =
      .ok (.obj (signedManifest environment.crypto request files)) := by
  rcases loads_manifestBytes environment.crypto request files with
    ⟨text, isText, isJson⟩
  have found : byName members manifestName = some
      { name := manifestName
        size := (manifestBytes environment.crypto request files).size
        data := some (manifestBytes environment.crypto request files) } := by
    rw [created.isArchive, archiveMembers, byName]
    exact List.find?_cons_of_pos (beq_self_eq_true manifestName)
  exact loadManifest_eq_ok_iff.mpr
    ⟨_, _, text, found, Int.ofNat_le.mpr created.size, rfl, isText, isJson⟩

theorem checkEntries_eq
    (noBackslash : ∀ place ∈ places config logs request snapshot,
      ∀ name ∈ place.1, '\\' ∉ name.toList) :
    checkEntries (files.map sortedEntry) [] =
      .ok (files.map expectedOf) := by
  rw [checkEntries_sortedEntries, List.nil_append]
  · intro file member
    rcases created.mem_iff.mp member with ⟨place, isPlace, rfl⟩
    exact ⟨(isMemberName_partOf _ isPlace).mpr (noBackslash place isPlace),
      created.manifestName_ne member, (environment.crypto.sha256 _).isHex⟩
  · exact created.distinct
  · exact fun _ _ _ isSeen => absurd isSeen List.not_mem_nil

/-- The files are staged if the file system can hold them. -/
theorem staged_eq (holds : Path → Bool) :
    ∃ staging,
      Overlay (places config logs request snapshot) (fun _ => none)
        staging.get ∧
      (files.map expectedOf).foldlM
          (stageMember environment.crypto holds members) .empty =
        if ∀ place ∈ places config logs request snapshot,
            holds place.1 = true then .ok staging
        else .error .osError := by
  have empty : ∀ path, (Folder.empty : Folder ByteArray).get path = none :=
    fun path => AList.lookup_empty path
  have fits : ∀ file ∈ files,
      conflicts (Folder.empty : Folder ByteArray) (placeOf file).1 =
        false := by
    intro file member
    rw [conflicts_eq_false_iff, empty]
    constructor
    · intro impossible
      cases impossible
    · intro parent above entry found
      rw [empty] at found
      cases found
  have digest : ∀ file ∈ files,
      file.sha256 = (environment.crypto.sha256 file.content).text := by
    intro file member
    rcases created.mem_iff.mp member with ⟨place, -, rfl⟩
    rfl
  rcases stageMembers_eq holds created.compatible fits
    (fun file _ => empty (placeOf file).1)
    (fun file member => created.byName_eq member) digest with
    ⟨staging, overlay, folded⟩
  refine ⟨staging, ?_, ?_⟩
  · have laid := overlay.perm created.perm_places
    rw [show (Folder.empty : Folder ByteArray).get = fun _ => none from
      funext empty] at laid
    exact laid
  · have all : (∀ file ∈ files, holds (placeOf file).1 = true) ↔
        ∀ place ∈ places config logs request snapshot,
          holds place.1 = true := by
      constructor
      · intro isHeld place isPlace
        rcases List.mem_map.mp (created.perm_places.mem_iff.mpr isPlace)
          with ⟨file, member, rfl⟩
        exact isHeld file member
      · intro isHeld file member
        exact isHeld (placeOf file) (created.perm_places.mem_iff.mp
          (List.mem_map_of_mem member))
    rw [folded]
    simp only [all]

/-- Without logs, no name begins with their directory. -/
theorem not_logs (excluded : request.includeLogs = false) :
    ∀ entry ∈ files.map expectedOf,
      ¬ "logs/".toList <+: entry.path.toList := by
  intro entry member
  rcases List.mem_map.mp member with ⟨file, isFile, rfl⟩
  rcases created.mem_iff.mp isFile with ⟨place, isPlace, rfl⟩
  have noLogs : archivedLogs request logs = [] := by
    rw [archivedLogs, excluded, Bool.false_and]
    rfl
  rw [places, noLogs] at isPlace
  rcases mem_placed_iff.mp isPlace with
    rfl | ⟨below, isBelow, rfl⟩ | ⟨below, isBelow, -⟩
  · show ¬ "logs/".toList <+:
      (memberPath ["database", "sluicery.db"]).asPosix.toList
    rw [asPosix_databaseName]
    decide
  · have notRoot := (compatible_treeFiles config.tree).notRoot below isBelow
    show ¬ "logs/".toList <+:
      (memberPath ("config" :: below.1)).asPosix.toList
    rw [asPosix_memberPath notRoot, String.toList_append,
      String.toList_append]
    rintro ⟨rest, same⟩
    have heads := congrArg List.head? same
    cases heads
  · cases isBelow

theorem sound (noBackslash : ∀ place ∈ places config logs request snapshot,
      ∀ name ∈ place.1, '\\' ∉ name.toList) :
    ∀ member ∈ members, IsSound member := by
  intro member isMember
  rw [created.isArchive, archiveMembers] at isMember
  rcases List.mem_cons.mp isMember with rfl | isFile
  · exact ⟨isMemberName_manifestName, rfl, Int.natCast_nonneg _⟩
  · rcases List.mem_map.mp isFile with ⟨file, inFiles, rfl⟩
    rcases created.mem_iff.mp inFiles with ⟨place, isPlace, rfl⟩
    have name := (isMemberName_partOf environment.crypto isPlace).mpr
      (noBackslash place isPlace)
    exact ⟨name, rfl, Int.natCast_nonneg _⟩

theorem accepts (readable : Readable environment config logs request
      snapshot members) :
    ∃ staging,
      Overlay (places config logs request snapshot) (fun _ => none)
        staging.get ∧
      readArchive environment request.secretKey (.archive members) =
        .ok (manifestOf environment request files, staging) := by
  rcases created.staged_eq (environment.disk .staging).holds with
    ⟨staging, overlay, folded⟩
  rw [if_pos readable.holds] at folded
  refine ⟨staging, overlay, readArchive_eq_ok_iff.mpr
    ⟨members, rfl, ?_, ?_, ?_, ?_, readable.total, ?_, ?_⟩⟩
  · rw [created.isArchive]
    exact List.cons_ne_nil _ _
  · rw [created.isArchive, archiveMembers, List.length_cons, List.length_map]
    exact created.length_le
  · exact created.sound readable.names
  · rw [created.names_eq, List.nodup_cons]
    refine ⟨?_, created.distinct⟩
    intro isFile
    rcases List.mem_map.mp isFile with ⟨file, member, same⟩
    exact created.manifestName_ne member same
  · exact ⟨_, created.loadManifest_eq, checkManifest_signed _ _ _⟩
  · rw [stageMembers_eq_ok_iff]
    refine ⟨files.map expectedOf, created.checkEntries_eq readable.names,
      ?_, ?_, ?_, folded, snapshot, ?_, created.intact⟩
    · rw [expectedPaths_eq, List.mem_map]
      exact ⟨_, created.mem_iff.mpr ⟨_, mem_placed_iff.mpr (Or.inl rfl), rfl⟩,
        asPosix_databaseName⟩
    · intro name
      rw [created.names_eq, expectedPaths_eq, List.filter_cons_of_neg (by simp),
        List.mem_filter, bne_iff_ne]
      refine and_iff_left_of_imp fun isFile => ?_
      rcases List.mem_map.mp isFile with ⟨file, member, rfl⟩
      exact created.manifestName_ne member
    · exact created.not_logs
    · exact overlay.file _ (mem_placed_iff.mpr (Or.inl rfl))

theorem readable {staging : Folder ByteArray} {manifest : Manifest}
    (read : readArchive environment request.secretKey (.archive members) =
      .ok (manifest, staging)) :
    Readable environment config logs request snapshot members := by
  rcases readArchive_eq_ok_iff.mp read with ⟨_, ⟨⟩, accepts⟩
  have names : ∀ place ∈ places config logs request snapshot,
      ∀ name ∈ place.1, '\\' ∉ name.toList := by
    intro place isPlace
    have member : memberOf (partOf environment.crypto place) ∈ members := by
      rw [created.isArchive]
      exact List.mem_cons_of_mem _ (List.mem_map_of_mem
        (created.mem_iff.mpr ⟨place, isPlace, rfl⟩))
    exact (isMemberName_partOf environment.crypto isPlace).mp
      (accepts.sound _ member).name
  refine ⟨names, accepts.total, ?_⟩
  rcases accepts.loaded with ⟨value, isLoaded, isChecked⟩
  rw [created.loadManifest_eq] at isLoaded
  cases isLoaded
  rw [checkManifest_signed] at isChecked
  cases isChecked
  rcases stageMembers_eq_ok_iff.mp accepts.staged with ⟨expected, stages⟩
  have entries : checkEntries (files.map sortedEntry) [] = .ok expected :=
    stages.entries
  rw [created.checkEntries_eq names] at entries
  cases entries
  rcases created.staged_eq (environment.disk .staging).holds with
    ⟨other, -, folded⟩
  by_contra notHeld
  rw [if_neg notHeld, stages.staged] at folded
  cases folded

end Created

/-! ## What is staged -/

section Staged

variable {staging : Folder ByteArray}
  (overlay : Overlay (places config logs request snapshot) (fun _ => none)
    staging.get)

include overlay

/-- What is staged of a kind are the files which are archived under it. -/
theorem staged_perm {kind : String} {files : List StagedFile}
    (compatible : Compatible files)
    (isKind : ∀ file, below kind file ∈
      places config logs request snapshot ↔ file ∈ files) :
    (stagedFiles staging kind).Perm files := by
  have nodup := (compatible_stagedFiles staging kind).distinct.of_map
  rw [List.perm_ext_iff_of_nodup nodup compatible.distinct.of_map]
  intro file
  have found := overlay.get_eq_file_iff (below kind file)
  rw [isKind, below] at found
  rw [mem_stagedFiles_iff, found]
  exact and_iff_right_of_imp (compatible.notRoot file)

theorem staged_config_perm :
    (stagedFiles staging "config").Perm (treeFiles config.tree) := by
  apply staged_perm overlay (compatible_treeFiles config.tree)
  intro file
  rw [places, below_mem_placed_iff (by decide)]
  simp

theorem staged_logs_perm :
    (stagedFiles staging "logs").Perm (archivedLogs request logs) := by
  apply staged_perm overlay (compatible_archivedLogs request logs)
  intro file
  rw [places, below_mem_placed_iff (by decide)]
  simp

/-- There is a log directory if there are log files. -/
theorem staged_hasLogs :
    (staging.get ["logs"]).isSome = !(archivedLogs request logs).isEmpty := by
  cases isLogs : archivedLogs request logs with
  | nil =>
      rw [overlay.other ["logs"]]
      · rfl
      · intro place isPlace
        rw [places, isLogs] at isPlace
        rcases mem_placed_iff.mp isPlace with
          rfl | ⟨file, -, rfl⟩ | ⟨file, member, -⟩
        · refine ⟨fun same => ?_, not_above_of_head_ne (by decide)⟩
          exact absurd (List.cons.inj same).1 (by decide)
        · refine ⟨fun same => ?_, not_above_of_head_ne (by decide)⟩
          exact absurd (List.cons.inj same).1 (by decide)
        · cases member
  | cons file rest =>
      have member : file ∈ archivedLogs request logs :=
        isLogs ▸ List.mem_cons_self
      have notRoot := (compatible_archivedLogs request logs).notRoot file
        member
      have isPlace : below "logs" file ∈
          places config logs request snapshot :=
        (below_mem_placed_iff (by decide) file).mpr (Or.inr ⟨rfl, member⟩)
      have above : Above ["logs"] (below "logs" file).1 := by
        refine ⟨List.cons_ne_nil _ _, ⟨file.1, rfl⟩, fun same => ?_⟩
        exact notRoot (List.cons.inj same).2.symm
      rw [overlay.above _ isPlace _ above]
      rfl

end Staged

/-- The database of the archive has the fingerprint of the key. -/
theorem Created.stagedDatabase_eq
    (created : Created environment database config logs request result
      members content snapshot files)
    {staging : Folder ByteArray}
    (overlay : Overlay (places config logs request snapshot) (fun _ => none)
      staging.get) :
    stagedDatabase environment request.secretKey
        (manifestOf environment request files) staging =
      .ok (snapshot, true) := by
  have found : staging.get ["database", "sluicery.db"] =
      some (.file snapshot) :=
    overlay.file _ (mem_placed_iff.mpr (Or.inl rfl))
  rcases created.fingerprint with ⟨recorded, isRecorded, matched⟩
  rw [stagedDatabase, found]
  dsimp only
  rw [environment.sqlite.connect_snapshot content snapshot
    created.isSnapshot, databaseFingerprint, Option.bind_some, isRecorded]
  have noMismatch : recorded.any (fun text =>
      text != (manifestOf environment request files).fingerprint) =
        false := by
    rw [Option.any_eq_false]
    intro text isText
    rw [bne_eq_false_iff_eq]
    exact matched text isText
  rw [bind_eq_ok_iff]
  refine ⟨recorded, rfl, ?_⟩
  rw [ite_error_bind_eq_ok_iff, noMismatch]
  refine ⟨Bool.false_ne_true, ?_⟩
  rw [manifestOf, beq_self_eq_true]
  rfl

/-- An archive which was created can be restored over a target. -/
structure Restorable (environment : Environment Content)
    (config logs : Location) (request : Request) (snapshot : ByteArray)
    (members : List Member) (checkpoint : Checkpoint)
    (target : State Content) : Prop where
  readable : Readable environment config logs request snapshot members
  targets : TargetsPass target checkpoint
    (!(archivedLogs request logs).isEmpty)
  config : Fits (environment.disk .config) (treeFiles config.tree) true
    target.config.tree
  logs : Fits (environment.disk .logs) (archivedLogs request logs) false
    target.logs.tree
  database : (environment.disk .database).Replaces

section Perm

variable {disk : Disk} {files others : List StagedFile}
  {tree : Folder ByteArray}

theorem kept_iff_of_perm (perm : files.Perm others) {path : Path} :
    Kept files path ↔ Kept others path := by
  simp only [Kept, perm.mem_iff]

theorem Fits.perm {exact : Bool} (fits : Fits disk files exact tree)
    (perm : files.Perm others) : Fits disk others exact tree where
  free := fun file member => fits.free file (perm.mem_iff.mpr member)
  copies := fun file member => fits.copies file (perm.mem_iff.mpr member)
  clears := by
    intro isExact
    rcases fits.clears isExact with ⟨canGo, syncs⟩
    refine ⟨fun path entry found notDirectory => ?_, syncs⟩
    rw [← kept_iff_of_perm perm]
    exact canGo path entry found notDirectory

theorem leftOver_perm (perm : files.Perm others) :
    leftOver disk files tree = leftOver disk others tree := by
  have same : ∀ path, Stays disk files tree path ↔
      Stays disk others tree path := by
    intro path
    simp only [Stays, kept_iff_of_perm perm]
  funext path
  rw [leftOver, leftOver]
  simp only [same]

end Perm

/-- What a restore of a created archive brings back. -/
structure BroughtBack (environment : Environment Content)
    (config logs : Location) (request : Request)
    (content : Content) (result : BackupResult) (target : State Content)
    (restored : RestoreResult) (after : State Content) : Prop where
  database : after.database = .file (some content)
  /-- Besides the files there are directories which the file system keeps. -/
  config : Overlay (treeFiles config.tree)
    (leftOver (environment.disk .config) (treeFiles config.tree)
      target.config.tree) after.config.tree.get
  logs : Overlay (archivedLogs request logs) target.logs.tree.get
    after.logs.tree.get
  keyMatches : restored.secretKeyMatched = true
  count : 1 + restored.configFiles + restored.logFiles = result.fileCount

/-- Where every directory can be removed there is nothing besides the files. -/
theorem BroughtBack.exactly
    {target : State Content} {restored : RestoreResult} {after : State Content}
    (brought : BroughtBack environment config logs request content result
      target restored after)
    (removes : ∀ path, (environment.disk .config).removes path = true) :
    Overlay (treeFiles config.tree) (fun _ => none)
      after.config.tree.get := by
  rw [← leftOver_of_removes removes]
  exact brought.config

theorem Created.ends_restoreBackup
    (created : Created environment database config logs request result
      members content snapshot files)
    (checkpoint : Checkpoint) (target : State Content) :
    Ends (restoreBackup environment request.secretKey (.archive members)
        checkpoint) target
      (fun restored after =>
        Restorable environment config logs request snapshot members
          checkpoint target ∧
        BroughtBack environment config logs request content result target
          restored after)
      (fun _ _ => ¬ Restorable environment config logs request snapshot
        members checkpoint target) := by
  refine Backup.ends_restoreBackup.mono ?_ ?_
  · rintro restored after ⟨staging, other, -, ready, holds, brought,
      configFiles, logFiles⟩
    rcases ready.archive with ⟨manifest, read, staged⟩
    have readable := created.readable read
    rcases created.accepts readable with ⟨found, overlay, isRead⟩
    rw [read, Except.ok.injEq, Prod.mk.injEq] at isRead
    rcases isRead with ⟨rfl, rfl⟩
    rw [created.stagedDatabase_eq overlay, Except.ok.injEq,
      Prod.mk.injEq] at staged
    rcases staged with ⟨rfl, matched⟩
    have configPerm := staged_config_perm overlay
    have logsPerm := staged_logs_perm overlay
    refine ⟨⟨readable, ?_, holds.config.perm configPerm,
      holds.logs.perm logsPerm, holds.database⟩, ?_⟩
    · rw [← staged_hasLogs overlay]
      exact ready.targets
    · constructor
      · rw [brought.database, environment.sqlite.connect_snapshot content
          snapshot created.isSnapshot]
      · have laid := brought.config.perm configPerm
        rw [configBase, leftOver_perm configPerm] at laid
        exact laid
      · exact brought.logs.perm logsPerm
      · exact matched.symm
      · have length := created.perm_places.length_eq
        rw [List.length_map, places, placed, List.length_cons,
          List.length_append, List.length_map, List.length_map] at length
        rw [created.fileCount, length, configFiles, logFiles,
          configPerm.length_eq, logsPerm.length_eq]
        omega
  · intro failure after rejected restorable
    rcases created.accepts restorable.readable with ⟨staging, overlay, read⟩
    refine rejected.cannot staging snapshot true created.valid ⟨⟨_, read,
      created.stagedDatabase_eq overlay⟩, ?_⟩ ⟨?_, ?_, restorable.database⟩
    · rw [staged_hasLogs overlay]
      exact restorable.targets
    · exact restorable.config.perm (staged_config_perm overlay).symm
    · exact restorable.logs.perm (staged_logs_perm overlay).symm

end Reading

/-- A restore of what `create_backup` returned ends well if and only if no name
has a backslash, the manifest still fits under the limit of the archive, the
targets are accepted and the file system does its part; it then brings back the
database, exactly the config files, but for directories which the file system
keeps, and the log files. -/
theorem restore_createBackup {Content : Type}
    (environment : Environment Content) (database : DatabaseEntry Content)
    (config logs output : Location) (request : Request)
    (checkpoint : Checkpoint) (target : State Content) :
    match createBackup environment database config logs output request with
    | .error _ => True
    | .ok (result, members) => ∃ content snapshot,
        database = .file (some content) ∧
        environment.sqlite.snapshot content = some snapshot ∧
        Ends (restoreBackup environment request.secretKey (.archive members)
            checkpoint) target
          (fun restored after =>
            Restorable environment config logs request snapshot members
              checkpoint target ∧
            BroughtBack environment config logs request content result target
              restored after ∧
            ((∀ path, (environment.disk .config).removes path = true) →
              Overlay (treeFiles config.tree) (fun _ => none)
                after.config.tree.get))
          (fun _ _ => ¬ Restorable environment config logs request snapshot
            members checkpoint target) := by
  cases ok : createBackup environment database config logs output request
    with
  | error failure => trivial
  | ok both =>
      rcases both with ⟨result, members⟩
      rcases created_of_createBackup environment database config logs request
        ok with ⟨content, snapshot, files, created⟩
      refine ⟨content, snapshot, created.isDatabase, created.isSnapshot, ?_⟩
      refine (created.ends_restoreBackup checkpoint target).mono ?_ ?_
      · exact fun _ _ both => ⟨both.1, both.2, both.2.exactly⟩
      · exact fun _ _ cannot => cannot

/-! ## One file in each tree -/

/-- A character takes four bytes at most. -/
theorem size_ofList_le (chars : List Char) :
    (String.ofList chars).toUTF8.size ≤ 4 * chars.length := by
  show (String.ofList chars).utf8ByteSize ≤ _
  rw [String.utf8ByteSize_ofList]
  induction chars with
  | nil => exact le_refl 0
  | cons char rest induction =>
      have bound := char.utf8Size_le_four
      rw [String.utf8Len_cons, List.length_cons]
      omega

namespace Sample

def digest : Digest where
  text := String.ofList (List.replicate 64 '0')
  isHex := by decide

/-- Every key is valid. -/
def crypto : Crypto where
  validKey := fun _ => true
  sha256 := fun _ => digest
  hmacSha256 := fun _ _ => digest

/-- A database is its file. -/
def environment (disk : Site → Disk) : Environment ByteArray where
  crypto
  sqlite :=
    { connect := some
      snapshot := some
      quickCheck := fun _ => some true
      fingerprint := fun _ => some none
      connect_snapshot := fun _ _ same => same.symm }
  disk

/-- A directory with one file. -/
def single (name content : String) : Location :=
  .directory ((Folder.empty.writeFile [name] content.toUTF8).getD .empty)

def request : Request where
  secretKey := "key"
  includeLogs := true
  createdAt := "2026-01-02T03:04:05+00:00"
  stem := "20260102T030405Z"
  token := "0"

def database : ByteArray := "new".toUTF8

def backup : Except Failure (BackupResult × List Member) :=
  createBackup (environment fun _ => .unlimited) (.file (some database))
    (single "a" "config") (single "b" "log") .absent request

/-- Another database, and another file in each tree. -/
def target : State ByteArray where
  database := .file (some "old".toUTF8)
  config := single "old" "old"
  logs := single "old" "old"

def configFile : ArchiveFile :=
  archiveFile crypto "config" ["a"] "config".toUTF8

def logFile : ArchiveFile :=
  archiveFile crypto "logs" ["b"] "log".toUTF8

def databaseFile : ArchiveFile where
  path := databaseName
  content := database
  sha256 := (crypto.sha256 database).text

def files : List ArchiveFile := [configFile, databaseFile, logFile]

theorem archiveFiles_eq :
    archiveFiles crypto database [configFile] [logFile] = files := by
  have first : ¬ databaseFile.path ≤ configFile.path := by decide
  have second : databaseFile.path ≤ logFile.path := by decide
  have third : configFile.path ≤ logFile.path := by decide
  show List.insertionSort _ [databaseFile, configFile, logFile] = _
  simp only [List.insertionSort_cons, List.insertionSort_nil,
    List.orderedInsert, first, second, third, if_true, if_false, files]

theorem size_manifest :
    (manifestBytes crypto request files).size ≤ 1000000 :=
  (size_ofList_le _).trans (by decide +kernel)

/-- The backup is made, and its members take little room. -/
theorem exists_backup :
    ∃ result members, backup = .ok (result, members) ∧
      (members.map Member.size).sum ≤ maxArchiveUncompressedBytes := by
  refine ⟨{ archiveName := archiveName request, fileCount := files.length
            totalBytes := totalBytes files, includedLogs := true },
    archiveMembers (manifestBytes crypto request files) files, ?_, ?_⟩
  · rw [backup, createBackup]
    dsimp only
    rw [ite_error_bind_eq_ok_iff, ite_error_bind_eq_ok_iff,
      check_bind_eq_ok_iff, bind_eq_ok_iff]
    refine ⟨Bool.noConfusion, Bool.false_ne_true, rfl, none, rfl, ?_⟩
    rw [ite_error_bind_eq_ok_iff, bind_eq_ok_iff]
    refine ⟨Bool.false_ne_true, database, rfl, ?_⟩
    rw [bind_eq_ok_iff]
    refine ⟨[configFile], rfl, ?_⟩
    rw [ite_bind_eq_ok_iff]
    refine ⟨[logFile], rfl, ?_⟩
    show (if maxArchiveUncompressedBytes < totalBytes
        (archiveFiles crypto database [configFile] [logFile]) then _
      else _) = _
    rw [ite_error_bind_eq_ok_iff, ite_error_bind_eq_ok_iff, archiveFiles_eq]
    refine ⟨by decide, ?_, rfl⟩
    exact not_lt.mpr (size_manifest.trans (by decide))
  · have manifest := Int.ofNat_le.mpr size_manifest
    have small : ((files.map fun file => (file.size : Int)).sum) ≤ 1000 := by
      decide
    rw [archiveMembers, List.map_cons, List.sum_cons, List.map_map]
    calc ((manifestBytes crypto request files).size : Int) +
          (files.map fun file => (file.size : Int)).sum
        ≤ 1000000 + 1000 := add_le_add manifest small
      _ ≤ maxArchiveUncompressedBytes := by decide

/-- What is created and read does not depend on the target. -/
theorem exists_created (disk : Site → Disk)
    (staging : disk .staging = .unlimited) :
    ∃ result members files, backup = .ok (result, members) ∧
      Created (environment disk) (.file (some database))
        (single "a" "config") (single "b" "log") request result members
        database database files ∧
      Readable (environment disk) (single "a" "config") (single "b" "log")
        request database members := by
  rcases exists_backup with ⟨result, members, ok, total⟩
  have sameArchive : createBackup (environment disk) (.file (some database))
      (single "a" "config") (single "b" "log") .absent request =
        .ok (result, members) := ok
  rcases created_of_createBackup _ _ _ _ _ sameArchive with
    ⟨content, snapshot, files, created⟩
  cases created.isDatabase
  cases created.isSnapshot
  refine ⟨result, members, files, ok, created, ?_, total, ?_⟩
  · decide
  · intro place _
    show (disk .staging).holds place.1 = true
    rw [staging]
    rfl

/-- The files fit into trees of one other file. -/
theorem fits_single {name content : String} {exact : Bool}
    (free : ∀ file ∈ treeFiles (single name content).tree,
      conflicts target.config.tree file.1 = false) :
    Fits .unlimited (treeFiles (single name content).tree) exact
      target.config.tree :=
  ⟨free, fun _ _ => ⟨rfl, rfl⟩, fun _ =>
    ⟨fun _ _ _ _ => Or.inr rfl, rfl⟩⟩

theorem fits_config :
    Fits .unlimited (treeFiles (single "a" "config").tree) true
      target.config.tree :=
  fits_single (by decide)

theorem fits_logs :
    Fits .unlimited (archivedLogs request (single "b" "log")) false
      target.logs.tree :=
  fits_single (by decide)

theorem mem_config :
    (["a"], "config".toUTF8) ∈ treeFiles (single "a" "config").tree :=
  mem_treeFiles_iff.mpr rfl

theorem mem_logs :
    (["b"], "log".toUTF8) ∈ archivedLogs request (single "b" "log") :=
  mem_treeFiles_iff.mpr rfl

theorem targetsPass : TargetsPass target .done true :=
  ⟨rfl, fun _ => rfl, rfl⟩

theorem restorable {members : List Member}
    (readable : Readable (environment fun _ => .unlimited)
      (single "a" "config") (single "b" "log") request database members) :
    Restorable (environment fun _ => .unlimited) (single "a" "config")
      (single "b" "log") request database members .done target :=
  ⟨readable, targetsPass, fits_config, fits_logs, rfl, rfl, rfl⟩

end Sample

/-- Both trees and the database are restored over others. -/
theorem restore_createBackup_bothTrees :
    ∃ result members, Sample.backup = .ok (result, members) ∧
      Ends (restoreBackup (Sample.environment fun _ => .unlimited) "key"
          (.archive members) .done) Sample.target
        (fun restored after =>
          restored.secretKeyMatched = true ∧
          after.database = .file (some Sample.database) ∧
          after.config.tree.get ["a"] = some (.file "config".toUTF8) ∧
          after.config.tree.get ["old"] = none ∧
          after.logs.tree.get ["b"] = some (.file "log".toUTF8) ∧
          after.logs.tree.get ["old"] = some (.file "old".toUTF8))
        (fun _ _ => False) := by
  rcases Sample.exists_created (fun _ => .unlimited) rfl with
    ⟨result, members, files, ok, -, readable⟩
  have restores : ∀ {environment : Environment ByteArray} {database config
      logs output request}, createBackup environment database config logs
        output request = .ok (result, members) → ∃ content snapshot,
      database = .file (some content) ∧
      environment.sqlite.snapshot content = some snapshot ∧
      Ends (restoreBackup environment request.secretKey (.archive members)
          .done) Sample.target
        (fun restored after =>
          BroughtBack environment config logs request content result
            Sample.target restored after ∧
          ((∀ path, (environment.disk .config).removes path = true) →
            Overlay (treeFiles config.tree) (fun _ => none)
              after.config.tree.get))
        (fun _ _ => ¬ Restorable environment config logs request snapshot
          members .done Sample.target) := by
    intro environment database config logs output request made
    have general := restore_createBackup environment database config logs
      output request .done Sample.target
    rw [made] at general
    rcases general with ⟨content, snapshot, isDatabase, isSnapshot, ends⟩
    exact ⟨content, snapshot, isDatabase, isSnapshot,
      ends.mono (fun _ _ both => both.2) fun _ _ cannot => cannot⟩
  rcases restores ok with ⟨content, snapshot, isDatabase, isSnapshot, ends⟩
  cases isDatabase
  cases isSnapshot
  refine ⟨result, members, ok, ends.mono ?_ ?_⟩
  · rintro restored after ⟨brought, exactly⟩
    have config := exactly fun _ => rfl
    refine ⟨brought.keyMatches, brought.database, ?_, ?_, ?_, ?_⟩
    · exact config.file _ Sample.mem_config
    · exact config.other ["old"] (by decide)
    · exact brought.logs.file _ Sample.mem_logs
    · exact brought.logs.other ["old"] (by decide)
  · intro _ _ cannot
    exact cannot (Sample.restorable readable)

/-- The same target, with a directory where the log file belongs. -/
def Sample.lateTarget : State ByteArray :=
  { Sample.target with
    logs := .directory ((Folder.empty.makeDirectory ["b"]).getD .empty) }

/-- The log file does not fit, and the config tree has been restored. -/
theorem rejected_unchanged_iff_directory :
    ∃ result members, Sample.backup = .ok (result, members) ∧
      Ends (restoreBackup (Sample.environment fun _ => .unlimited) "key"
          (.archive members) .done) Sample.lateTarget
        (fun _ _ => False)
        (fun failure after => failure.isBackupError = true ∧
          ¬ Unchanged Sample.lateTarget after) := by
  rcases Sample.exists_created (fun _ => .unlimited) rfl with
    ⟨result, members, files, ok, created, readable⟩
  rcases created.accepts readable with ⟨staging, overlay, read⟩
  have configPerm := staged_config_perm overlay
  have logsPerm := staged_logs_perm overlay
  have ready : Ready (Sample.environment fun _ => .unlimited) "key"
      (.archive members) .done Sample.lateTarget staging Sample.database
      true := by
    refine ⟨⟨_, read, created.stagedDatabase_eq overlay⟩, ?_⟩
    rw [staged_hasLogs overlay]
    exact ⟨rfl, fun _ => rfl, rfl⟩
  have config : Fits .unlimited (stagedFiles staging "config") true
      Sample.lateTarget.config.tree := Sample.fits_config.perm configPerm.symm
  have conflict : ∃ file ∈ stagedFiles staging "logs",
      conflicts Sample.lateTarget.logs.tree file.1 = true :=
    ⟨(["b"], "log".toUTF8), logsPerm.mem_iff.mpr Sample.mem_logs,
      by decide⟩
  have late : ChangesLate (Sample.environment fun _ => .unlimited) "key"
      (.archive members) .done Sample.lateTarget staging := by
    refine ⟨⟨_, _, ready⟩, config, conflict, fun same => ?_⟩
    have isThere := same.file (["a"], "config".toUTF8)
      (configPerm.mem_iff.mpr Sample.mem_config)
    revert isThere
    decide
  refine ⟨result, members, ok,
    (ends_restoreBackup.and rejected_unchanged_iff).mono ?_ ?_⟩
  · rintro _ _ ⟨⟨other, _, -, otherReady, holds, -⟩, -⟩
    rcases otherReady.archive with ⟨_, otherRead, -⟩
    rcases ready.of_readArchive otherRead with ⟨rfl, -⟩
    exact not_fits_of_conflict conflict holds.logs
  · rintro failure after ⟨rejected, unchanged⟩
    have isBackup :=
      (rejected.afterConfig _ _ _ rfl ready config).1 conflict
    exact ⟨isBackup, fun same => (unchanged isBackup).mp same staging late⟩

end Sluicery.Backup
