import Sluicery.Backup.Accepted
import Sluicery.Backup.RestoredTrees

/-!
# Archives which were created

What `create_backup` puts into an archive, and how its parts are read: the
names of the members, the manifest, and the staging directory.
-/

namespace Sluicery.Backup

open Sluicery.Library Sluicery.Library.FileTree

/-! ## Trees -/

/-- The files of a tree. -/
def treeFiles (tree : Folder ByteArray) : List StagedFile :=
  tree.entries.entries.filterMap fun entry =>
    match entry.2 with
    | .file content => some (entry.1, content)
    | _ => none

theorem mem_treeFiles_iff
    {tree : Folder ByteArray} {file : StagedFile} :
    file ∈ treeFiles tree ↔ tree.get file.1 = some (.file file.2) := by
  rw [treeFiles, List.mem_filterMap]
  constructor
  · rintro ⟨⟨path, entry⟩, member, isFile⟩
    cases entry with
    | file content =>
        cases isFile
        exact AList.mem_lookup_iff.mpr member
    | directory => cases isFile
    | special isLink => cases isFile
  · intro found
    exact ⟨⟨file.1, .file file.2⟩, AList.mem_lookup_iff.mp found, rfl⟩

theorem treePaths_sublist (tree : Folder ByteArray) :
    ((treeFiles tree).map Prod.fst).Sublist tree.paths := by
  rw [treeFiles, Folder.paths, AList.keys, List.keys]
  induction tree.entries.entries with
  | nil => exact List.Sublist.slnil
  | cons entry rest induction =>
      rw [List.map_cons, List.filterMap_cons]
      rcases entry with ⟨path, _ | _ | _⟩
      · exact induction.cons_cons path
      · exact induction.cons path
      · exact induction.cons path

theorem compatible_treeFiles (tree : Folder ByteArray) :
    Compatible (treeFiles tree) := by
  constructor
  · exact tree.nodup_paths.sublist (treePaths_sublist tree)
  · intro file member other isOther above
    have isFile := mem_treeFiles_iff.mp member
    rw [Folder.directory_of_above (mem_treeFiles_iff.mp isOther) above]
      at isFile
    cases isFile
  · intro file member
    exact Folder.ne_nil_of_get (mem_treeFiles_iff.mp member)
  · intro file member name isName
    exact (tree.named file.1
      (Folder.mem_of_get (mem_treeFiles_iff.mp member))).2 name isName

/-- What is archived of a tree are its files. -/
theorem eq_of_safeTreeFiles
    {crypto : Crypto} {kind : String} {location : Location}
    {files : List ArchiveFile}
    (archived : safeTreeFiles crypto kind location = .ok files) :
    files = (treeFiles location.tree).map fun file =>
      archiveFile crypto kind file.1 file.2 := by
  cases location with
  | directory tree =>
      rw [safeTreeFiles] at archived
      have appended := eq_append_of_foldlM
        (fun entry : (_ : Path) × Entry ByteArray =>
          match entry.2 with
          | .file content => [archiveFile crypto kind entry.1 content]
          | _ => []) (by
            rintro before ⟨path, _ | _ | isLink⟩ after step
            · cases step
              rfl
            · cases step
              exact (List.append_nil _).symm
            · cases isLink with
              | true => cases step
              | false => cases step) archived
      rw [appended, List.nil_append, Location.tree, treeFiles]
      induction tree.entries.entries with
      | nil => rfl
      | cons entry rest induction =>
          rw [List.flatMap_cons, List.filterMap_cons, induction]
          rcases entry with ⟨path, _ | _ | isLink⟩
          · rfl
          · rfl
          · rfl
  | absent => cases archived
  | link => cases archived
  | dangling => cases archived
  | other => cases archived

/-! ## Names -/

theorem isPart_of_isName {name : String} (isName : isName name = true) :
    PurePosixPath.IsPart name := by
  simp only [FileTree.isName, Bool.and_eq_true, bne_iff_ne, ne_eq,
    List.all_eq_true] at isName
  rcases isName with ⟨⟨⟨nonempty, moves⟩, -⟩, chars⟩
  exact ⟨nonempty, moves, fun slash => (chars _ slash).1 rfl⟩

/-- The path of a member. -/
def memberPath (path : Path) : PurePosixPath := ⟨"", path⟩

theorem asPosix_memberPath {kind : String} {path : Path}
    (notRoot : path ≠ []) :
    (memberPath (kind :: path)).asPosix =
      kind ++ "/" ++ String.intercalate "/" path := by
  rw [memberPath, PurePosixPath.asPosix,
    if_neg fun both => List.cons_ne_nil _ _ both.2, String.empty_append,
    String.intercalate_cons_of_ne_nil notRoot]

/-- The name of a member is the text of its path. -/
theorem ofString_memberPath {path : Path}
    (named : ∀ name ∈ path, isName name = true) :
    PurePosixPath.ofString (memberPath path).asPosix = memberPath path := by
  apply PurePosixPath.ofString_asPosix
  constructor
  · exact List.mem_cons_self
  · exact fun {part} member => isPart_of_isName (named part member)

/-- A file of the archive, by where it is staged. -/
def partOf (crypto : Crypto) (file : StagedFile) : ArchiveFile where
  path := (memberPath file.1).asPosix
  content := file.2
  sha256 := (crypto.sha256 file.2).text

/-- Two places with one name are one. -/
theorem memberPath_injective {path other : Path}
    (named : ∀ name ∈ path, isName name = true)
    (otherNamed : ∀ name ∈ other, isName name = true)
    (same : (memberPath path).asPosix = (memberPath other).asPosix) :
    path = other := by
  have paths := ofString_memberPath named
  rw [same, ofString_memberPath otherNamed] at paths
  exact (congrArg PurePosixPath.parts paths).symm

/-- A backslash is in the name of a member if it is in its path. -/
theorem backslash_mem_asPosix_iff {path : Path} (notRoot : path ≠ []) :
    '\\' ∈ (memberPath path).asPosix.toList ↔
      ∃ name ∈ path, '\\' ∈ name.toList := by
  rw [memberPath, PurePosixPath.asPosix, if_neg fun both => notRoot both.2,
    String.empty_append]
  constructor
  · intro member
    rcases PurePosixPath.mem_intercalate member with isSlash | inName
    · cases isSlash
    · exact inName
  · rintro ⟨name, inPath, member⟩
    exact PurePosixPath.mem_intercalate_of_mem inPath member

theorem archiveFile_eq_partOf {crypto : Crypto} {kind : String}
    {file : StagedFile} (notRoot : file.1 ≠ []) :
    archiveFile crypto kind file.1 file.2 =
      partOf crypto (kind :: file.1, file.2) := by
  rw [archiveFile, partOf, asPosix_memberPath notRoot]

/-! ## The manifest -/

/-- An entry as it is written. -/
def sortedEntry (file : ArchiveFile) : Json :=
  .obj [("path", .str file.path), ("sha256", .str file.sha256),
    ("size", .int file.size)]

theorem sortKeys_entryJson (file : ArchiveFile) :
    JsonLines.sortKeys (entryJson file) = sortedEntry file := by
  simp [entryJson, sortedEntry, JsonLines.sortKeys, JsonLines.sortFields,
    List.orderedInsert]

theorem sortKeys_sortedEntry (file : ArchiveFile) :
    JsonLines.sortKeys (sortedEntry file) = sortedEntry file := by
  simp [sortedEntry, JsonLines.sortKeys, JsonLines.sortFields]

theorem sortItems_eq (items : List Json) :
    JsonLines.sortItems items = items.map JsonLines.sortKeys := by
  induction items with
  | nil => rw [JsonLines.sortItems, List.map_nil]
  | cons item rest induction =>
      rw [JsonLines.sortItems, induction, List.map_cons]

theorem sortItems_entries (files : List ArchiveFile) :
    JsonLines.sortItems (files.map entryJson) = files.map sortedEntry := by
  rw [sortItems_eq, List.map_map]
  exact List.map_congr_left fun file _ => sortKeys_entryJson file

theorem sortItems_sortedEntries (files : List ArchiveFile) :
    JsonLines.sortItems (files.map sortedEntry) = files.map sortedEntry := by
  rw [sortItems_eq, List.map_map]
  exact List.map_congr_left fun file _ => sortKeys_sortedEntry file

section Manifest

variable (crypto : Crypto) (request : Request) (files : List ArchiveFile)

/-- The fields without the signature, as they are written. -/
def sortedManifest : Json.Fields :=
  [("created_at", .str request.createdAt),
    ("files", .arr (files.map sortedEntry)),
    ("includes_logs", .bool request.includeLogs),
    ("schema_version", .int 1),
    ("secret_key_fingerprint",
      .str (crypto.secretKeyFingerprint request.secretKey))]

theorem sortedFields_manifestFields :
    JsonLines.sortedFields (manifestFields crypto request files) =
      sortedManifest crypto request files := by
  simp [manifestFields, sortedManifest, JsonLines.sortedFields,
    JsonLines.sortFields, JsonLines.sortKeys, List.orderedInsert,
    sortItems_entries]

theorem sortedFields_sortedManifest :
    JsonLines.sortedFields (sortedManifest crypto request files) =
      sortedManifest crypto request files := by
  simp [sortedManifest, JsonLines.sortedFields, JsonLines.sortFields,
    JsonLines.sortKeys, sortItems_sortedEntries]

/-- The signature is that of the fields which are read. -/
theorem manifestHmac_sortedManifest (secretKey : String) :
    manifestHmac crypto (sortedManifest crypto request files) secretKey =
      manifestHmac crypto (manifestFields crypto request files)
        secretKey := by
  rw [manifestHmac, manifestHmac, canonical, canonical,
    JsonLines.sortKeys_obj, JsonLines.sortKeys_obj,
    sortedFields_sortedManifest, sortedFields_manifestFields]

/-- The signed manifest, as it is written. -/
def signedManifest : Json.Fields :=
  [("created_at", .str request.createdAt),
    ("files", .arr (files.map sortedEntry)),
    ("includes_logs", .bool request.includeLogs),
    ("manifest_hmac_sha256", .str (manifestHmac crypto
      (manifestFields crypto request files) request.secretKey)),
    ("schema_version", .int 1),
    ("secret_key_fingerprint",
      .str (crypto.secretKeyFingerprint request.secretKey))]

theorem sortedFields_signed :
    JsonLines.sortedFields (manifestFields crypto request files ++
        [("manifest_hmac_sha256", .str (manifestHmac crypto
          (manifestFields crypto request files) request.secretKey))]) =
      signedManifest crypto request files := by
  simp [manifestFields, signedManifest, JsonLines.sortedFields,
    JsonLines.sortFields, JsonLines.sortKeys, List.orderedInsert,
    sortItems_entries]

theorem isWritable_signed :
    JsonText.isWritable (.obj (manifestFields crypto request files ++
      [("manifest_hmac_sha256", .str (manifestHmac crypto
        (manifestFields crypto request files) request.secretKey))])) =
      true := by
  have entries : JsonText.areWritable (files.map entryJson) = true := by
    induction files with
    | nil => rw [List.map_nil, JsonText.areWritable]
    | cons file rest induction =>
        rw [List.map_cons, JsonText.areWritable, Bool.and_eq_true]
        refine ⟨?_, induction⟩
        simp [entryJson, JsonText.isWritable, JsonText.hasWritable]
  simp [manifestFields, JsonText.isWritable, JsonText.hasWritable, entries]

/-- The manifest of the archive is read. -/
theorem loads_manifestBytes :
    ∃ text, String.fromUTF8? (manifestBytes crypto request files) =
        some text ∧
      JsonText.loads text.toList =
        some (.obj (signedManifest crypto request files)) := by
  refine ⟨_, TextLines.fromUTF8?_toUTF8 _, ?_⟩
  rw [canonical, String.toList_ofList, JsonText.loads_write false
    (JsonLines.isWritable_sortKeys (isWritable_signed crypto request files)),
    JsonLines.sortKeys_obj, sortedFields_signed]

/-- Every entry takes the 64 characters of its digest at least. -/
theorem length_le_manifestBytes
    (digests : ∀ file ∈ files, isSha256 file.sha256 = true) :
    files.length * 64 ≤ (manifestBytes crypto request files).size := by
  have entry : ∀ file ∈ files,
      64 ≤ (JsonText.write false (sortedEntry file)).length := by
    intro file member
    have isHex := digests file member
    rw [isSha256, Bool.and_eq_true, beq_iff_eq] at isHex
    have text : (JsonText.write false (.str file.sha256)).length ≤
        (JsonText.write false (sortedEntry file)).length :=
      JsonText.length_le_write_obj false
        (List.mem_cons_of_mem _ List.mem_cons_self)
    have chars := JsonText.length_le_writeString file.sha256
    rw [JsonText.write] at text
    omega
  have sum : files.length * 64 ≤ ((files.map sortedEntry).map fun item =>
      (JsonText.write false item).length).sum := by
    rw [List.map_map]
    have bound := List.card_nsmul_le_sum
      (files.map ((fun item => (JsonText.write false item).length) ∘
        sortedEntry)) 64 (by
          intro size member
          rcases List.mem_map.mp member with ⟨file, isFile, rfl⟩
          exact entry file isFile)
    rw [List.length_map, smul_eq_mul] at bound
    exact bound
  have entries := JsonText.sum_length_le_write_arr false
    (files.map sortedEntry)
  have whole : (JsonText.write false (.arr (files.map sortedEntry))).length ≤
      (JsonText.write false
        (.obj (signedManifest crypto request files))).length :=
    JsonText.length_le_write_obj false
      (List.mem_cons_of_mem _ List.mem_cons_self)
  have bytes := TextLines.length_le_size_toUTF8 (canonical
    (manifestFields crypto request files ++ [("manifest_hmac_sha256",
      .str (manifestHmac crypto (manifestFields crypto request files)
        request.secretKey))]))
  rw [canonical, JsonLines.sortKeys_obj, sortedFields_signed,
    String.length_ofList] at bytes
  calc files.length * 64
      ≤ (JsonText.write false
          (.obj (signedManifest crypto request files))).length :=
        (sum.trans entries).trans whole
    _ ≤ _ := bytes
    _ = (manifestBytes crypto request files).size := by
        rw [manifestBytes, canonical, JsonLines.sortKeys_obj,
          sortedFields_signed]

/-- What the manifest says is accepted with the key it was signed with. -/
theorem checkManifest_signed :
    checkManifest crypto request.secretKey
        (.obj (signedManifest crypto request files)) =
      .ok { fingerprint := crypto.secretKeyFingerprint request.secretKey
            includesLogs := request.includeLogs
            files := files.map sortedEntry } := by
  have unsigned : (signedManifest crypto request files).filter
      (fun field => field.1 != "manifest_hmac_sha256") =
        sortedManifest crypto request files := rfl
  have isHmac : isSha256 (manifestHmac crypto
      (manifestFields crypto request files) request.secretKey) = true :=
    (crypto.hmacSha256 _ _).isHex
  have isFingerprint : isSha256
      (crypto.secretKeyFingerprint request.secretKey) = true :=
    (crypto.sha256 _).isHex
  have keys : hasKeys (signedManifest crypto request files) manifestKeys =
      true := rfl
  have version : (Json.lookup (signedManifest crypto request files)
      "schema_version").any isVersion = true := rfl
  have created : Json.lookup (signedManifest crypto request files)
      "created_at" = some (.str request.createdAt) := rfl
  have fingerprint : Json.lookup (signedManifest crypto request files)
      "secret_key_fingerprint" = some
        (.str (crypto.secretKeyFingerprint request.secretKey)) := rfl
  have includes : Json.lookup (signedManifest crypto request files)
      "includes_logs" = some (.bool request.includeLogs) := rfl
  have hmac : Json.lookup (signedManifest crypto request files)
      "manifest_hmac_sha256" = some (.str (manifestHmac crypto
        (manifestFields crypto request files) request.secretKey)) := rfl
  have entries : Json.lookup (signedManifest crypto request files)
      "files" = some (.arr (files.map sortedEntry)) := rfl
  rw [checkManifest]
  simp only [keys, version, created, fingerprint, includes, hmac, entries,
    unsigned, digestText, isHmac, isFingerprint,
    manifestHmac_sortedManifest, Bool.true_eq_false, ne_eq,
    not_true_eq_false, if_true, if_false, bind, Except.bind]
  rfl

end Manifest

/-! ## The entries -/

/-- What the manifest says of a file. -/
def expectedOf (file : ArchiveFile) : Expected where
  path := file.path
  size := file.size
  sha256 := file.sha256

/-- A file whose entry is accepted. -/
structure IsArchivable (file : ArchiveFile) : Prop where
  name : IsMemberName file.path
  notManifest : file.path ≠ manifestName
  isHex : isSha256 file.sha256 = true

theorem checkEntry_sortedEntry
    {file : ArchiveFile} {seen : List Expected}
    (archivable : IsArchivable file)
    (fresh : ∀ other ∈ seen, other.path ≠ file.path) :
    checkEntry seen (sortedEntry file) = .ok (expectedOf file) := by
  have name := (validateMemberName_eq_ok_iff file.path).mpr archivable.name
  have accepted : ¬ (file.path = manifestName ∨
      (seen.any fun other => other.path == file.path) = true ∨
      (file.size : Int) < 0 ∨ isSha256 file.sha256 = false) := by
    rw [not_or, not_or, not_or, Bool.not_eq_true, List.any_eq_false,
      Bool.not_eq_false]
    refine ⟨archivable.notManifest, ?_, ?_, archivable.isHex⟩
    · exact fun other isSeen same =>
        fresh other isSeen (beq_iff_eq.mp same)
    · exact not_lt.mpr (Int.natCast_nonneg file.size)
  show (do
    validateMemberName file.path
    if file.path = manifestName ∨
        (seen.any fun other => other.path == file.path) = true ∨
        (file.size : Int) < 0 ∨ isSha256 file.sha256 = false then
      .error (.backupError "manifest file entryの値が不正です")
    else .ok (expectedOf file)) = _
  rw [name, if_neg accepted]
  rfl

theorem checkEntries_sortedEntries
    {files : List ArchiveFile} {seen : List Expected}
    (archivable : ∀ file ∈ files, IsArchivable file)
    (distinct : (files.map ArchiveFile.path).Nodup)
    (apart : ∀ file ∈ files, ∀ other ∈ seen, other.path ≠ file.path) :
    checkEntries (files.map sortedEntry) seen =
      .ok (seen ++ files.map expectedOf) := by
  induction files generalizing seen with
  | nil =>
      rw [List.map_nil, List.map_nil, List.append_nil, checkEntries]
  | cons file rest induction =>
      rw [List.forall_mem_cons] at archivable apart
      rw [List.map_cons, List.nodup_cons, List.mem_map] at distinct
      rw [List.map_cons, List.map_cons, checkEntries, bind_eq_ok_iff]
      refine ⟨expectedOf file,
        checkEntry_sortedEntry archivable.1 apart.1, ?_⟩
      rw [induction archivable.2 distinct.2, ← List.append_cons]
      intro other isOther found isFound
      rcases List.mem_append.mp isFound with isSeen | isFile
      · exact apart.2 other isOther found isSeen
      · rw [List.mem_singleton.mp isFile]
        exact fun same => distinct.1 ⟨other, isOther, same.symm⟩

/-! ## The staging directory -/

/-- Where the file is staged. -/
def placeOf (file : ArchiveFile) : StagedFile :=
  ((PurePosixPath.ofString file.path).parts, file.content)

/-- The member of a file. -/
def memberOf (file : ArchiveFile) : Member :=
  { name := file.path, size := file.size, data := some file.content }

section Staging

variable {crypto : Crypto} {members : List Member} (holds : Path → Bool)

theorem stageMember_eq
    {file : ArchiveFile} {staging : Folder ByteArray}
    (compatible : Compatible [placeOf file])
    (fits : conflicts staging (placeOf file).1 = false)
    (fresh : staging.get (placeOf file).1 = none)
    (found : byName members file.path = some (memberOf file))
    (digest : file.sha256 = (crypto.sha256 file.content).text) :
    ∃ staged, Overlay [placeOf file] staging.get staged.get ∧
      stageMember crypto holds members staging (expectedOf file) =
        if holds (placeOf file).1 then .ok staged else .error .osError := by
  rcases exists_writeFile compatible fits with
    ⟨made, written, makes, same, -, writes, overlay⟩
  refine ⟨written, overlay, ?_⟩
  have copied : copyMember holds staging (placeOf file).1
      (some file.content) file.size =
        if holds (placeOf file).1 then .ok (written, file.content)
        else .error .osError := by
    rw [copyMember, makes]
    dsimp only
    rw [same, fresh]
    cases holds (placeOf file).1 with
    | false => rfl
    | true =>
        have sameSize : file.content.size = file.size := rfl
        rw [sameSize, if_neg (by simp), if_neg (lt_irrefl _),
          if_neg (not_not_intro rfl)]
        rw [show made.writeFile (placeOf file).1 file.content =
          some written from writes]
        rfl
  rw [stageMember, show byName members (expectedOf file).path =
    some (memberOf file) from found]
  dsimp only
  rw [if_neg (by simp [memberOf, expectedOf])]
  rw [show copyMember holds staging
      (PurePosixPath.ofString (expectedOf file).path).parts
      (memberOf file).data (expectedOf file).size = _ from copied]
  cases holds (placeOf file).1 with
  | false => rfl
  | true =>
      rw [if_pos rfl, if_pos rfl]
      simp only [bind, Except.bind, expectedOf, digest, ne_eq,
        not_true_eq_false, if_false]
      rfl

/-- The loop over the files of an archive. -/
theorem stageMembers_eq
    {files : List ArchiveFile} {staging : Folder ByteArray}
    (compatible : Compatible (files.map placeOf))
    (fits : ∀ file ∈ files, conflicts staging (placeOf file).1 = false)
    (fresh : ∀ file ∈ files, staging.get (placeOf file).1 = none)
    (found : ∀ file ∈ files, byName members file.path = some (memberOf file))
    (digest : ∀ file ∈ files,
      file.sha256 = (crypto.sha256 file.content).text) :
    ∃ staged, Overlay (files.map placeOf) staging.get staged.get ∧
      (files.map expectedOf).foldlM (stageMember crypto holds members)
        staging =
          if ∀ file ∈ files, holds (placeOf file).1 = true then .ok staged
          else .error .osError := by
  induction files generalizing staging with
  | nil =>
      refine ⟨staging, .nil _, ?_⟩
      rw [if_pos fun _ impossible => absurd impossible List.not_mem_nil]
      rfl
  | cons file rest induction =>
      rw [List.forall_mem_cons] at fits fresh found digest
      rw [List.map_cons] at compatible
      rcases stageMember_eq holds compatible.head fits.1 fresh.1
        found.1 digest.1 with ⟨middle, first, isFirst⟩
      have pair : ∀ other ∈ rest,
          Compatible [placeOf file, placeOf other] := fun other member =>
        compatible.pair (List.mem_map_of_mem member)
      have restFits : ∀ other ∈ rest,
          conflicts middle (placeOf other).1 = false := fun other member =>
        first.conflicts_eq_false (pair other member) (fits.2 other member)
      have restFresh : ∀ other ∈ rest,
          middle.get (placeOf other).1 = none := by
        intro other member
        rw [first.other, fresh.2 other member]
        intro one isOne
        rw [List.mem_singleton.mp isOne]
        constructor
        · intro same
          exact (List.nodup_cons.mp (pair other member).distinct).1
            (same ▸ List.mem_cons_self)
        · exact (pair other member).leaves _
            (List.mem_cons_of_mem _ List.mem_cons_self) _ List.mem_cons_self
      rcases induction compatible.tail restFits restFresh found.2 digest.2
        with ⟨staged, later, isLater⟩
      refine ⟨staged, .cons compatible first later, ?_⟩
      rw [List.map_cons, List.foldlM_cons, isFirst]
      by_cases isHeld : holds (placeOf file).1 = true
      · rw [if_pos isHeld]
        show (rest.map expectedOf).foldlM (stageMember crypto holds members)
          middle = _
        rw [isLater]
        simp only [List.forall_mem_cons, isHeld, true_and]
      · rw [if_neg isHeld, if_neg]
        · rfl
        · exact fun all => isHeld (all file List.mem_cons_self)

end Staging

end Sluicery.Backup
