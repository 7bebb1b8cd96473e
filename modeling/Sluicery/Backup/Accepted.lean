import Sluicery.Backup.Restore

/-!
# Archives which are accepted

What `_read_archive` asks of an archive, one check after the other, and what
is staged when it accepts one.
-/

namespace Sluicery.Backup

open Sluicery.Library Sluicery.Library.FileTree

/-! ## Members -/

/-- What `_validate_member_name` accepts. -/
structure IsMemberName (name : String) : Prop where
  noBackslash : '\\' ∉ name.toList
  relative : (PurePosixPath.ofString name).root = ""
  noParent : ".." ∉ (PurePosixPath.ofString name).parts
  normal : (PurePosixPath.ofString name).asPosix = name
  allowed : name = manifestName ∨ name = databaseName ∨
    2 ≤ (PurePosixPath.ofString name).parts.length ∧
      ((PurePosixPath.ofString name).parts.head? = some "config" ∨
        (PurePosixPath.ofString name).parts.head? = some "logs")

theorem validateMemberName_eq_ok_iff (name : String) :
    validateMemberName name = .ok () ↔ IsMemberName name := by
  rw [validateMemberName, ite_error_eq_ok_iff]
  dsimp only
  rw [ite_error_eq_ok_iff]
  constructor
  · rintro ⟨noBackslash, normal, allowed⟩
    rw [not_or, not_or, not_not, not_not] at normal
    refine ⟨noBackslash, normal.1, normal.2.1, normal.2.2, ?_⟩
    split at allowed
    · next isSingle => exact isSingle.imp_right Or.inl
    · rw [ite_eq_left_iff] at allowed
      refine Or.inr (Or.inr ?_)
      by_contra notAllowed
      cases allowed notAllowed
  · rintro ⟨noBackslash, relative, noParent, normal, allowed⟩
    refine ⟨noBackslash, ?_, ?_⟩
    · rw [not_or, not_or, not_not, not_not]
      exact ⟨relative, noParent, normal⟩
    · split
      · rfl
      · next notSingle =>
          rw [if_pos]
          exact (or_assoc.mpr allowed).resolve_left notSingle

/-- What is asked of one member. -/
structure IsSound (member : Member) : Prop where
  name : IsMemberName member.name
  isFile : member.isFile = true
  size : 0 ≤ member.size

/-- The loop over the members checks each one, and the sum of the sizes. -/
theorem checkMembers_eq_ok_iff
    {members seen checked : List Member} {total : Int}
    (within : total ≤ maxArchiveUncompressedBytes) :
    checkMembers members seen total = .ok checked ↔
      checked = seen ++ members ∧ (∀ member ∈ members, IsSound member) ∧
        (members.map Member.name).Nodup ∧
        (∀ member ∈ members, ∀ other ∈ seen, member.name ≠ other.name) ∧
        total + (members.map Member.size).sum ≤
          maxArchiveUncompressedBytes := by
  induction members generalizing seen total with
  | nil =>
      rw [checkMembers, Except.ok.injEq, List.append_nil, eq_comm]
      simp [within]
  | cons member rest induction =>
      rw [checkMembers, check_bind_eq_ok_iff, validateMemberName_eq_ok_iff]
      dsimp only
      rw [ite_error_bind_eq_ok_iff, ite_error_bind_eq_ok_iff]
      have sums : total + member.size + (rest.map Member.size).sum =
          total + ((member :: rest).map Member.size).sum := by
        rw [List.map_cons, List.sum_cons]
        omega
      constructor
      · rintro ⟨name, passed, fits, others⟩
        rw [not_or, not_or, Bool.not_eq_true, Bool.not_eq_false, not_lt,
          List.any_eq_false] at passed
        rcases passed with ⟨fresh, isFile, size⟩
        rw [induction (not_lt.mp fits), sums] at others
        rcases others with ⟨rfl, sound, distinct, apart, bounded⟩
        refine ⟨List.append_cons .. |>.symm, ?_, ?_, ?_, bounded⟩
        · rw [List.forall_mem_cons]
          exact ⟨⟨name, isFile, size⟩, sound⟩
        · rw [List.map_cons, List.nodup_cons, List.mem_map]
          refine ⟨?_, distinct⟩
          rintro ⟨other, isOther, same⟩
          exact apart other isOther member
            (List.mem_append_right _ (List.mem_singleton_self member)) same
        · rw [List.forall_mem_cons]
          refine ⟨fun other isOther same => fresh other isOther ?_, ?_⟩
          · rw [beq_iff_eq, same]
          · exact fun other isOther found isFound => apart other isOther
              found (List.mem_append_left _ isFound)
      · rintro ⟨rfl, sound, distinct, apart, bounded⟩
        rw [List.forall_mem_cons] at sound apart
        rw [List.map_cons, List.nodup_cons, List.mem_map] at distinct
        rcases sound with ⟨⟨name, isFile, size⟩, sound⟩
        have restSize : 0 ≤ (rest.map Member.size).sum :=
          List.sum_nonneg fun value isValue => by
            rcases List.mem_map.mp isValue with ⟨other, isOther, rfl⟩
            exact (sound other isOther).size
        have fits : total + member.size ≤ maxArchiveUncompressedBytes := by
          omega
        refine ⟨name, ?_, not_lt.mpr fits, ?_⟩
        · rw [not_or, not_or, Bool.not_eq_true, Bool.not_eq_false, not_lt,
            List.any_eq_false]
          refine ⟨fun other isOther same => ?_, isFile, size⟩
          exact apart.1 other isOther (beq_iff_eq.mp same).symm
        · rw [induction fits, sums]
          refine ⟨List.append_cons .., sound, distinct.2, ?_, bounded⟩
          intro other isOther found isFound
          rcases List.mem_append.mp isFound with isSeen | isMember
          · exact apart.2 other isOther found isSeen
          · rw [List.mem_singleton.mp isMember]
            exact fun same => distinct.1 ⟨other, isOther, same⟩

/-! ## The manifest -/

/-- The manifest is found among the members, and is JSON. -/
theorem loadManifest_eq_ok_iff {members : List Member} {value : Json} :
    loadManifest members = .ok value ↔
      ∃ member data text, byName members manifestName = some member ∧
        member.size ≤ maxManifestBytes ∧ member.data = some data ∧
        String.fromUTF8? data = some text ∧
        JsonText.loads text.toList = some value := by
  rw [loadManifest]
  cases found : byName members manifestName with
  | none =>
      constructor
      · intro impossible
        cases impossible
      · rintro ⟨_, _, _, ⟨⟩, _⟩
  | some member =>
      dsimp only
      rw [ite_error_bind_eq_ok_iff, not_lt]
      constructor
      · rintro ⟨bounded, read⟩
        split at read
        · next data isData =>
            split at read
            · next text isText =>
                split at read
                · next other isJson =>
                    cases read
                    exact ⟨member, data, text, rfl, bounded, isData, isText,
                      isJson⟩
                · cases read
            · cases read
        · cases read
      · rintro ⟨_, data, text, ⟨⟩, bounded, isData, isText, isJson⟩
        refine ⟨bounded, ?_⟩
        rw [isData]
        dsimp only
        rw [isText]
        dsimp only
        rw [isJson]
        rfl

/-! ## The staging directory -/

theorem sameNames_iff {left right : List String} :
    sameNames left right = true ↔ ∀ name, name ∈ left ↔ name ∈ right := by
  rw [sameNames, Bool.and_eq_true, List.all_eq_true, List.all_eq_true]
  simp only [List.contains_iff_mem]
  constructor
  · rintro ⟨toRight, toLeft⟩ name
    exact ⟨toRight name, toLeft name⟩
  · intro same
    exact ⟨fun name => (same name).mp, fun name => (same name).mpr⟩

/-- What is asked of the members which the manifest names. -/
structure Stages {Content : Type} (environment : Environment Content)
    (members : List Member) (manifest : Manifest)
    (expected : List Expected) (staging : Folder ByteArray) : Prop where
  entries : checkEntries manifest.files [] = .ok expected
  hasDatabase : databaseName ∈ expected.map Expected.path
  names : ∀ name, name ∈ (members.map Member.name).filter
    (· != manifestName) ↔ name ∈ expected.map Expected.path
  logs : manifest.includesLogs = false → ∀ entry ∈ expected,
    ¬ "logs/".toList <+: entry.path.toList
  staged : expected.foldlM (stageMember environment.crypto
    (environment.disk .staging).holds members) .empty = .ok staging
  database : ∃ database, staging.get ["database", "sluicery.db"] =
    some (.file database) ∧
      validateDatabase environment.sqlite database = .ok ()

theorem stageMembers_eq_ok_iff
    {Content : Type} {environment : Environment Content}
    {members : List Member} {manifest : Manifest}
    {staging : Folder ByteArray} :
    stageMembers environment members manifest = .ok staging ↔
      ∃ expected, Stages environment members manifest expected staging := by
  rw [stageMembers, bind_eq_ok_iff]
  apply exists_congr
  intro expected
  dsimp only
  rw [ite_error_bind_eq_ok_iff, ite_error_bind_eq_ok_iff,
    ite_error_bind_eq_ok_iff]
  constructor
  · rintro ⟨entries, hasDatabase, names, logs, rest⟩
    rw [bind_eq_ok_iff] at rest
    rcases rest with ⟨staged, isStaged, rest⟩
    rw [Bool.not_eq_false, List.any_eq_true] at hasDatabase
    rw [Bool.not_eq_false, sameNames_iff] at names
    split at rest
    · next database found =>
        rw [check_bind_eq_ok_iff] at rest
        rcases rest with ⟨intact, ⟨⟩⟩
        constructor
        · exact entries
        · rcases hasDatabase with ⟨entry, member, same⟩
          exact List.mem_map.mpr ⟨entry, member, beq_iff_eq.mp same⟩
        · exact names
        · rintro noLogs entry member isLog
          exact logs ⟨noLogs, List.any_eq_true.mpr
            ⟨entry, member, List.isPrefixOf_iff_prefix.mpr isLog⟩⟩
        · exact isStaged
        · exact ⟨database, found, intact⟩
    · cases rest
  · rintro ⟨entries, hasDatabase, names, logs, staged, database, found,
      intact⟩
    refine ⟨entries, ?_, ?_, ?_, ?_⟩
    · rcases List.mem_map.mp hasDatabase with ⟨entry, member, same⟩
      rw [Bool.not_eq_false, List.any_eq_true]
      exact ⟨entry, member, beq_iff_eq.mpr same⟩
    · rw [Bool.not_eq_false, sameNames_iff]
      exact names
    · rintro ⟨noLogs, isLog⟩
      rcases List.any_eq_true.mp isLog with ⟨entry, member, isPrefix⟩
      exact logs noLogs entry member
        (List.isPrefixOf_iff_prefix.mp isPrefix)
    · rw [bind_eq_ok_iff]
      refine ⟨staging, staged, ?_⟩
      rw [found]
      dsimp only
      rw [check_bind_eq_ok_iff]
      exact ⟨intact, rfl⟩

/-- What is asked of an archive. -/
structure Accepts {Content : Type} (environment : Environment Content)
    (secretKey : String) (members : List Member) (manifest : Manifest)
    (staging : Folder ByteArray) : Prop where
  nonempty : members ≠ []
  count : members.length ≤ maxArchiveMembers
  sound : ∀ member ∈ members, IsSound member
  distinct : (members.map Member.name).Nodup
  total : (members.map Member.size).sum ≤ maxArchiveUncompressedBytes
  loaded : ∃ value, loadManifest members = .ok value ∧
    checkManifest environment.crypto secretKey value = .ok manifest
  staged : stageMembers environment members manifest = .ok staging

theorem readArchive_eq_ok_iff
    {Content : Type} {environment : Environment Content}
    {secretKey : String} {source : ArchiveSource} {manifest : Manifest}
    {staging : Folder ByteArray} :
    readArchive environment secretKey source = .ok (manifest, staging) ↔
      ∃ members, source = .archive members ∧
        Accepts environment secretKey members manifest staging := by
  have notArchive : ∀ failure : Failure,
      (Except.error failure : Except Failure (Manifest × Folder ByteArray)) ≠
        .ok (manifest, staging) := by
    intro failure impossible
    cases impossible
  cases source with
  | unsafeFile => exact iff_of_false (notArchive _) (by rintro ⟨_, ⟨⟩, _⟩)
  | unreadable => exact iff_of_false (notArchive _) (by rintro ⟨_, ⟨⟩, _⟩)
  | broken => exact iff_of_false (notArchive _) (by rintro ⟨_, ⟨⟩, _⟩)
  | archive members =>
      rw [readArchive]
      dsimp only
      rw [ite_error_bind_eq_ok_iff]
      have start : (0 : Int) ≤ maxArchiveUncompressedBytes :=
        Int.natCast_nonneg maxArchiveUncompressedBytes
      simp only [bind_eq_ok_iff, checkMembers_eq_ok_iff start,
        List.nil_append, zero_add]
      constructor
      · rintro ⟨bounds, _, ⟨rfl, sound, distinct, -, total⟩, value, isJson,
          _, isManifest, _, isStaged, ⟨⟩⟩
        rw [not_or, not_lt] at bounds
        exact ⟨_, rfl, bounds.1, bounds.2, sound, distinct, total,
          ⟨value, isJson, isManifest⟩, isStaged⟩
      · rintro ⟨_, ⟨⟩, nonempty, count, sound, distinct, total,
          ⟨value, isJson, isManifest⟩, isStaged⟩
        refine ⟨not_or.mpr ⟨nonempty, not_lt.mpr count⟩, members,
          ⟨rfl, sound, distinct, ?_, total⟩, value, isJson, manifest,
          isManifest, staging, isStaged, rfl⟩
        exact fun _ _ _ isSeen => absurd isSeen List.not_mem_nil

/-- The database which is staged was found intact. -/
theorem validateDatabase_of_readArchive
    {Content : Type} {environment : Environment Content}
    {secretKey : String} {source : ArchiveSource} {manifest : Manifest}
    {staging : Folder ByteArray}
    (read : readArchive environment secretKey source =
      .ok (manifest, staging)) :
    ∃ database, staging.get ["database", "sluicery.db"] =
      some (.file database) ∧
        validateDatabase environment.sqlite database = .ok () := by
  rcases readArchive_eq_ok_iff.mp read with ⟨members, -, accepts⟩
  rcases stageMembers_eq_ok_iff.mp accepts.staged with ⟨expected, stages⟩
  exact stages.database

end Sluicery.Backup
