import Sluicery.Core.ConfigImport

/-!
# What an import preserves

An accepted import of a loaded document leaves a configuration exportable,
provided that a creation brings no name which its table already has.  The
three tables are treated at once: `Lawful` says what the functions of an
`Entity` do to names and to portability.
-/

namespace Sluicery.Core.ConfigTransfer

open Sluicery.Library Sluicery.Db Sluicery.Core.Settings

/-! ## One table -/

section Rows

variable {Document Row : Type} {entity : Entity Document Row}
    {table next : Table Row}

theorem oneByName_eq_none_iff {name : String} :
    oneByName entity table name = .ok none ↔
      ∀ id row, table.get id = some row → entity.rowName row ≠ name := by
  rw [oneByName]
  cases found : table.select fun _ row => entity.rowName row == name with
  | nil =>
      refine iff_of_true rfl ?_
      intro id row isRow same
      have member : (id, row) ∈
          table.select fun _ row => entity.rowName row == name := by
        rw [Table.mem_select_iff]
        exact ⟨isRow, beq_iff_eq.mpr same⟩
      rw [found] at member
      cases member
  | cons first rest =>
      have isFirst : first ∈
          table.select fun _ row => entity.rowName row == name := by
        rw [found]
        exact List.mem_cons_self
      rw [Table.mem_select_iff, beq_iff_eq] at isFirst
      refine iff_of_false ?_ ?_
      · cases rest with
        | nil => exact fun impossible => nomatch impossible
        | cons second rest => exact fun impossible => nomatch impossible
      · intro free
        exact free _ _ isFirst.1 isFirst.2

theorem get_of_oneByName
    {name : String} {id : Nat} {row : Row}
    (found : oneByName entity table name = .ok (some (id, row))) :
    table.get id = some row ∧ entity.rowName row = name := by
  have member : (id, row) ∈
      table.select fun _ row => entity.rowName row == name := by
    rw [oneByName] at found
    split at found
    · cases found
    · next entry isEntry =>
        cases found
        rw [isEntry]
        exact List.mem_cons_self
    · cases found
  rw [Table.mem_select_iff, beq_iff_eq] at member
  exact member

/-- A row with a unique name is found by its name. -/
theorem oneByName_of_get
    (unique : table.UniqueBy entity.rowName) {id : Nat} {row : Row}
    (isRow : table.get id = some row) :
    oneByName entity table (entity.rowName row) = .ok (some (id, row)) := by
  have entries : table.select
      (fun _ other => entity.rowName other == entity.rowName row) =
        [(id, row)] := by
    have distinct : (table.select fun _ other =>
        entity.rowName other == entity.rowName row).Nodup :=
      (List.Nodup.of_map Prod.fst
        (table.ascending.imp Nat.ne_of_lt)).filter _
    refine List.perm_singleton.mp ((List.perm_ext_iff_of_nodup distinct
      (List.nodup_singleton _)).mpr ?_)
    rintro ⟨other, otherRow⟩
    rw [Table.mem_select_iff, beq_iff_eq, List.mem_singleton]
    constructor
    · rintro ⟨isOther, same⟩
      have sameKey := unique other id otherRow row isOther isRow same
      subst sameKey
      rw [isRow] at isOther
      cases isOther
      rfl
    · rintro ⟨⟩
      exact ⟨isRow, rfl⟩
  rw [oneByName, entries]

variable [DecidableEq Row]

/-- What one turn of the loop does. -/
theorem importRow_cases
    {now : Time} {document : Document} {action : Action} {id : Nat}
    (taken : importRow entity now table document action = .ok (next, id)) :
    (action = .skip ∧ next = table) ∨
    (action = .overwrite ∧ ∃ old new, table.get id = some old ∧
      entity.rowName old = entity.documentName document ∧
      entity.overwrite document old = .ok new ∧
      next = updateRow table id old new (entity.stamp now)) ∨
    (action = .create ∧ ∃ known row,
      entity.create document known = .ok row ∧
      next = table.insert (entity.stamp now row)) := by
  rw [importRow, bind_eq_ok_iff] at taken
  rcases taken with ⟨existing, isExisting, taken⟩
  cases action with
  | skip =>
      cases existing with
      | none => cases taken
      | some entry =>
          cases taken
          exact .inl ⟨rfl, rfl⟩
  | overwrite =>
      cases existing with
      | none => cases taken
      | some entry =>
          rcases (bind_eq_ok_iff _ _ _).mp taken with ⟨new, isNew, same⟩
          cases same
          rcases get_of_oneByName isExisting with ⟨found, sameName⟩
          exact .inr (.inl ⟨rfl, _, new, found, sameName, isNew, rfl⟩)
  | create =>
      rcases (bind_eq_ok_iff _ _ _).mp taken with ⟨row, isRow, same⟩
      cases same
      exact .inr (.inr ⟨rfl, _, row, isRow, rfl⟩)

theorem get_updateRow
    {id : Nat} {old new : Row} (stamp : Row → Row)
    (found : table.get id = some old) (key : Nat) :
    (updateRow table id old new stamp).get key =
      if key = id then some (if new = old then old else stamp new)
      else table.get key := by
  rw [updateRow]
  by_cases unchanged : new = old
  · rw [if_pos unchanged, if_pos unchanged]
    by_cases isKey : key = id
    · rw [if_pos isKey, isKey, found]
    · rw [if_neg isKey]
  · rw [if_neg unchanged, if_neg unchanged, Table.get_modify]
    by_cases isKey : key = id
    · rw [if_pos isKey, if_pos isKey, isKey, found, Option.map_some]
    · rw [if_neg isKey, if_neg isKey]

/-- An update which keeps a column which is unique. -/
theorem uniqueBy_updateRow
    {Value : Type} {column : Row → Value} (unique : table.UniqueBy column)
    {id : Nat} {old new : Row} {stamp : Row → Row}
    (found : table.get id = some old)
    (same : column (stamp new) = column old) :
    (updateRow table id old new stamp).UniqueBy column := by
  rw [updateRow]
  split
  · exact unique
  · apply unique.modify
    intro row isRow
    rw [found] at isRow
    cases isRow
    rw [same]
    exact unique.freeFor found

/-- What the functions of an entity do to names and to portability. -/
structure Lawful (entity : Entity Document Row)
    (accepted : Document → Prop) (portable : Row → Prop) : Prop where
  create : ∀ document known row, accepted document →
    entity.create document known = .ok row →
      entity.rowName row = entity.documentName document ∧ portable row
  overwrite : ∀ document old new, accepted document → portable old →
    entity.overwrite document old = .ok new →
      entity.rowName new = entity.documentName document ∧ portable new
  stamp : ∀ now row, entity.rowName (entity.stamp now row) =
    entity.rowName row ∧ (portable row → portable (entity.stamp now row))

variable {accepted : Document → Prop} {portable : Row → Prop}

/-- One turn of the loop keeps a table portable. -/
theorem portableTable_importRow
    (lawful : Lawful entity accepted portable)
    {now : Time} {document : Document} {action : Action} {id : Nat}
    (taken : importRow entity now table document action = .ok (next, id))
    (isAccepted : accepted document)
    (held : PortableTable entity.rowName portable table)
    (fresh : action = .create → ∀ id row, table.get id = some row →
      entity.rowName row ≠ entity.documentName document) :
    PortableTable entity.rowName portable next := by
  rcases importRow_cases taken with ⟨-, rfl⟩ |
    ⟨-, old, new, found, sameName, isNew, rfl⟩ | ⟨isCreate, known, row, isRow, rfl⟩
  · exact held
  · rcases lawful.overwrite document old new isAccepted
      (held.rows id old found) isNew with ⟨newName, newPortable⟩
    have stamped := lawful.stamp now new
    constructor
    · intro key row isRow
      rw [get_updateRow _ found] at isRow
      split_ifs at isRow with isKey unchanged
      · cases isRow
        exact held.rows id _ found
      · cases isRow
        exact stamped.2 newPortable
      · exact held.rows key row isRow
    · apply uniqueBy_updateRow held.names found
      rw [stamped.1, newName, sameName]
  · rcases lawful.create document known row isAccepted isRow with
      ⟨newName, newPortable⟩
    have stamped := lawful.stamp now row
    constructor
    · intro key other isOther
      rw [Table.get_insert] at isOther
      split_ifs at isOther with isNext
      · cases isOther
        exact stamped.2 newPortable
      · exact held.rows key other isOther
    · apply held.names.insert
      intro other old found
      rw [stamped.1, newName]
      exact fresh isCreate other old found

/-- A name of the table after a turn is one from before or the new one. -/
theorem rowName_importRow
    (lawful : Lawful entity accepted portable)
    {now : Time} {document : Document} {action : Action} {id : Nat}
    (taken : importRow entity now table document action = .ok (next, id))
    (isAccepted : accepted document)
    (held : PortableTable entity.rowName portable table)
    {key : Nat} {row : Row} (isRow : next.get key = some row) :
    (∃ old, table.get key = some old ∧
        entity.rowName old = entity.rowName row) ∨
      entity.rowName row = entity.documentName document := by
  rcases importRow_cases taken with ⟨-, rfl⟩ |
    ⟨-, old, new, found, sameName, isNew, rfl⟩ | ⟨-, known, new, isNew, rfl⟩
  · exact .inl ⟨row, isRow, rfl⟩
  · rw [get_updateRow _ found] at isRow
    split_ifs at isRow with isKey unchanged
    · cases isRow
      exact .inr sameName
    · cases isRow
      rcases lawful.overwrite document old new isAccepted
        (held.rows id old found) isNew with ⟨newName, -⟩
      refine .inr ?_
      rw [(lawful.stamp now new).1, newName]
    · exact .inl ⟨row, isRow, rfl⟩
  · rw [Table.get_insert] at isRow
    split_ifs at isRow with isNext
    · cases isRow
      rcases lawful.create document known new isAccepted isNew with
        ⟨newName, -⟩
      refine .inr ?_
      rw [(lawful.stamp now new).1, newName]
    · exact .inl ⟨row, isRow, rfl⟩

/-- No row disappears. -/
theorem get_importRow
    {now : Time} {document : Document} {action : Action} {id : Nat}
    (taken : importRow entity now table document action = .ok (next, id))
    {key : Nat} (present : table.get key ≠ none) : next.get key ≠ none := by
  rcases importRow_cases taken with ⟨-, rfl⟩ |
    ⟨-, old, new, found, -, -, rfl⟩ | ⟨-, known, row, -, rfl⟩
  · exact present
  · rw [get_updateRow _ found]
    split_ifs
    · exact Option.some_ne_none _
    · exact Option.some_ne_none _
    · exact present
  · intro missing
    exact present (Table.get_of_get_insert missing)

/-- The loop over a table keeps it portable, and every row of it. -/
theorem importRows_portable
    (lawful : Lawful entity accepted portable) {now : Time}
    {state final : Importing Row} {pairs : List (Document × Decision)}
    (done : importRows entity now state pairs = .ok final)
    (areAccepted : ∀ pair ∈ pairs, accepted pair.1)
    (distinct : (pairs.map fun pair =>
      entity.documentName pair.1).Nodup)
    (fresh : ∀ pair ∈ pairs, pair.2.operation.action = .create →
      ∀ id row, state.table.get id = some row →
        entity.rowName row ≠ entity.documentName pair.1)
    (held : PortableTable entity.rowName portable state.table) :
    PortableTable entity.rowName portable final.table ∧
      ∀ id, state.table.get id ≠ none → final.table.get id ≠ none := by
  induction pairs generalizing state with
  | nil =>
      cases done
      exact ⟨held, fun _ present => present⟩
  | cons pair pairs induction =>
      rw [importRows, bind_eq_ok_iff] at done
      rcases done with ⟨⟨next, id⟩, taken, rest⟩
      rw [List.forall_mem_cons] at areAccepted fresh
      rw [List.map_cons, List.nodup_cons] at distinct
      have nextHeld := portableTable_importRow lawful taken areAccepted.1
        held fresh.1
      have later := induction rest areAccepted.2 distinct.2 ?_ nextHeld
      · refine ⟨later.1, ?_⟩
        intro key present
        exact later.2 key (get_importRow taken present)
      · intro other member isCreate key row isRow same
        rcases rowName_importRow lawful taken areAccepted.1 held isRow with
          ⟨old, found, sameName⟩ | sameName
        · exact fresh.2 other member isCreate key old found
            (sameName.trans same)
        · apply distinct.1
          rw [← sameName, same]
          exact List.mem_map_of_mem
            (f := fun pair : Document × Decision =>
              entity.documentName pair.1) member

end Rows

/-! ## The three tables -/

/-- A checked configuration is exported as it is, or as an omitted one. -/
theorem portableStorageConfig_checked
    {row : Storage} {omittable : Bool}
    (valid : validateStorageConfig row.kind row.configJson omittable =
      .ok ()) :
    portableStorageConfig row = .ok (cleanedConfig row) := by
  rw [validateStorageConfig.eq_def] at valid
  split at valid
  · next omitted =>
      have noFields : allowedConfig row = [] := by
        rw [allowedConfig, omitted.2]
        rfl
      have refused : validateStorageConfig row.kind (some []) false =
          invalid "Storage configの項目が不正です" := by
        cases row.kind with
        | «local» => rfl
        | remote => rfl
        | mount => rfl
      rw [portableStorageConfig, cleanedConfig, noFields, refused]
      rfl
  · cases isConfig : row.configJson with
    | none =>
        rw [isConfig] at valid
        cases valid
    | some config =>
        rw [isConfig] at valid
        have exact : hasExactly config (storageConfigFields row.kind) =
            true := by
          by_contra notExact
          simp only [notExact, not_false_eq_true, if_true] at valid
          cases valid
        have allowed : allowedConfig row = config := by
          rw [allowedConfig, isConfig]
          rw [hasExactly, Bool.and_eq_true, List.all_eq_true] at exact
          exact List.filter_eq_self.mpr exact.1
        have accepted : validateStorageConfig row.kind (some config) false =
            .ok () := by
          rw [validateStorageConfig.eq_def]
          simpa only [Bool.false_eq_true, false_and, if_false] using valid
        rw [portableStorageConfig, cleanedConfig, allowed, accepted]

theorem portableStorage_values
    {document : StorageConfig} (accepted : checkStorage document = .ok ())
    (row : Storage) :
    PortableStorage (storageValues document row) := by
  rw [checkStorage, andThen_eq_ok_iff, andThen_eq_ok_iff] at accepted
  rcases accepted with ⟨-, name, config⟩
  have stored : validateStorageConfig (storageValues document row).kind
      (storageValues document row).configJson
      document.requiresCredentials = .ok () := config
  exact ⟨name, portableStorageConfig_checked stored⟩

theorem lawful_storageEntity :
    Lawful storageEntity (fun document => checkStorage document = .ok ())
      PortableStorage := by
  constructor
  · intro document known row accepted isRow
    cases isRow
    exact ⟨rfl, portableStorage_values accepted _⟩
  · intro document old new accepted held isNew
    cases isNew
    exact ⟨rfl, portableStorage_values accepted old⟩
  · intro now row
    exact ⟨rfl, fun held => ⟨held.name, held.config⟩⟩

theorem portableProfile_values
    {document : ProfileConfig} (accepted : checkProfile document = .ok ())
    (row : Profile) :
    PortableProfile (profileValues document row) := by
  rw [checkProfile, andThen_eq_ok_iff, andThen_eq_ok_iff, andThen_eq_ok_iff,
    andThen_eq_ok_iff] at accepted
  rcases accepted with ⟨-, name, -, columns, -⟩
  exact ⟨name, columns⟩

theorem lawful_profileEntity :
    Lawful profileEntity (fun document => checkProfile document = .ok ())
      PortableProfile := by
  constructor
  · intro document known row accepted isRow
    cases isRow
    exact ⟨rfl, portableProfile_values accepted _⟩
  · intro document old new accepted held isNew
    cases isNew
    exact ⟨rfl, portableProfile_values accepted old⟩
  · intro now row
    exact ⟨rfl, fun held => ⟨held.name, held.columns⟩⟩

theorem pos_of_optionalPositiveInt
    {parseInt : String → Option Int} {value : Option Json} {field : String}
    {count : Nat}
    (read : optionalPositiveInt parseInt value field = .ok (some count)) :
    0 < count := by
  rw [optionalPositiveInt.eq_def] at read
  split at read
  · cases read
  · cases read
  · cases read
  · split at read
    · cases read
    · next number positive =>
        cases read
        omega
  · split at read
    · cases read
    · next number parsed =>
        split at read
        · cases read
        · next valid =>
            cases read
            omega
  · cases read

/-- A number is read from what is written for it. -/
theorem optionalPositiveInt_optionalNat
    (parseInt : String → Option Int) (field : String) {count : Option Nat}
    (positive : ∀ value, count = some value → 0 < value) :
    optionalPositiveInt parseInt (some (optionalNat count)) field =
      .ok count := by
  cases count with
  | none => rfl
  | some value =>
      have isPositive := positive value rfl
      show (if (value : Int) ≤ 0 then _
        else (.ok (some (value : Int).toNat) : Checked (Option Nat))) = _
      rw [if_neg (by omega), Int.toNat_natCast]

/-- A policy which is disabled is read from what is written for it. -/
theorem policyFromJson_policyToJson
    {parseInt : String → Option Int} {value : Option Json.Fields}
    {policy : Retention.RetentionPolicy}
    (read : policyFromJson parseInt value = .ok policy) :
    policyFromJson parseInt
        (some (policyToJson { policy with enabled := false })) =
      .ok { policy with enabled := false } := by
  have positive :
      (∀ count, policy.keepLatest = some count → 0 < count) ∧
        ∀ count, policy.maxAgeDays = some count → 0 < count := by
    cases value with
    | none =>
        cases read
        constructor
        · intro count impossible
          cases impossible
        · intro count impossible
          cases impossible
    | some fields =>
        have counted : ∀ enabled : Bool, (do
            let keepLatest ← optionalPositiveInt parseInt
              (Json.lookup fields "keep_latest") "keep_latest"
            let maxAgeDays ← optionalPositiveInt parseInt
              (Json.lookup fields "max_age_days") "max_age_days"
            if enabled ∧ keepLatest = none ∧ maxAgeDays = none then
              invalid "有効化時は件数または期間を1つ以上指定してください"
            return { enabled, keepLatest, maxAgeDays } :
              Checked Retention.RetentionPolicy) = .ok policy →
          (∀ count, policy.keepLatest = some count → 0 < count) ∧
            ∀ count, policy.maxAgeDays = some count → 0 < count := by
          intro enabled read
          simp only [bind_eq_ok_iff] at read
          rcases read with ⟨keepLatest, isKeep, maxAge, isMaxAge, same⟩
          split at same
          · cases same
          · cases same
            constructor
            · rintro count rfl
              exact pos_of_optionalPositiveInt isKeep
            · rintro count rfl
              exact pos_of_optionalPositiveInt isMaxAge
        rw [policyFromJson] at read
        dsimp only at read
        split at read
        · cases read
        · split at read
          · exact counted false read
          · exact counted _ read
          · cases read
  show (do
    let keepLatest ← optionalPositiveInt parseInt
      (some (optionalNat policy.keepLatest)) "keep_latest"
    let maxAgeDays ← optionalPositiveInt parseInt
      (some (optionalNat policy.maxAgeDays)) "max_age_days"
    if false ∧ keepLatest = none ∧ maxAgeDays = none then
      invalid "有効化時は件数または期間を1つ以上指定してください"
    return { enabled := false, keepLatest, maxAgeDays } :
      Checked Retention.RetentionPolicy) = _
  rw [optionalPositiveInt_optionalNat _ _ positive.1,
    optionalPositiveInt_optionalNat _ _ positive.2]
  rfl

section Import

variable {environment : Environment}

/-- The URL of a checked Playlist is portable. -/
theorem portableSourceUrl_checked
    {document : PlaylistConfig}
    (accepted : checkPlaylist environment.splitUrl
      environment.settings.parseInt document = .ok ()) :
    document.ytdlpArgs = none ∧
      portableSourceUrl environment.splitUrl document.url =
        (document.url, false) := by
  rw [checkPlaylist, andThen_eq_ok_iff, andThen_eq_ok_iff, andThen_eq_ok_iff,
    andThen_eq_ok_iff, andThen_eq_ok_iff, andThen_eq_ok_iff,
    andThen_eq_ok_iff] at accepted
  rcases accepted with ⟨-, -, -, -, -, -, -, rest⟩
  dsimp only at rest
  split at rest
  · cases rest
  · next noArgs =>
      rw [Bool.not_eq_true, Option.isSome_eq_false_iff,
        Option.isNone_iff_eq_none] at noArgs
      refine ⟨noArgs, ?_⟩
      split at rest
      · cases rest
      · next valid =>
          rcases not_or.mp valid with ⟨notOmitted, sameUrl⟩
          rw [not_ne_iff] at sameUrl
          rw [Bool.not_eq_true] at notOmitted
          exact Prod.ext sameUrl notOmitted

/-- What an import stores for a Playlist. -/
theorem playlistValues_eq_ok
    {document : PlaylistConfig} {row new : Playlist}
    (stored : playlistValues environment document row = .ok new) :
    new.name = document.name ∧ new.folderName = row.folderName ∧
      new.url = row.url ∧ new.discoverCron = document.discoverCron ∧
      new.downloadCron = document.downloadCron ∧
      ∃ policy, policyFromJson environment.settings.parseInt
        new.retentionPolicyJson = .ok policy := by
  rw [playlistValues, bind_eq_ok_iff] at stored
  rcases stored with ⟨policy, read, same⟩
  cases same
  exact ⟨rfl, rfl, rfl, rfl, rfl, _, policyFromJson_policyToJson read⟩

theorem lawful_playlistEntity :
    Lawful (playlistEntity environment)
      (fun document => checkPlaylist environment.splitUrl
        environment.settings.parseInt document = .ok ())
      (PortablePlaylist environment) := by
  have fields : ∀ document, checkPlaylist environment.splitUrl
      environment.settings.parseInt document = .ok () →
        checkText 1 255 document.name = .ok () ∧
        checkText 1 255 document.folderName = .ok () ∧
        checkText 1 2000 (portableSourceUrl environment.splitUrl
          document.url).1 = .ok () ∧
        checkOptional 100 document.discoverCron = .ok () ∧
        checkOptional 100 document.downloadCron = .ok () := by
    intro document accepted
    rcases portableSourceUrl_checked accepted with ⟨noArgs, portable⟩
    rcases (checkPlaylist_iff noArgs portable).mp accepted with
      ⟨-, name, folderName, url, discoverCron, downloadCron, -⟩
    rw [portable]
    exact ⟨name, folderName, url, discoverCron, downloadCron⟩
  constructor
  · intro document known row accepted isRow
    rcases fields document accepted with
      ⟨name, folderName, url, discoverCron, downloadCron⟩
    rcases (bind_eq_ok_iff _ _ _).mp isRow with ⟨new, stored, rest⟩
    have sameRow : row = new := by
      dsimp only at rest
      split_ifs at rest
      · cases rest
      · cases rest
        rfl
    subst sameRow
    rcases playlistValues_eq_ok stored with ⟨isName, isFolder, isUrl,
      isDiscover, isDownload, policy⟩
    refine ⟨isName, ?_, ?_, ?_, ?_, ?_, policy⟩
    · exact isName ▸ name
    · exact isFolder ▸ folderName
    · rw [isUrl]
      exact url
    · exact isDiscover ▸ discoverCron
    · exact isDownload ▸ downloadCron
  · intro document old new accepted held isNew
    rcases fields document accepted with
      ⟨name, folderName, url, discoverCron, downloadCron⟩
    rcases (bind_eq_ok_iff _ _ _).mp isNew with ⟨row, stored, same⟩
    rcases playlistValues_eq_ok stored with ⟨isName, isFolder, isUrl,
      isDiscover, isDownload, policy⟩
    split_ifs at same
    all_goals
      cases same
      refine ⟨isName, ?_, ?_, ?_, ?_, ?_, policy⟩
      · exact isName ▸ name
      · exact isFolder ▸ held.folderName
      · first
          | exact url
          | rw [isUrl]; exact held.url
      · exact isDiscover ▸ discoverCron
      · exact isDownload ▸ downloadCron
  · intro now row
    refine ⟨rfl, ?_⟩
    intro held
    exact ⟨held.name, held.folderName, held.url, held.discoverCron,
      held.downloadCron, held.policy⟩

/-! ## Assignments -/

theorem portableAssignment_of_parts
    {db other : ConfigDatabase} {row : PlaylistProfileRow}
    (portable : PortableAssignment db row)
    (playlist : db.playlist.get row.playlistId ≠ none →
      other.playlist.get row.playlistId ≠ none)
    (profile : db.profile.get row.profileId ≠ none →
      other.profile.get row.profileId ≠ none)
    (storage : db.storage.get row.storageId ≠ none →
      other.storage.get row.storageId ≠ none) :
    PortableAssignment other row :=
  ⟨portable.subpath, playlist portable.playlist, profile portable.profile,
    storage portable.storage⟩

theorem portableAssignment_of_hasParts
    {db : ConfigDatabase} {row : PlaylistProfileRow}
    (parts : hasParts db row = true)
    (subpath : checkText 1 1000 row.subpath = .ok ()) :
    PortableAssignment db row := by
  rw [hasParts, Bool.and_eq_true, Bool.and_eq_true,
    Option.isSome_iff_ne_none, Option.isSome_iff_ne_none,
    Option.isSome_iff_ne_none] at parts
  exact ⟨subpath, parts.1.1, parts.1.2, parts.2⟩

theorem get_of_findAssignment
    {db : ConfigDatabase} {playlistId profileId id : Nat}
    {row : PlaylistProfileRow}
    (found : findAssignment db playlistId profileId = some (id, row)) :
    db.playlistProfile.get id = some row ∧
      assignmentPair row = (playlistId, profileId) := by
  have member := List.mem_of_mem_head? (Option.mem_def.mpr found)
  rw [Table.mem_select_iff, beq_iff_eq] at member
  exact member

theorem findAssignment_eq_none_iff
    {db : ConfigDatabase} {playlistId profileId : Nat} :
    findAssignment db playlistId profileId = none ↔
      ∀ id row, db.playlistProfile.get id = some row →
        assignmentPair row ≠ (playlistId, profileId) := by
  rw [findAssignment, List.head?_eq_none_iff, List.eq_nil_iff_forall_not_mem]
  simp only [Prod.forall, Table.mem_select_iff, beq_iff_eq, not_and]

/-- The assignments of a configuration which is exported. -/
structure PortableAssignments (db : ConfigDatabase) : Prop where
  rows : ∀ id row, db.playlistProfile.get id = some row →
    PortableAssignment db row
  pairs : db.playlistProfile.UniqueBy assignmentPair

/-- A new table of portable assignments, for one pair each. -/
theorem PortableAssignments.replace
    {db : ConfigDatabase} {table : Table PlaylistProfileRow}
    (rows : ∀ id row, table.get id = some row → PortableAssignment db row)
    (pairs : table.UniqueBy assignmentPair) :
    PortableAssignments { db with playlistProfile := table } := by
  constructor
  · intro id row found
    have portable := rows id row found
    exact ⟨portable.subpath, portable.playlist, portable.profile,
      portable.storage⟩
  · exact pairs

/-- Only the assignments change. -/
def SameTables (db next : ConfigDatabase) : Prop :=
  next.storage = db.storage ∧ next.profile = db.profile ∧
    next.playlist = db.playlist

theorem importAssignment_portable
    {now : Time} {mapped : List (String × Nat)} {db next : ConfigDatabase}
    {document : PlaylistProfileConfig} {action : Action}
    (done : importAssignment now mapped db document action = .ok next)
    (accepted : checkPlaylistProfile document = .ok ())
    (held : PortableAssignments db) :
    PortableAssignments next ∧ SameTables db next ∧
      next.setting = db.setting := by
  rw [importAssignment] at done
  simp only [bind_eq_ok_iff] at done
  rcases done with ⟨playlistId, -, profileId, -, storageId, -, done⟩
  split at done
  · cases done
    exact ⟨held, ⟨rfl, rfl, rfl⟩, rfl⟩
  · cases done
  · next id row isRow =>
      split at done
      · next parts =>
          cases done
          rcases get_of_findAssignment isRow with ⟨found, pair⟩
          refine ⟨?_, ⟨rfl, rfl, rfl⟩, rfl⟩
          apply PortableAssignments.replace
          · intro key other isOther
            rw [get_updateRow _ found] at isOther
            split_ifs at isOther
            · cases isOther
              exact held.rows id _ found
            · cases isOther
              exact portableAssignment_of_hasParts parts accepted
            · exact held.rows key other isOther
          · exact uniqueBy_updateRow held.pairs found pair.symm
      · cases done
  · cases done
  · next missing =>
      split at done
      · next parts =>
          cases done
          refine ⟨?_, ⟨rfl, rfl, rfl⟩, rfl⟩
          apply PortableAssignments.replace
          · intro key other isOther
            rw [Table.get_insert] at isOther
            split_ifs at isOther
            · cases isOther
              exact portableAssignment_of_hasParts parts accepted
            · exact held.rows key other isOther
          · apply held.pairs.insert
            intro key other isOther
            exact findAssignment_eq_none_iff.mp missing key other isOther
      · cases done

theorem importAssignments_portable
    {now : Time} {mapped : List (String × Nat)} {db next : ConfigDatabase}
    {result total : ConfigImportResult}
    {pairs : List (PlaylistProfileConfig × Decision)}
    (done : importAssignments now mapped db result pairs =
      .ok (next, total))
    (accepted : ∀ pair ∈ pairs, checkPlaylistProfile pair.1 = .ok ())
    (held : PortableAssignments db) :
    PortableAssignments next ∧ SameTables db next ∧
      next.setting = db.setting := by
  induction pairs generalizing db result with
  | nil =>
      cases done
      exact ⟨held, ⟨rfl, rfl, rfl⟩, rfl⟩
  | cons pair pairs induction =>
      rw [importAssignments, bind_eq_ok_iff] at done
      rcases done with ⟨middle, taken, rest⟩
      rw [List.forall_mem_cons] at accepted
      rcases importAssignment_portable taken accepted.1 held with
        ⟨middleHeld, sameMiddle, sameSetting⟩
      rcases induction rest accepted.2 middleHeld with
        ⟨nextHeld, sameNext, sameNextSetting⟩
      refine ⟨nextHeld, ⟨?_, ?_, ?_⟩, sameNextSetting.trans sameSetting⟩
      · exact sameNext.1.trans sameMiddle.1
      · exact sameNext.2.1.trans sameMiddle.2.1
      · exact sameNext.2.2.trans sameMiddle.2.2

/-! ## Settings -/

/-- A stored value which can be read, and set again if it is exported. -/
structure PortableSettings (environment : Environment)
    (db : ConfigDatabase) : Prop where
  readable : ∀ key, readSetting environment db key = .ok ()
  valid : ValidOverrides environment db

theorem validateOverride_again
    {rules : Rules} {key : Key} {raw : Value} {value : Json}
    (valid : validateOverride rules key raw = .ok value) :
    cast rules (codeDefaults key).type (.json value) = .ok value ∧
      validateOverride rules key (.json value) = .ok value := by
  rw [validateOverride] at valid
  cases casted : cast rules (codeDefaults key).type raw with
  | error message =>
      rw [casted] at valid
      cases valid
  | ok first =>
      rw [casted] at valid
      have again := cast_of_cast casted
      cases checked : checkOverride rules key first with
      | error message =>
          simp only [checked] at valid
          cases valid
      | ok passes =>
          simp only [checked] at valid
          cases valid
          refine ⟨again, ?_⟩
          rw [validateOverride, again]
          simp only [checked]
          rfl

/-- A valid value is written over an override. -/
theorem portableSettings_update
    {db next : ConfigDatabase} (held : PortableSettings environment db)
    {key : Key} {raw : Value} {row : SettingRow}
    (written : next.setting = Function.update db.setting key (some row))
    (valid : validateOverride environment.settings key raw =
      .ok row.value) :
    PortableSettings environment next := by
  rcases validateOverride_again valid with ⟨readable, again⟩
  constructor
  · intro other
    by_cases same : other = key
    · subst same
      have read : Settings.get environment.settings next.overrides other =
          .ok row.value := by
        rw [Settings.get, ConfigDatabase.overrides, written,
          Function.update_self, Option.map_some]
        exact readable
      rw [readSetting, read]
    · have unread := held.readable other
      rw [readSetting, Settings.get, ConfigDatabase.overrides] at unread ⊢
      rwa [written, Function.update_of_ne same]
  · intro other found exportable isFound
    rw [written] at isFound
    by_cases same : other = key
    · subst same
      rw [Function.update_self] at isFound
      cases isFound
      exact ⟨_, again⟩
    · rw [Function.update_of_ne same] at isFound
      exact held.valid other found exportable isFound

theorem importSetting_portable
    {now : Time} {db next : ConfigDatabase} {setting : String × Value}
    {action taken : Action}
    (done : importSetting environment now db setting action =
      .ok (next, taken))
    (held : PortableSettings environment db) :
    PortableSettings environment next ∧
      next = { db with setting := next.setting } := by
  rw [importSetting] at done
  split at done
  · cases done
    exact ⟨held, rfl⟩
  · split at done
    · cases done
    · next key isKey =>
        split at done
        · cases done
        · next value isValue =>
            cases done
            refine ⟨portableSettings_update held rfl
              (isValue.trans (congrArg Except.ok ?_)), rfl⟩
            split
            · split_ifs with same
              · rw [same]
              · rfl
            · rfl

theorem importSettings_portable
    {now : Time} {db next : ConfigDatabase} {result total : ConfigImportResult}
    {pairs : List ((String × Value) × Decision)}
    (done : importSettings environment now db result pairs =
      .ok (next, total))
    (held : PortableSettings environment db) :
    PortableSettings environment next ∧
      next = { db with setting := next.setting } := by
  induction pairs generalizing db result with
  | nil =>
      cases done
      exact ⟨held, rfl⟩
  | cons pair pairs induction =>
      rw [importSettings, bind_eq_ok_iff] at done
      rcases done with ⟨⟨middle, action⟩, taken, rest⟩
      rcases importSetting_portable taken held with ⟨middleHeld, sameMiddle⟩
      rcases induction rest middleHeld with ⟨nextHeld, sameNext⟩
      refine ⟨nextHeld, ?_⟩
      rw [sameNext, sameMiddle]

/-! ## The whole import -/

section Decided

variable {Document Row : Type} {entity : Entity Document Row}
    {table : Table Row} {mode : CollisionMode}

/-- No row has the name of a document. -/
def NamesFree (entity : Entity Document Row) (table : Table Row)
    (documents : List Document) : Prop :=
  ∀ document ∈ documents, ∀ id row, table.get id = some row →
    entity.rowName row ≠ entity.documentName document

/-- A name of a row which is created is free. -/
theorem free_of_create
    {document : Document} {decision : Decision}
    (decided : previewRow entity table mode document = .ok decision)
    (free : mode = .create → NamesFree entity table [document])
    (isCreate : decision.operation.action = .create) {id : Nat} {row : Row}
    (found : table.get id = some row) :
    entity.rowName row ≠ entity.documentName document := by
  rw [previewRow, bind_eq_ok_iff] at decided
  rcases decided with ⟨existing, isExisting, rest⟩
  rcases (bind_eq_ok_iff _ _ _).mp rest with ⟨note, -, same⟩
  cases same
  cases existing with
  | none => exact oneByName_eq_none_iff.mp isExisting id row found
  | some entry =>
      cases mode with
      | skip => cases isCreate
      | overwrite => cases isCreate
      | create =>
          exact free rfl document (List.mem_singleton_self _) id row found

/-- The decisions of a preview are those on the documents, one by one. -/
theorem decided_of_mem_zip
    {Item Value : Type} {f : Item → Checked Value} {items : List Item}
    {values : List Value} (passes : items.mapM f = .ok values)
    {item : Item} {value : Value} (member : (item, value) ∈ items.zip values) :
    f item = .ok value := by
  rw [mapM_eq_ok_iff] at passes
  induction items generalizing values with
  | nil => cases member
  | cons first items induction =>
      cases values with
      | nil => cases passes
      | cons other values =>
          rw [List.map_cons, List.map_cons, List.cons.injEq] at passes
          rw [List.zip_cons_cons, List.mem_cons] at member
          rcases member with same | member
          · cases same
            exact passes.1
          · exact induction passes.2 member

/-- The loop over the decisions on a table keeps it portable. -/
theorem importRows_decided
    [DecidableEq Row] {accepted : Document → Prop} {portable : Row → Prop}
    (lawful : Lawful entity accepted portable) {now : Time}
    {documents : List Document} {decisions : List Decision}
    {mapped : List (String × Nat)} {result : ConfigImportResult}
    {final : Importing Row}
    (decided : documents.mapM (previewRow entity table mode) =
      .ok decisions)
    (done : importRows entity now ⟨table, mapped, result⟩
      (documents.zip decisions) = .ok final)
    (areAccepted : ∀ document ∈ documents, accepted document)
    (distinct : (documents.map entity.documentName).Nodup)
    (free : mode = .create → NamesFree entity table documents)
    (held : PortableTable entity.rowName portable table) :
    PortableTable entity.rowName portable final.table ∧
      ∀ id, table.get id ≠ none → final.table.get id ≠ none := by
  apply importRows_portable lawful done
  · rintro ⟨document, decision⟩ member
    exact areAccepted document (List.of_mem_zip member).1
  · have lengths := congrArg List.length ((mapM_eq_ok_iff _ _ _).mp decided)
    rw [List.length_map, List.length_map] at lengths
    show ((documents.zip decisions).map
      (entity.documentName ∘ Prod.fst)).Nodup
    rw [← List.map_map, List.map_fst_zip lengths.le]
    exact distinct
  · rintro ⟨document, decision⟩ member isCreate id row found
    refine free_of_create (decided_of_mem_zip decided member) ?_ isCreate
      found
    intro isMode other isDocument
    rw [List.mem_singleton] at isDocument
    subst isDocument
    exact free isMode other (List.of_mem_zip member).1
  · exact held

end Decided

/-- No name of a document has been given. -/
structure Fresh (environment : Environment) (db : ConfigDatabase)
    (document : ConfigDocument) : Prop where
  storages : NamesFree storageEntity db.storage document.storages
  profiles : NamesFree profileEntity db.profile document.profiles
  playlists : NamesFree (playlistEntity environment) db.playlist
    document.playlists

/-- An import keeps a configuration exportable. -/
theorem importAll_portable
    {now : Time} {db next : ConfigDatabase} {document : ConfigDocument}
    {mode : CollisionMode} {preview : Preview} {result : ConfigImportResult}
    (valid : checkDocument environment.splitUrl environment.settings.parseInt
      document = .ok ())
    (decided : decide environment db document mode = .ok preview)
    (done : importAll environment now db document preview =
      .ok (next, result))
    (fresh : mode = .create → Fresh environment db document)
    (portable : Portable environment db)
    (overrides : ValidOverrides environment db) :
    Portable environment next ∧ ValidOverrides environment next := by
  rw [checkDocument, andThen_eq_ok_iff, andThen_eq_ok_iff, andThen_eq_ok_iff,
    andThen_eq_ok_iff, forM_eq_ok_iff, forM_eq_ok_iff, forM_eq_ok_iff,
    forM_eq_ok_iff, checkContainer_iff] at valid
  rcases valid with ⟨storageValid, profileValid, playlistValid,
    assignmentValid, consistent⟩
  rw [decide] at decided
  simp only [bind_eq_ok_iff] at decided
  rcases decided with ⟨storageDecisions, storagesDecided, profileDecisions,
    profilesDecided, playlistDecisions, playlistsDecided, same⟩
  cases same
  rw [importAll] at done
  simp only [bind_eq_ok_iff] at done
  rcases done with ⟨storages, storagesDone, profiles, profilesDone, playlists,
    playlistsDone, ⟨assigned, counted⟩, assignmentsDone, settingsDone⟩
  have storagesHeld := importRows_decided lawful_storageEntity
    storagesDecided storagesDone storageValid consistent.storages.2
    (fun create => (fresh create).storages) portable.storages
  have profilesHeld := importRows_decided lawful_profileEntity
    profilesDecided profilesDone profileValid consistent.profiles.2
    (fun create => (fresh create).profiles) portable.profiles
  have playlistsHeld := importRows_decided lawful_playlistEntity
    playlistsDecided playlistsDone playlistValid consistent.playlists.2
    (fun create => (fresh create).playlists) portable.playlists
  have assignmentsBefore : PortableAssignments
      { db with
        storage := storages.table
        profile := profiles.table
        playlist := playlists.table } := by
    constructor
    · intro id row found
      exact portableAssignment_of_parts (portable.assignments id row found)
        (playlistsHeld.2 _) (profilesHeld.2 _) (storagesHeld.2 _)
    · exact portable.pairs
  rcases importAssignments_portable assignmentsDone
    (fun pair member => assignmentValid _ (List.of_mem_zip member).1)
    assignmentsBefore with ⟨assignmentsHeld, sameTables, sameSetting⟩
  have settingsBefore : PortableSettings environment assigned := by
    constructor
    · intro key
      have sameOverrides : assigned.overrides = db.overrides := by
        funext other
        rw [ConfigDatabase.overrides, ConfigDatabase.overrides, sameSetting]
      rw [readSetting, sameOverrides]
      exact portable.settings key
    · intro key row exportable found
      rw [sameSetting] at found
      exact overrides key row exportable found
  rcases importSettings_portable settingsDone settingsBefore with
    ⟨settingsHeld, sameNext⟩
  refine ⟨?_, settingsHeld.valid⟩
  rw [sameNext]
  constructor
  · rw [sameTables.1]
    exact storagesHeld.1
  · rw [sameTables.2.1]
    exact profilesHeld.1
  · rw [sameTables.2.2]
    exact playlistsHeld.1
  · intro id row found
    have held := assignmentsHeld.rows id row found
    exact ⟨held.subpath, held.playlist, held.profile, held.storage⟩
  · exact assignmentsHeld.pairs
  · intro key
    have readable := settingsHeld.readable key
    rw [sameNext] at readable
    exact readable

end Import

end Sluicery.Core.ConfigTransfer
