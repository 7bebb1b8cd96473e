import Mathlib.Data.Finset.Basic
import Sluicery.Core.OptionGuard
import Sluicery.Core.RetentionCrash
import Sluicery.Library.JsonLines

/-!
# The retention audit log as a file

`_write_audit` writes a record as one JSON object and a newline.  Two readers
take the file apart again: `assert_no_unfinished_retention_intents` before a
retention, and the worker's `_retention_audit_has_no_unfinished_intent` before
it removes old logs.  Both end a line where `str.splitlines` does, which for
the characters U+0085, U+2028 and U+2029 is also within a record.
-/

namespace Sluicery.Core.RetentionAudit

open Sluicery.Library Sluicery.Library.TextLines Sluicery.Library.JsonLines
open Sluicery.Db Sluicery.Storage Sluicery.Core.Retention

/-! ## Writing -/

def optionalInt : Option Int → Json
  | none => .null
  | some value => .int value

def optionalStr : Option String → Json
  | none => .null
  | some value => .str value

/-- `asdict(candidate.file_identity)`. -/
def identityFields (identity : RemoteFile) : Json.Fields :=
  [("relative_path", .str identity.relativePath),
    ("size", optionalInt identity.size),
    ("modified_at", optionalStr identity.modifiedAt),
    ("hashes", .obj (Json.update [] (identity.hashes.map fun hash =>
      (hash.1, .str hash.2)))),
    ("file_id", optionalStr identity.fileId)]

section Writing

-- `datetime.isoformat`.
variable (isoformat : Time → String)

/-- The payload of a record. -/
def payload : AuditRecord → Json.Fields
  | .deleteIntent artifactId storageId path quarantinePath size fileIdentity
      storageConfigFingerprint recordedAt =>
      [("event", .str "delete_intent"),
        ("artifact_id", .int artifactId),
        ("storage_id", .int storageId),
        ("path", .str path),
        ("quarantine_path", .str quarantinePath),
        ("size", optionalInt size),
        ("file_identity", .obj (identityFields fileIdentity)),
        ("storage_config_fingerprint", .str storageConfigFingerprint),
        ("recorded_at", .str (isoformat recordedAt))]
  | .deleted artifactId storageId path size deletedAt =>
      [("event", .str "deleted"),
        ("artifact_id", .int artifactId),
        ("storage_id", .int storageId),
        ("path", .str path),
        ("size", optionalInt size),
        ("deleted_at", .str (isoformat deletedAt))]

/-- What `_write_audit` writes before the newline. -/
def auditLine (record : AuditRecord) : List Char :=
  sortedLine (payload isoformat record)

/-- The content of the log file. -/
def auditText (log : List AuditRecord) : String :=
  String.ofList (unlines (log.map (auditLine isoformat)))

/-- The bytes of the log file. -/
def auditBytes (log : List AuditRecord) : ByteArray :=
  (auditText isoformat log).toUTF8

end Writing

/-! ## `assert_no_unfinished_retention_intents` -/

/-- What the check raises. -/
inductive AuditFailure where
  /-- `RetentionSafetyError`. -/
  | safety (message : String)
  /-- `UnicodeDecodeError`, which is not caught. -/
  | undecodable
  /-- `TypeError`: a list or an object is no member of a set. -/
  | unhashable
deriving DecidableEq, Repr

/-- A log file; its bytes are missing where reading it raises `OSError`. -/
structure AuditFile where
  name : String
  bytes : Option ByteArray

/-- The records of a log file. -/
def readRecords (file : AuditFile) : Except AuditFailure (List Json) :=
  match file.bytes with
  | none =>
      .error (.safety ("retention監査ログを確認できません。手動確認してください: " ++
        file.name))
  | some bytes =>
      if 1024 * 1024 < bytes.size then
        .error (.safety
          ("retention監査ログが上限を超えています。手動確認してください: " ++
            file.name))
      else
        match readText bytes with
        | none => .error .undecodable
        | some text =>
            match ((splitlines text).filter fun line =>
                line.any fun char => !Options.isSpace char).mapM
                  JsonText.loads with
            | none =>
                .error (.safety
                  ("retention監査ログを確認できません。手動確認してください: " ++
                    file.name))
            | some records => .ok records

/-- `row.get(name)` as a member of a set, where `True == 1 == 1.0`. -/
def keyPart (fields : Json.Fields) (name : String) :
    Except AuditFailure Json :=
  match Json.lookup fields name with
  | none => .ok .null
  | some (.bool value) => .ok (.int (if value then 1 else 0))
  | some (.real value) =>
      .ok (if value.den = 1 then .int value.num else .real value)
  | some (.arr _) | some (.obj _) => .error .unhashable
  | some value => .ok value

/-- `artifact_id`, `storage_id` and `path` of a row. -/
def rowKey (fields : Json.Fields) :
    Except AuditFailure (Json × Json × Json) := do
  let artifactId ← keyPart fields "artifact_id"
  let storageId ← keyPart fields "storage_id"
  let path ← keyPart fields "path"
  return (artifactId, storageId, path)

/-- The row, if it is a dictionary of the given event. -/
def ofEvent (event : String) : Json → Option Json.Fields
  | .obj fields =>
      if Json.lookup fields "event" = some (.str event) then some fields
      else none
  | _ => none

/-- The file an unfinished intent is reported with. -/
def intentDetail (file : AuditFile) (intent : Json.Fields) : String :=
  match Json.lookup intent "quarantine_path" with
  | some (.str quarantine) => quarantine
  | _ => file.name

/-- One turn of the loop over the intents. -/
def checkIntent (file : AuditFile) (completed : List (Json × Json × Json))
    (intent : Json.Fields) : Except AuditFailure Unit := do
  let key ← rowKey intent
  if key ∈ completed then return ()
  else
    throw (.safety
      ("未完了のretention削除意図があります。" ++
        "自動移動せず隔離物を保持しました。監査ログを手動確認してください: " ++
        intentDetail file intent))

/-- One turn of the loop over the log files. -/
def checkFile (file : AuditFile) : Except AuditFailure Unit := do
  let records ← readRecords file
  let completed ← (records.filterMap (ofEvent "deleted")).mapM rowKey
  (records.filterMap (ofEvent "delete_intent")).forM
    (checkIntent file completed)

/-- `assert_no_unfinished_retention_intents`, of the logs by their names. -/
def assertNoUnfinishedRetentionIntents (files : List AuditFile) :
    Except AuditFailure Unit :=
  files.forM checkFile

/-! ## `_retention_audit_has_no_unfinished_intent` -/

inductive AuditEvent where
  | deleteIntent
  | deleted
deriving DecidableEq, Repr

/-- What the worker takes from a line. -/
structure AuditEntry where
  event : AuditEvent
  artifactId : Int
  path : String
deriving DecidableEq, Repr

/-- The entry of a payload; `none` is `return False`. -/
def entryOf : Json → Option AuditEntry
  | .obj fields => do
      -- `isinstance(True, int)` holds.
      let artifactId ← match Json.lookup fields "artifact_id" with
        | some (.int value) => some value
        | some (.bool value) => some (if value then 1 else 0)
        | _ => none
      let path ← match Json.lookup fields "path" with
        | some (.str value) => some value
        | _ => none
      let event ← match Json.lookup fields "event" with
        | some (.str "delete_intent") => some .deleteIntent
        | some (.str "deleted") => some .deleted
        | _ => none
      return { event, artifactId, path }
  | _ => none

/-- The entries of a log; `none` is `return False`. -/
def readEntries (file : AuditFile) : Option (List AuditEntry) :=
  file.bytes.bind fun bytes =>
    if 1024 * 1024 < bytes.size then none
    else
      (readText bytes).bind fun text =>
        (splitlines text).mapM fun line =>
          (JsonText.loads line).bind entryOf

/-- `pending` after an entry. -/
def track (pending : Finset (Int × String)) (entry : AuditEntry) :
    Finset (Int × String) :=
  match entry.event with
  | .deleteIntent => insert (entry.artifactId, entry.path) pending
  | .deleted => pending.erase (entry.artifactId, entry.path)

/-- `_retention_audit_has_no_unfinished_intent`. -/
def retentionAuditHasNoUnfinishedIntent (file : AuditFile) : Bool :=
  (readEntries file).any fun entries => decide (entries.foldl track ∅ = ∅)

/-! ## What a line is read as -/

section Reading

variable {isoformat : Time → String}

variable (isoformat) in
/-- The payload as it is read back. -/
def auditRow (record : AuditRecord) : Json.Fields :=
  sortedFields (payload isoformat record)

/-- The event of a record. -/
def recordEvent : AuditRecord → AuditEvent
  | .deleteIntent .. => .deleteIntent
  | .deleted .. => .deleted

/-- The key of a record of either event. -/
def recordKey : AuditRecord → AuditKey
  | .deleteIntent artifactId storageId path .. => (artifactId, storageId, path)
  | .deleted artifactId storageId path .. => (artifactId, storageId, path)

/-- The entry the worker takes from a record. -/
def recordEntry (record : AuditRecord) : AuditEntry where
  event := recordEvent record
  artifactId := (recordKey record).1
  path := (recordKey record).2.2

theorem deletedKey_eq (record : AuditRecord) :
    deletedKey record =
      if recordEvent record = .deleted then some (recordKey record)
      else none := by
  cases record <;> rfl

theorem intentKey_eq (record : AuditRecord) :
    intentKey record =
      if recordEvent record = .deleteIntent then some (recordKey record)
      else none := by
  cases record <;> rfl

/-- The text of an event. -/
def AuditEvent.text : AuditEvent → String
  | .deleteIntent => "delete_intent"
  | .deleted => "deleted"

/-- The key of a record as members of a set. -/
def jsonKey (key : AuditKey) : Json × Json × Json :=
  (.int key.1, .int key.2.1, .str key.2.2)

theorem jsonKey_injective : Function.Injective jsonKey := by
  rintro ⟨leftArtifact, leftStorage, leftPath⟩
    ⟨rightArtifact, rightStorage, rightPath⟩ same
  simp only [jsonKey, Prod.mk.injEq, Json.int.injEq, Json.str.injEq,
    Int.natCast_inj] at same
  simpa using same

theorem isWritable_optionalInt (value : Option Int) :
    JsonText.isWritable (optionalInt value) = true := by
  cases value <;> rfl

theorem isWritable_optionalStr (value : Option String) :
    JsonText.isWritable (optionalStr value) = true := by
  cases value <;> rfl

theorem isWritable_identity (identity : RemoteFile) :
    JsonText.isWritable (.obj (identityFields identity)) = true := by
  have hashes : JsonText.hasWritable (Json.update []
      (identity.hashes.map fun hash => (hash.1, .str hash.2))) = true := by
    rw [hasWritable_iff]
    apply forall_update
    · intro field impossible
      cases impossible
    · intro field member
      rcases List.mem_map.mp member with ⟨hash, -, rfl⟩
      rfl
  have distinct : ((Json.update []
      (identity.hashes.map fun hash =>
        (hash.1, Json.str hash.2))).map Prod.fst).Nodup :=
    @Json.distinct_update [] List.nodup_nil _
  simp only [identityFields, JsonText.isWritable, JsonText.hasWritable,
    isWritable_optionalInt, isWritable_optionalStr, hashes, distinct,
    decide_true, Bool.and_true, List.map_cons, List.map_nil]
  decide

variable (isoformat) in
theorem distinct_payload (record : AuditRecord) :
    ((payload isoformat record).map Prod.fst).Nodup := by
  cases record <;>
    · simp only [payload, List.map_cons, List.map_nil]
      decide

theorem isWritable_payload (record : AuditRecord) :
    JsonText.isWritable (.obj (payload isoformat record)) = true := by
  rw [JsonText.isWritable, Bool.and_eq_true, decide_eq_true_eq]
  refine ⟨distinct_payload isoformat record, ?_⟩
  rw [hasWritable_iff]
  cases record <;>
    simp only [payload, List.forall_mem_cons, isWritable_optionalInt,
      isWritable_identity] <;>
    simp [JsonText.isWritable]

variable (isoformat) in
/-- The fields of a record which both readers look at. -/
theorem lookup_auditRow (record : AuditRecord) :
    Json.lookup (auditRow isoformat record) "event" =
        some (.str (recordEvent record).text) ∧
      Json.lookup (auditRow isoformat record) "artifact_id" =
        some (.int (recordKey record).1) ∧
      Json.lookup (auditRow isoformat record) "storage_id" =
        some (.int (recordKey record).2.1) ∧
      Json.lookup (auditRow isoformat record) "path" =
        some (.str (recordKey record).2.2) := by
  have sorted : ∀ name value,
      Json.lookup (payload isoformat record) name = some value →
      Json.lookup (auditRow isoformat record) name =
        some (sortKeys value) :=
    fun _ _ => lookup_sortedFields (distinct_payload isoformat record)
  refine ⟨sorted _ (.str _) ?_, sorted _ (.int _) ?_, sorted _ (.int _) ?_,
    sorted _ (.str _) ?_⟩ <;>
  · cases record <;> rfl

theorem loads_auditLine (record : AuditRecord) :
    JsonText.loads (auditLine isoformat record) =
      some (.obj (auditRow isoformat record)) :=
  loads_sortedLine (isWritable_payload record)

theorem ofEvent_auditRow (event : AuditEvent) (record : AuditRecord) :
    ofEvent event.text (.obj (auditRow isoformat record)) =
      if recordEvent record = event then some (auditRow isoformat record)
      else none := by
  rw [ofEvent, (lookup_auditRow isoformat record).1]
  cases recordEvent record <;> cases event <;> rfl

theorem rowKey_auditRow (record : AuditRecord) :
    rowKey (auditRow isoformat record) =
      .ok (jsonKey (recordKey record)) := by
  rcases lookup_auditRow isoformat record with
    ⟨-, artifactId, storageId, path⟩
  rw [rowKey, keyPart, artifactId, keyPart, storageId, keyPart, path]
  rfl

theorem entryOf_auditRow (record : AuditRecord) :
    entryOf (.obj (auditRow isoformat record)) =
      some (recordEntry record) := by
  rcases lookup_auditRow isoformat record with
    ⟨event, artifactId, -, path⟩
  rw [entryOf, event, artifactId, path, recordEntry]
  cases recordEvent record <;> rfl

/-! ## What a file is read as -/

/-- The function has a value on every item and these are the values. -/
theorem mapM_eq_some_iff
    {α β : Type} (f : α → Option β) (items : List α) (values : List β) :
    items.mapM f = some values ↔ items.map f = values.map some := by
  induction items generalizing values with
  | nil => cases values <;> simp
  | cons item items induction =>
      simp only [List.mapM_cons, Option.bind_eq_bind,
        Option.bind_eq_some_iff, Option.pure_def, Option.some.injEq,
        induction, List.map_cons]
      constructor
      · rintro ⟨value, head, others, tail, rfl⟩
        rw [head, tail]
        rfl
      · intro same
        cases values with
        | nil => cases same
        | cons value others =>
            rw [List.map_cons, List.cons.injEq] at same
            exact ⟨value, same.1, others, same.2, rfl⟩

/-- The file splits into the lines of these records. -/
def Splits (isoformat : Time → String) (file : AuditFile)
    (log : List AuditRecord) : Prop :=
  ∃ bytes text, file.bytes = some bytes ∧
    bytes.size ≤ 1024 * 1024 ∧ readText bytes = some text ∧
    splitlines text = log.map (auditLine isoformat)

theorem isSpace_auditLine (record : AuditRecord) :
    ((auditLine isoformat record).any fun char =>
      !Options.isSpace char) = true := by
  have begins := head?_sortedLine (payload isoformat record)
  rw [auditLine]
  cases line : sortedLine (payload isoformat record) with
  | nil =>
      rw [line] at begins
      cases begins
  | cons char rest =>
      rw [line, List.head?_cons, Option.some.injEq] at begins
      subst begins
      rfl

variable {file : AuditFile} {log : List AuditRecord}

theorem Splits.readRecords (splits : Splits isoformat file log) :
    readRecords file =
      .ok (log.map fun record => .obj (auditRow isoformat record)) := by
  rcases splits with ⟨bytes, text, isBytes, small, isText, lines⟩
  have allLines : (log.map (auditLine isoformat)).filter (fun line =>
      line.any fun char => !Options.isSpace char) =
        log.map (auditLine isoformat) := by
    rw [List.filter_eq_self]
    intro line member
    rcases List.mem_map.mp member with ⟨record, -, rfl⟩
    exact isSpace_auditLine record
  have loaded : (log.map (auditLine isoformat)).mapM JsonText.loads =
      some (log.map fun record => .obj (auditRow isoformat record)) := by
    rw [mapM_eq_some_iff, List.map_map, List.map_map]
    apply List.map_congr_left
    intro record _
    exact loads_auditLine record
  simp only [RetentionAudit.readRecords, isBytes, isText, lines, allLines,
    loaded, if_neg (Nat.not_lt.mpr small)]

theorem Splits.readEntries (splits : Splits isoformat file log) :
    readEntries file = some (log.map recordEntry) := by
  rcases splits with ⟨bytes, text, isBytes, small, isText, lines⟩
  rw [RetentionAudit.readEntries, isBytes, Option.bind_some,
    if_neg (Nat.not_lt.mpr small), isText, Option.bind_some, lines,
    mapM_eq_some_iff, List.map_map, List.map_map]
  apply List.map_congr_left
  intro record _
  show (JsonText.loads (auditLine isoformat record)).bind entryOf = _
  rw [loads_auditLine, Option.bind_some, entryOf_auditRow]
  rfl

/-- The rows of an event. -/
theorem filterMap_ofEvent (event : AuditEvent) (log : List AuditRecord) :
    (log.map fun record => Json.obj (auditRow isoformat record)).filterMap
        (ofEvent event.text) =
      (log.filter fun record => recordEvent record = event).map
        (auditRow isoformat) := by
  induction log with
  | nil => rfl
  | cons record log induction =>
      rw [List.map_cons, List.filterMap_cons, ofEvent_auditRow, induction]
      by_cases isEvent : recordEvent record = event
      · simp [isEvent]
      · simp [isEvent]

/-- The keys of an event. -/
theorem filterMap_deletedKey (log : List AuditRecord) :
    log.filterMap deletedKey =
      (log.filter fun record => recordEvent record = .deleted).map
        recordKey := by
  induction log with
  | nil => rfl
  | cons record log induction =>
      rw [List.filterMap_cons, deletedKey_eq, induction]
      by_cases isEvent : recordEvent record = .deleted
      · simp [isEvent]
      · simp [isEvent]

theorem mapM_rowKey (records : List AuditRecord) :
    (records.map (auditRow isoformat)).mapM rowKey =
      .ok (records.map fun record => jsonKey (recordKey record)) := by
  induction records with
  | nil => rfl
  | cons record records induction =>
      rw [List.map_cons, List.mapM_cons, rowKey_auditRow, induction]
      rfl

/-- The loop over the intents passes if each of them is completed. -/
theorem forM_checkIntent
    (file : AuditFile) (completed : List AuditKey)
    (intents : List AuditRecord) :
    (intents.map (auditRow isoformat)).forM
        (checkIntent file (completed.map jsonKey)) = .ok () ↔
      ∀ intent ∈ intents, recordKey intent ∈ completed := by
  induction intents with
  | nil => exact iff_of_true rfl fun _ impossible => nomatch impossible
  | cons intent intents induction =>
      have member : jsonKey (recordKey intent) ∈ completed.map jsonKey ↔
          recordKey intent ∈ completed :=
        List.mem_map_of_injective jsonKey_injective
      have head : checkIntent file (completed.map jsonKey)
          (auditRow isoformat intent) =
            if recordKey intent ∈ completed then .ok ()
            else throw (.safety
              ("未完了のretention削除意図があります。" ++
                "自動移動せず隔離物を保持しました。監査ログを手動確認してください: " ++
                intentDetail file (auditRow isoformat intent))) := by
        rw [checkIntent, rowKey_auditRow]
        show (if jsonKey (recordKey intent) ∈ completed.map jsonKey
          then _ else _) = _
        simp only [member]
        rfl
      rw [List.map_cons, List.forall_mem_cons, ← induction]
      show (checkIntent file _ (auditRow isoformat intent) >>=
        fun _ => List.forM _ _) = _ ↔ _
      rw [head]
      by_cases isCompleted : recordKey intent ∈ completed
      · rw [if_pos isCompleted, and_iff_right isCompleted]
        rfl
      · rw [if_neg isCompleted]
        exact iff_of_false (fun impossible => nomatch impossible)
          (fun both => isCompleted both.1)

theorem hasUnfinishedIntent_eq_false_iff (log : List AuditRecord) :
    hasUnfinishedIntent log = false ↔
      ∀ intent ∈ log.filter (recordEvent · = .deleteIntent),
        recordKey intent ∈ log.filterMap deletedKey := by
  rw [← Bool.not_eq_true, hasUnfinishedIntent_iff]
  simp only [not_exists, not_and, not_not]
  constructor
  · intro finished intent isIntent
    rw [List.mem_filter, decide_eq_true_eq] at isIntent
    apply finished
    rw [List.mem_filterMap]
    exact ⟨intent, isIntent.1, by rw [intentKey_eq, if_pos isIntent.2]⟩
  · intro finished key isIntent
    rcases List.mem_filterMap.mp isIntent with ⟨intent, member, isKey⟩
    rw [intentKey_eq] at isKey
    split at isKey
    · next isIntent =>
        rw [Option.some.injEq] at isKey
        rw [← isKey]
        apply finished
        rw [List.mem_filter, decide_eq_true_eq]
        exact ⟨member, isIntent⟩
    · cases isKey

/-- The check of a log refuses if and only if an intent is unfinished. -/
theorem Splits.checkFile (splits : Splits isoformat file log) :
    checkFile file = .ok () ↔ hasUnfinishedIntent log = false := by
  have deleted := @filterMap_ofEvent isoformat .deleted log
  have intents := @filterMap_ofEvent isoformat .deleteIntent log
  simp only [AuditEvent.text] at deleted intents
  have passes : RetentionAudit.checkFile file =
      (((log.filter (recordEvent · = .deleteIntent)).map
        (auditRow isoformat)).forM
          (checkIntent file ((log.filterMap deletedKey).map jsonKey))) := by
    rw [RetentionAudit.checkFile, splits.readRecords]
    show (List.mapM rowKey _ >>= fun completed => List.forM _ _) = _
    rw [deleted, intents, mapM_rowKey, filterMap_deletedKey, List.map_map]
    rfl
  rw [passes, forM_checkIntent, hasUnfinishedIntent_eq_false_iff]

/-! ## Whole, broken and truncated logs -/

variable (isoformat) in
/-- No string of the records holds a separator. -/
def IsWhole (log : List AuditRecord) : Prop :=
  ∀ record ∈ log, hasSeparator (texts (.obj (payload isoformat record))) = false

theorem isLineBreak_auditLine
    {record : AuditRecord}
    (whole : hasSeparator (texts (.obj (payload isoformat record))) = false) :
    ∀ char ∈ auditLine isoformat record, isLineBreak char = false := by
  rw [← any_sortedLine, List.any_eq_false] at whole
  intro char member
  rw [← Bool.not_eq_true]
  exact whole char member

theorem IsWhole.lines (whole : IsWhole isoformat log) :
    ∀ line ∈ log.map (auditLine isoformat), ∀ char ∈ line,
      isLineBreak char = false := by
  intro line member
  rcases List.mem_map.mp member with ⟨record, isRecord, rfl⟩
  exact isLineBreak_auditLine (whole record isRecord)

theorem return_not_mem_unlines (log : List AuditRecord) :
    '\r' ∉ unlines (log.map (auditLine isoformat)) := by
  rw [unlines, List.mem_flatMap]
  rintro ⟨line, isLine, member⟩
  rcases List.mem_map.mp isLine with ⟨record, -, rfl⟩
  rcases List.mem_append.mp member with inLine | isNewline
  · exact return_not_mem_sortedLine _ inLine
  · rw [List.mem_singleton] at isNewline
    cases isNewline

/-- A file which is decoded after its end was lost. -/
theorem readText_truncated
    {count : Nat} {text : List Char}
    (isText : readText ((auditBytes isoformat log).extract 0 count) =
      some text) : text <+: unlines (log.map (auditLine isoformat)) := by
  rcases Option.map_eq_some_iff.mp isText with ⟨decoded, isDecoded, rfl⟩
  have beginning := toList_prefix_of_fromUTF8? isDecoded
  rw [auditText, String.toList_ofList] at beginning
  rw [translateNewlines_eq]
  · exact beginning
  · intro member
    exact return_not_mem_unlines log (beginning.subset member)

theorem readText_auditBytes (log : List AuditRecord) :
    readText (auditBytes isoformat log) =
      some (unlines (log.map (auditLine isoformat))) := by
  rw [readText, auditBytes, fromUTF8?_toUTF8, Option.map_some, auditText,
    String.toList_ofList, translateNewlines_eq (return_not_mem_unlines log)]

theorem splits_of_isWhole
    (whole : IsWhole isoformat log)
    (small : (auditBytes isoformat log).size ≤ 1024 * 1024) (name : String) :
    Splits isoformat ⟨name, some (auditBytes isoformat log)⟩ log := by
  exact ⟨_, _, rfl, small, readText_auditBytes log,
    splitlines_unlines whole.lines⟩

/-- A broken record is read as a line which is no JSON value. -/
theorem exists_unreadable_line
    (broken : ¬ IsWhole isoformat log) :
    ∃ line ∈ splitlines (unlines (log.map (auditLine isoformat))),
      line.head? = some '\x7b' ∧ JsonText.loads line = none := by
  induction log with
  | nil => exact absurd (fun _ impossible => nomatch impossible) broken
  | cons record log induction =>
      rw [List.map_cons, unlines, List.flatMap_cons, List.append_assoc,
        List.singleton_append]
      cases separator : hasSeparator
          (texts (.obj (payload isoformat record))) with
      | false =>
          have brokenRest : ¬ IsWhole isoformat log := by
            intro whole
            exact broken (List.forall_mem_cons.mpr ⟨separator, whole⟩)
          rcases induction brokenRest with ⟨line, member, unreadable⟩
          rw [splitlines_line (isLineBreak_auditLine separator)]
          exact ⟨line, List.mem_cons_of_mem _ member, unreadable⟩
      | true =>
          rw [← any_sortedLine, List.any_eq_true] at separator
          rcases separator with ⟨char, member, isBreak⟩
          cases first : (sortedLine (payload isoformat record)).find?
              isLineBreak with
          | none =>
              exact absurd isBreak (List.find?_eq_none.mp first char member)
          | some char =>
              rcases List.find?_eq_some_iff_append.mp first with
                ⟨isBreak, piece, more, isLine, before⟩
              have wholePiece : ∀ char ∈ piece, isLineBreak char = false := by
                intro char member
                simpa using before char member
              rw [auditLine, isLine, List.append_assoc, List.cons_append]
              rcases splitlines_break wholePiece isBreak
                (more ++ '\n' :: unlines (log.map (auditLine isoformat)))
                with ⟨lines, split⟩
              have opens : piece.head? = some '\x7b' := by
                have begins := head?_sortedLine (payload isoformat record)
                rw [isLine] at begins
                cases piece with
                | nil =>
                    rw [List.nil_append, List.head?_cons,
                      Option.some.injEq] at begins
                    subst begins
                    cases isBreak
                | cons first piece => exact begins
              refine ⟨piece, ?_, opens, ?_⟩
              · show piece ∈ splitlines (piece ++ char ::
                  (more ++ '\n' :: unlines (log.map (auditLine isoformat))))
                rw [split]
                exact List.mem_cons_self
              · exact loads_beginning_of_sortedLine
                  (isWritable_payload record) isLine (List.cons_ne_nil _ _)

theorem readRecords_of_large
    {bytes : ByteArray} (large : ¬ bytes.size ≤ 1024 * 1024) (name : String) :
    readRecords ⟨name, some bytes⟩ =
      .error (.safety
        ("retention監査ログが上限を超えています。手動確認してください: " ++
          name)) := by
  rw [readRecords]
  exact if_pos (Nat.lt_of_not_le large)

/-- A log with a broken record is not readable. -/
theorem readRecords_of_broken
    (broken : ¬ IsWhole isoformat log)
    (small : (auditBytes isoformat log).size ≤ 1024 * 1024) (name : String) :
    readRecords ⟨name, some (auditBytes isoformat log)⟩ =
      .error (.safety
        ("retention監査ログを確認できません。手動確認してください: " ++ name)) := by
  rcases exists_unreadable_line broken with ⟨line, member, opens, unreadable⟩
  have kept : line ∈ (splitlines
      (unlines (log.map (auditLine isoformat)))).filter fun line =>
        line.any fun char => !Options.isSpace char := by
    rw [List.mem_filter]
    refine ⟨member, ?_⟩
    cases line with
    | nil => cases opens
    | cons char line =>
        cases opens
        rfl
  have notLoaded : ((splitlines
      (unlines (log.map (auditLine isoformat)))).filter fun line =>
        line.any fun char => !Options.isSpace char).mapM JsonText.loads =
          none := by
    rw [Option.eq_none_iff_forall_ne_some]
    intro values loaded
    rw [mapM_eq_some_iff] at loaded
    have impossible := List.mem_map_of_mem (f := JsonText.loads) kept
    rw [unreadable, loaded, List.mem_map] at impossible
    rcases impossible with ⟨value, -, impossible⟩
    cases impossible
  simp only [readRecords, readText_auditBytes, notLoaded,
    if_neg (Nat.not_lt.mpr small)]

/-- Lines which begin those of a log are the lines of its beginning. -/
theorem prefix_of_map
    {lines : List (List Char)}
    (beginning : lines <+: log.map (auditLine isoformat)) :
    ∃ taken, taken <+: log ∧ lines = taken.map (auditLine isoformat) := by
  refine ⟨log.take lines.length, List.take_prefix _ _, ?_⟩
  rw [List.map_take]
  exact List.prefix_iff_eq_take.mp beginning

/-- A truncated log is a log, or the worker finds a line it cannot read. -/
theorem splits_truncated
    (whole : IsWhole isoformat log)
    (small : (auditBytes isoformat log).size ≤ 1024 * 1024)
    (name : String) (count : Nat) :
    (∃ taken, taken <+: log ∧ Splits isoformat
        ⟨name, some ((auditBytes isoformat log).extract 0 count)⟩ taken) ∨
      readEntries
        ⟨name, some ((auditBytes isoformat log).extract 0 count)⟩ = none := by
  have smaller : ((auditBytes isoformat log).extract 0 count).size ≤
      1024 * 1024 := by
    rw [ByteArray.size_extract]
    omega
  cases isText : readText ((auditBytes isoformat log).extract 0 count) with
  | none =>
      right
      rw [readEntries, Option.bind_some, if_neg (Nat.not_lt.mpr smaller),
        isText]
      rfl
  | some text =>
      rcases beginning_of_unlines (readText_truncated isText) with
        ⟨complete, part, rfl, which⟩
      have splits : ∀ lines, lines <+: log.map (auditLine isoformat) →
          splitlines (unlines complete ++ part) = lines →
          ∃ taken, taken <+: log ∧ Splits isoformat
            ⟨name, some ((auditBytes isoformat log).extract 0 count)⟩
              taken := by
        rintro lines beginning isSplit
        rcases prefix_of_map beginning with ⟨taken, isTaken, rfl⟩
        exact ⟨taken, isTaken, ⟨_, _, rfl, smaller, isText, isSplit⟩⟩
      rcases which with ⟨rfl, taken⟩ | ⟨nonempty, line, taken, more, isLine⟩
      · left
        refine splits complete taken ?_
        rw [List.append_nil]
        exact splitlines_unlines fun line member =>
          whole.lines line (taken.subset member)
      · have inside : ∀ other ∈ complete ++ [line], ∀ char ∈ other,
            isLineBreak char = false := fun other member =>
          whole.lines other (taken.subset member)
        have isSplit : splitlines (unlines complete ++ part) =
            complete ++ [part] := by
          rw [splitlines_unlines_append fun other member =>
              inside other (List.mem_append_left _ member),
            splitlines_last _ nonempty]
          intro char member
          apply inside line List.mem_concat_self
          rw [← isLine]
          exact List.mem_append_left _ member
        by_cases proper : more = []
        · left
          rw [proper, List.append_nil] at isLine
          exact splits _ (isLine.symm ▸ taken) isSplit
        · right
          have isRecord := taken.subset List.mem_concat_self
          rcases List.mem_map.mp isRecord with ⟨record, -, sameLine⟩
          have unreadable : JsonText.loads part = none :=
            loads_beginning_of_sortedLine (isWritable_payload record)
              (sameLine.trans isLine.symm) proper
          rw [readEntries, Option.bind_some,
            if_neg (Nat.not_lt.mpr smaller), isText, Option.bind_some,
            isSplit, Option.eq_none_iff_forall_ne_some]
          intro entries loaded
          rw [mapM_eq_some_iff, List.map_append, List.map_singleton,
            unreadable] at loaded
          have impossible : none ∈ entries.map some := by
            rw [← loaded]
            exact List.mem_concat_self
          rcases List.mem_map.mp impossible with ⟨entry, -, impossible⟩
          cases impossible

end Reading

end Sluicery.Core.RetentionAudit
