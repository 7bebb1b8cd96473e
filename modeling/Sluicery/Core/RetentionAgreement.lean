import Mathlib
import Sluicery.Core.RetentionAudit

/-!
# Agreement of the readers of the audit log

The logs of executions are pairs of an intent and its deletion, and perhaps
one more intent.  On such logs the two readers agree, if the file is small
enough and none of its strings holds a line break which JSON leaves as it is.
-/

namespace Sluicery.Core.RetentionAudit

open Sluicery.Library Sluicery.Library.Transition
open Sluicery.Library.TextLines Sluicery.Library.JsonLines
open Sluicery.Db Sluicery.Storage Sluicery.Core.Retention

/-! ## Logs of pairs -/

/-- An intent and its deletion. -/
structure RecordPair where
  intent : AuditRecord
  deleted : AuditRecord
  isIntent : recordEvent intent = .deleteIntent
  isDeleted : recordEvent deleted = .deleted
  sameKey : recordKey deleted = recordKey intent

namespace RecordPair

/-- The records of the pairs. -/
def records (pairs : List RecordPair) : List AuditRecord :=
  pairs.flatMap fun pair => [pair.intent, pair.deleted]

/-- The Artifact of a pair. -/
def artifactId (pair : RecordPair) : Nat := (recordKey pair.intent).1

end RecordPair

/-- A log which has not more than one intent without its deletion. -/
def Written (log : List AuditRecord) : Prop :=
  ∃ pairs : List RecordPair, (pairs.map RecordPair.artifactId).Nodup ∧
    log <+: RecordPair.records pairs

theorem Written.beginning
    {log taken : List AuditRecord} (written : Written log)
    (isTaken : taken <+: log) : Written taken := by
  rcases written with ⟨pairs, distinct, beginning⟩
  exact ⟨pairs, distinct, isTaken.trans beginning⟩

/-- Nothing of the log, an intent, or a pair and the rest. -/
theorem prefix_records_cons
    {log : List AuditRecord} {pair : RecordPair} {pairs : List RecordPair}
    (beginning : log <+: RecordPair.records (pair :: pairs)) :
    log = [] ∨ log = [pair.intent] ∨
      ∃ rest, log = pair.intent :: pair.deleted :: rest ∧
        rest <+: RecordPair.records pairs := by
  have unfolded : RecordPair.records (pair :: pairs) =
      pair.intent :: pair.deleted :: RecordPair.records pairs := rfl
  rw [unfolded, List.prefix_cons_iff] at beginning
  rcases beginning with rfl | ⟨afterIntent, rfl, more⟩
  · exact Or.inl rfl
  · rw [List.prefix_cons_iff] at more
    rcases more with rfl | ⟨rest, rfl, more⟩
    · exact Or.inr (Or.inl rfl)
    · exact Or.inr (Or.inr ⟨rest, rfl, more⟩)

theorem track_pair (pair : RecordPair) :
    track (track ∅ (recordEntry pair.intent)) (recordEntry pair.deleted) =
      ∅ := by
  simp only [track, recordEntry, pair.isIntent, pair.isDeleted, pair.sameKey]
  simp

theorem deletedKey_intent (pair : RecordPair) :
    deletedKey pair.intent = none := by
  rw [deletedKey_eq, pair.isIntent, if_neg (by decide)]

theorem deletedKey_deleted (pair : RecordPair) :
    deletedKey pair.deleted = some (recordKey pair.intent) := by
  rw [deletedKey_eq, pair.isDeleted, if_pos rfl, pair.sameKey]

theorem intentKey_intent (pair : RecordPair) :
    intentKey pair.intent = some (recordKey pair.intent) := by
  rw [intentKey_eq, pair.isIntent, if_pos rfl]

theorem intentKey_deleted (pair : RecordPair) :
    intentKey pair.deleted = none := by
  rw [intentKey_eq, pair.isDeleted, if_neg (by decide)]

/-- The Artifacts of the intents are those of the pairs. -/
theorem artifactId_of_intentKey
    {log : List AuditRecord} {pairs : List RecordPair}
    (beginning : log <+: RecordPair.records pairs)
    {key : AuditKey} (isIntent : key ∈ log.filterMap intentKey) :
    key.1 ∈ pairs.map RecordPair.artifactId := by
  rcases List.mem_filterMap.mp isIntent with ⟨record, member, isKey⟩
  rcases List.mem_flatMap.mp (beginning.subset member) with
    ⟨pair, isPair, inPair⟩
  rcases List.mem_cons.mp inPair with rfl | inPair
  · rw [intentKey_intent, Option.some.injEq] at isKey
    rw [← isKey]
    exact List.mem_map_of_mem (f := RecordPair.artifactId) isPair
  · rw [List.mem_singleton.mp inPair, intentKey_deleted] at isKey
    cases isKey

/-- A pair at the beginning leaves nothing open. -/
theorem hasUnfinishedIntent_pair
    {pair : RecordPair} {rest : List AuditRecord}
    (other : ∀ key ∈ rest.filterMap intentKey,
      key ≠ recordKey pair.intent) :
    hasUnfinishedIntent (pair.intent :: pair.deleted :: rest) =
      hasUnfinishedIntent rest := by
  rw [Bool.eq_iff_iff, hasUnfinishedIntent_iff, hasUnfinishedIntent_iff]
  simp only [List.filterMap_cons, intentKey_intent, intentKey_deleted,
    deletedKey_intent, deletedKey_deleted, List.mem_cons]
  constructor
  · rintro ⟨key, rfl | member, unfinished⟩
    · exact absurd (Or.inl rfl) unfinished
    · exact ⟨key, member, fun isDeleted => unfinished (Or.inr isDeleted)⟩
  · rintro ⟨key, member, unfinished⟩
    refine ⟨key, Or.inr member, ?_⟩
    rintro (same | isDeleted)
    · exact other key member same
    · exact unfinished isDeleted

/-- The worker keeps an intent exactly while it is unfinished. -/
theorem Written.pending_iff
    {log : List AuditRecord} (written : Written log) :
    (log.map recordEntry).foldl track ∅ = ∅ ↔
      hasUnfinishedIntent log = false := by
  rcases written with ⟨pairs, distinct, beginning⟩
  induction pairs generalizing log with
  | nil =>
      rw [List.prefix_nil.mp beginning]
      exact iff_of_true rfl rfl
  | cons pair pairs induction =>
      rw [List.map_cons, List.nodup_cons] at distinct
      rcases prefix_records_cons beginning with
        rfl | rfl | ⟨rest, rfl, more⟩
      · exact iff_of_true rfl rfl
      · refine iff_of_false ?_ ?_
        · simp [track, recordEntry, pair.isIntent]
        · rw [Bool.not_eq_false, hasUnfinishedIntent_iff]
          refine ⟨recordKey pair.intent, ?_, ?_⟩
          · simp [intentKey_intent]
          · simp [deletedKey_intent]
      · rw [hasUnfinishedIntent_pair, List.map_cons, List.map_cons,
          List.foldl_cons, List.foldl_cons, track_pair]
        · exact induction distinct.2 more
        · rintro key member rfl
          exact distinct.1 (artifactId_of_intentKey more member)

/-! ## Logs of executions -/

/-- The records of one candidate. -/
def IsPairOf (candidate : RetentionCandidate) (pair : RecordPair) : Prop :=
  recordKey pair.intent = candidate.auditKey

/-- What the log holds of the current candidate. -/
def CurrentRecords (execution : Execution) (current : List AuditRecord) :
    Prop :=
  match execution.phase with
  | .matching | .intent => current = []
  | .deleting | .recording =>
      ∃ candidate rest pair, execution.remaining = candidate :: rest ∧
        IsPairOf candidate pair ∧ current = [pair.intent]
  | .committing =>
      ∃ candidate rest pair, execution.remaining = candidate :: rest ∧
        IsPairOf candidate pair ∧ current = [pair.intent, pair.deleted]

/-- The log holds the pairs of the finished candidates and what is current. -/
def Transcribed (execution : Execution) : Prop :=
  ∃ pairs current, List.Forall₂ IsPairOf execution.finished pairs ∧
    CurrentRecords execution current ∧
    execution.audit = RecordPair.records pairs ++ current

variable {fingerprint : StorageKind → Option Json.Fields → String}

/-- The next operation writes the record of its phase, or none. -/
theorem Transcribed.perform
    {execution next : Execution} {candidate : RetentionCandidate}
    {rest : List RetentionCandidate} {name : String} {now : Time}
    (transcribed : Transcribed execution)
    (current : execution.remaining = candidate :: rest)
    (performed : execution.perform fingerprint candidate rest name now =
      .ok next) : Transcribed next := by
  rcases transcribed with ⟨pairs, records, finished, isCurrent, audit⟩
  rw [Execution.perform] at performed
  cases identity : candidate.fileIdentity with
  | none =>
      rw [identity] at performed
      cases performed
  | some expected =>
      cases phase : execution.phase with
      | matching =>
          simp only [phase, identity] at performed
          simp only [CurrentRecords, phase] at isCurrent
          split at performed
          · cases performed
            exact ⟨pairs, records, finished, isCurrent, audit⟩
          · cases performed
      | intent =>
          simp only [phase, identity] at performed
          simp only [CurrentRecords, phase] at isCurrent
          cases performed
          let pair : RecordPair :=
            { intent := intentRecord candidate expected name now
              deleted := deletedRecord candidate now
              isIntent := rfl
              isDeleted := rfl
              sameKey := rfl }
          refine ⟨pairs, [pair.intent], finished, ?_, ?_⟩
          · exact ⟨candidate, rest, pair, current, rfl, rfl⟩
          · rw [isCurrent, List.append_nil] at audit
            exact congrArg (· ++ [pair.intent]) audit
      | deleting =>
          simp only [phase, identity] at performed
          simp only [CurrentRecords, phase] at isCurrent
          split at performed
          · cases performed
          · cases performed
            exact ⟨pairs, records, finished, isCurrent, audit⟩
      | recording =>
          simp only [phase, identity] at performed
          simp only [CurrentRecords, phase] at isCurrent
          cases performed
          rcases isCurrent with ⟨same, _, pair, remaining, isPair, rfl⟩
          rw [current, List.cons.injEq] at remaining
          rcases remaining with ⟨rfl, rfl⟩
          let written : RecordPair :=
            { pair with
              deleted := deletedRecord candidate now
              isDeleted := rfl
              sameKey := isPair.symm }
          refine ⟨pairs, [written.intent, written.deleted], finished, ?_, ?_⟩
          · exact ⟨candidate, rest, written, current, isPair, rfl⟩
          · show execution.audit ++ [written.deleted] = _
            rw [audit, List.append_assoc]
            rfl
      | committing =>
          simp only [phase, identity] at performed
          simp only [CurrentRecords, phase] at isCurrent
          split at performed
          · cases performed
            rcases isCurrent with ⟨same, _, pair, remaining, isPair, rfl⟩
            rw [current, List.cons.injEq] at remaining
            rcases remaining with ⟨rfl, rfl⟩
            refine ⟨pairs ++ [pair], [], ?_, rfl, ?_⟩
            · exact List.rel_append finished (.cons isPair .nil)
            · rw [List.append_nil, RecordPair.records, List.flatMap_append]
              exact audit
          · cases performed

theorem Transcribed.conclude
    {execution : Execution} (transcribed : Transcribed execution)
    (outcome : Outcome) (now : Time) :
    Transcribed (execution.conclude outcome now) :=
  transcribed

theorem Transcribed.step
    {execution next : Execution} {event : Event}
    (transcribed : Transcribed execution)
    (taken : step fingerprint execution event = some next) :
    Transcribed next := by
  cases event with
  | proceed name now =>
      simp only [Retention.step] at taken
      split at taken
      · cases taken
      · split at taken
        · cases taken
          exact transcribed.conclude _ _
        · next candidate rest current =>
            split at taken
            · next performed =>
                cases taken
                exact transcribed.perform current performed
            · cases taken
              exact transcribed.conclude _ _
  | raise tookEffect name now =>
      simp only [Retention.step] at taken
      split at taken
      · cases taken
      · split at taken
        · cases taken
          exact transcribed
        · next candidate rest current =>
            split at taken
            · next performed =>
                split at taken
                · cases taken
                  exact (transcribed.perform current performed).conclude _ _
                · cases taken
                  exact transcribed.conclude _ _
            · cases taken
              exact transcribed.conclude _ _

/-- What is current is the beginning of a pair of the next candidate. -/
theorem Transcribed.beginning
    {execution : Execution} (transcribed : Transcribed execution) :
    ∃ candidates pairs, List.Forall₂ IsPairOf candidates pairs ∧
      candidates <+: execution.finished ++ execution.remaining ∧
      execution.audit <+: RecordPair.records pairs := by
  rcases transcribed with ⟨pairs, records, finished, isCurrent, audit⟩
  rw [audit]
  have withCurrent : ∀ candidate rest pair,
      execution.remaining = candidate :: rest → IsPairOf candidate pair →
      records <+: [pair.intent, pair.deleted] →
      ∃ candidates pairs', List.Forall₂ IsPairOf candidates pairs' ∧
        candidates <+: execution.finished ++ execution.remaining ∧
        RecordPair.records pairs ++ records <+: RecordPair.records pairs' := by
    intro candidate rest pair remaining isPair beginning
    refine ⟨execution.finished ++ [candidate], pairs ++ [pair],
      List.rel_append finished (.cons isPair .nil), ?_, ?_⟩
    · rw [remaining, List.prefix_append_right_inj]
      exact ⟨rest, rfl⟩
    · rw [RecordPair.records, RecordPair.records, List.flatMap_append,
        List.prefix_append_right_inj]
      exact beginning
  have withNone : records = [] →
      ∃ candidates pairs', List.Forall₂ IsPairOf candidates pairs' ∧
        candidates <+: execution.finished ++ execution.remaining ∧
        RecordPair.records pairs ++ records <+: RecordPair.records pairs' := by
    rintro rfl
    refine ⟨execution.finished, pairs, finished, List.prefix_append _ _, ?_⟩
    rw [List.append_nil]
  cases phase : execution.phase with
  | matching | intent =>
      simp only [CurrentRecords, phase] at isCurrent
      exact withNone isCurrent
  | deleting | recording =>
      simp only [CurrentRecords, phase] at isCurrent
      rcases isCurrent with ⟨candidate, rest, pair, remaining, isPair, rfl⟩
      exact withCurrent candidate rest pair remaining isPair ⟨_, rfl⟩
  | committing =>
      simp only [CurrentRecords, phase] at isCurrent
      rcases isCurrent with ⟨candidate, rest, pair, remaining, isPair, rfl⟩
      exact withCurrent candidate rest pair remaining isPair
        List.prefix_rfl

theorem transcribed_of_start
    {db : Database} {files : Files StoredFile}
    {logs : List (List AuditRecord)} {plan : RetentionPlan}
    {logPath : String} {now : Time} {first : Execution}
    (isStart : start fingerprint db files logs plan logPath now =
      .ok first) : Transcribed first := by
  simp only [start] at isStart
  split_ifs at isStart
  cases isStart
  exact ⟨[], [], .nil, rfl, rfl⟩

/-- The log of an execution, wherever it stops. -/
theorem written_of_steps
    {db : Database} {files : Files StoredFile}
    {logs : List (List AuditRecord)} {plan : RetentionPlan}
    {logPath : String} {now : Time} {first execution : Execution}
    (isStart : start fingerprint db files logs plan logPath now = .ok first)
    (steps : Steps (step fingerprint) (fun _ _ => True) first execution) :
    Written execution.audit := by
  have started := started_of_start isStart
  have progressed : Progressed first execution :=
    steps.invariant (Progressed first) started.progressed
      fun _ _ _ progressed _ taken => progressed.step taken
  have transcribed : Transcribed execution :=
    steps.invariant Transcribed (transcribed_of_start isStart)
      fun _ _ _ transcribed _ taken => transcribed.step taken
  rcases transcribed.beginning with ⟨candidates, pairs, each, taken, beginning⟩
  refine ⟨pairs, ?_, beginning⟩
  have artifacts : pairs.map RecordPair.artifactId =
      candidates.map RetentionCandidate.artifactId := by
    clear beginning taken
    induction each with
    | nil => rfl
    | cons isPair _ induction =>
        rw [List.map_cons, List.map_cons, induction, RecordPair.artifactId,
          isPair]
        rfl
  rw [artifacts]
  exact (started.distinct progressed).sublist (taken.sublist.map _)

/-! ## Agreement -/

section Agreement

variable (isoformat : Time → String) (name : String) (log : List AuditRecord)

/-- The file of a log. -/
def auditFile : AuditFile := ⟨name, some (auditBytes isoformat log)⟩

/-- The file of a log of which only the first bytes are left. -/
def truncatedFile (count : Nat) : AuditFile :=
  ⟨name, some ((auditBytes isoformat log).extract 0 count)⟩

/--
Both readers recover the records; neither objects to a completed log; and the
worker accepts no truncated log which a retention would be refused for.
-/
structure Agrees : Prop where
  records : readRecords (auditFile isoformat name log) =
    .ok (log.map fun record => .obj (auditRow isoformat record))
  entries : readEntries (auditFile isoformat name log) =
    some (log.map recordEntry)
  completed : hasUnfinishedIntent log = false →
    assertNoUnfinishedRetentionIntents [auditFile isoformat name log] =
        .ok () ∧
      retentionAuditHasNoUnfinishedIntent (auditFile isoformat name log) =
        true
  truncated : ∀ count,
    retentionAuditHasNoUnfinishedIntent
        (truncatedFile isoformat name log count) = true →
      assertNoUnfinishedRetentionIntents
        [truncatedFile isoformat name log count] = .ok ()

end Agreement

variable {isoformat : Time → String} {name : String} {log : List AuditRecord}

theorem assertNoUnfinished_singleton (file : AuditFile) :
    assertNoUnfinishedRetentionIntents [file] = .ok () ↔
      checkFile file = .ok () := by
  show (checkFile file >>= fun _ => pure ()) = .ok () ↔ _
  cases checkFile file with
  | error failure =>
      constructor
      · intro impossible
        cases impossible
      · intro impossible
        cases impossible
  | ok value => exact iff_of_true rfl rfl

/-- On the file of a written log the readers answer the same. -/
theorem Splits.readers_agree
    {file : AuditFile} (splits : Splits isoformat file log)
    (written : Written log) :
    retentionAuditHasNoUnfinishedIntent file = true ↔
      RetentionAudit.checkFile file = .ok () := by
  rw [splits.checkFile, ← written.pending_iff,
    retentionAuditHasNoUnfinishedIntent, splits.readEntries,
    Option.any_some, decide_eq_true_eq]

/-- A log with a broken record stops the next retention. -/
theorem refused_of_broken (broken : ¬ IsWhole isoformat log) :
    assertNoUnfinishedRetentionIntents [auditFile isoformat name log] ≠
      .ok () := by
  rw [Ne, assertNoUnfinished_singleton, checkFile, auditFile]
  by_cases small : (auditBytes isoformat log).size ≤ 1024 * 1024
  · rw [readRecords_of_broken broken small]
    intro impossible
    cases impossible
  · rw [readRecords_of_large small]
    intro impossible
    cases impossible

theorem agrees_iff (written : Written log) :
    Agrees isoformat name log ↔
      (auditBytes isoformat log).size ≤ 1024 * 1024 ∧
        IsWhole isoformat log := by
  constructor
  · intro agrees
    have records := agrees.records
    have small : (auditBytes isoformat log).size ≤ 1024 * 1024 := by
      by_contra large
      rw [auditFile, readRecords_of_large large] at records
      cases records
    refine ⟨small, ?_⟩
    by_contra broken
    rw [auditFile, readRecords_of_broken broken small] at records
    cases records
  · rintro ⟨small, whole⟩
    have splits := splits_of_isWhole whole small name
    constructor
    · exact splits.readRecords
    · exact splits.readEntries
    · intro finished
      have passes := splits.checkFile.mpr finished
      exact ⟨(assertNoUnfinished_singleton _).mpr passes,
        (splits.readers_agree written).mpr passes⟩
    · intro count accepted
      rw [assertNoUnfinished_singleton]
      rcases splits_truncated whole small name count with
        ⟨taken, isTaken, splitsTaken⟩ | unreadable
      · exact (splitsTaken.readers_agree
          (written.beginning isTaken)).mp accepted
      · rw [retentionAuditHasNoUnfinishedIntent, truncatedFile, unreadable]
          at accepted
        cases accepted

/--
The readers agree on the log of an execution, wherever it stops, if and only
if the log is no larger than both of them read, and none of the strings in it
holds U+0085, U+2028 or U+2029.
-/
theorem audit_log_agrees_iff
    {db : Database} {files : Files StoredFile}
    {logs : List (List AuditRecord)} {plan : RetentionPlan}
    {logPath : String} {now : Time} {first execution : Execution}
    (isStart : start fingerprint db files logs plan logPath now = .ok first)
    (steps : Steps (step fingerprint) (fun _ _ => True) first execution) :
    Agrees isoformat name execution.audit ↔
      (auditBytes isoformat execution.audit).size ≤ 1024 * 1024 ∧
        ∀ record ∈ execution.audit,
          hasSeparator (texts (.obj (payload isoformat record))) = false :=
  agrees_iff (written_of_steps isStart steps)

theorem audit_log_agrees_iff_untilDeletedRecord :
    ∃ plan first execution, planOld = .ok plan ∧ startOld plan = .ok first ∧
      run (step fun _ _ => "config") first untilDeletedRecord =
        some execution ∧
      (Agrees (fun _ => "2024-01-01T00:00:00+00:00") "retention-0.log"
          execution.audit ↔
        (auditBytes (fun _ => "2024-01-01T00:00:00+00:00")
            execution.audit).size ≤ 1024 * 1024 ∧
          ∀ record ∈ execution.audit, hasSeparator (texts (.obj (payload
            (fun _ => "2024-01-01T00:00:00+00:00") record))) = false) := by
  have found : ∃ plan first, planOld = .ok plan ∧ startOld plan = .ok first ∧
      (run (step fun _ _ => "config") first untilDeletedRecord).isSome =
        true := by
    refine ⟨_, _, rfl, rfl, ?_⟩
    decide +kernel
  rcases found with ⟨plan, first, isPlan, isStart, isRun⟩
  rcases Option.isSome_iff_exists.mp isRun with ⟨execution, isRun⟩
  refine ⟨plan, first, execution, isPlan, isStart, isRun, ?_⟩
  exact audit_log_agrees_iff isStart (Steps.of_run untilDeletedRecord isRun)

/-- The path of the old file has a line separator. -/
def separatedFile : Database :=
  { twoFiles with
    artifact :=
      (Table.empty.insert
        { targetId := 1, storageId := 1,
          relativePath := "old\u2028part.mp4" }).insert
        { targetId := 2, storageId := 1, relativePath := "new.mp4" } }

/-- The plan which deletes this file. -/
def planSeparated : Except String RetentionPlan :=
  buildRetentionPlan (fun _ _ => "config")
    (fun date => if date = "20240101" then some 0 else none) separatedFile 1
    { enabled := true, maxAgeDays := some 30 } 20 100
    (some fun place => .ok
      { size := some 10, hashes := [("sha256", place.2)],
        relativePath := place.2 })

/-- The execution of this plan. -/
def executionSeparated : Option Execution :=
  planSeparated.toOption.bind fun plan =>
    (start (fun _ _ => "config") separatedFile everyFile [] plan
      "retention.log" 0).toOption.bind fun first =>
        run (step fun _ _ => "config") first
          (List.replicate 6 (.proceed "quarantine" 1))

/-- The retention succeeds, and its log stops every later one. -/
theorem not_agrees_separatedFile :
    ∃ execution, executionSeparated = some execution ∧
      execution.outcome = some .succeeded ∧
      hasUnfinishedIntent execution.audit = false ∧
      assertNoUnfinishedRetentionIntents
        [auditFile (fun _ => "2024-01-01T00:00:00+00:00") "retention-0.log"
          execution.audit] ≠ .ok () ∧
      ¬ Agrees (fun _ => "2024-01-01T00:00:00+00:00") "retention-0.log"
        execution.audit := by
  have found : executionSeparated.any (fun execution =>
      execution.outcome == some .succeeded &&
        !hasUnfinishedIntent execution.audit &&
        execution.audit.any fun record => hasSeparator (texts (.obj (payload
          (fun _ => "2024-01-01T00:00:00+00:00") record)))) = true := by
    decide +kernel
  rw [Option.any_eq_true] at found
  rcases found with ⟨execution, isRun, facts⟩
  rw [Bool.and_eq_true, Bool.and_eq_true, beq_iff_eq,
    Bool.not_eq_true'] at facts
  rcases facts with ⟨⟨succeeded, finished⟩, separator⟩
  have broken : ¬ IsWhole (fun _ => "2024-01-01T00:00:00+00:00")
      execution.audit := by
    intro whole
    rcases List.any_eq_true.mp separator with ⟨record, member, isSeparated⟩
    rw [whole record member] at isSeparated
    cases isSeparated
  have refused := @refused_of_broken _ "retention-0.log" _ broken
  refine ⟨execution, isRun, succeeded, finished, refused, ?_⟩
  intro agrees
  exact refused (agrees.completed finished).1

end Sluicery.Core.RetentionAudit
