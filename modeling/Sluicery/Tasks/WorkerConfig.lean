import Sluicery.Core.Settings
import Mathlib.Algebra.Order.Ring.Rat

/-!
# `WorkerConfig`

The worker reads its settings when it starts, and does not start with
settings which are not positive or with a stale threshold below three
heartbeats.
-/

namespace Sluicery.Tasks

open Sluicery.Library Sluicery.Core.Settings

/-- `WorkerConfig`, with the values as they were read. -/
structure WorkerConfig where
  pollIntervalSec : Json
  pollJitterSec : Json
  heartbeatIntervalSec : Json
  staleThresholdSec : Json
  retryBaseSec : Json
  retryMaxSec : Json
  maxAttempts : Json
  blockedRetrySec : Json
  blockedRetry403Sec : Json
  progressWriteIntervalSec : Json
  progressWritePercentStep : Json
  shutdownGraceSec : Json
  enableTestTasks : Json
  itemConcurrency : Json
  logRetentionDays : Json

/-- `3 * value`, of an `int` or a `float`; an infinite one is `none`. -/
def triple (rules : Rules) : Json → Option Rat
  | .real value => rules.triple value
  | value => (number value).map fun value => 3 * value

/-- The stale threshold is below three heartbeats. -/
def staleBelow (rules : Rules) (stale heartbeat : Json) : Option Bool :=
  match number stale, number heartbeat with
  | some stale, some _ =>
      some ((triple rules heartbeat).elim true fun bound => stale < bound)
  | _, _ => none

namespace WorkerConfig

/-- The settings which have to be positive. -/
def positive (config : WorkerConfig) : List (String × Json) :=
  [("poll_interval_sec", config.pollIntervalSec),
    ("heartbeat_interval_sec", config.heartbeatIntervalSec),
    ("stale_threshold_sec", config.staleThresholdSec),
    ("retry_base_sec", config.retryBaseSec),
    ("retry_max_sec", config.retryMaxSec),
    ("blocked_retry_sec", config.blockedRetrySec),
    ("blocked_retry_403_sec", config.blockedRetry403Sec),
    ("progress_write_interval_sec", config.progressWriteIntervalSec),
    ("progress_write_percent_step", config.progressWritePercentStep),
    ("shutdown_grace_sec", config.shutdownGraceSec)]

/-- The value is below the bound. -/
def below (bound : Rat) (value : Json) : Bool :=
  (number value).any fun value => value < bound

/-- A comparison of the checks raises. -/
def isUnordered (config : WorkerConfig) : Bool :=
  ([config.pollJitterSec, config.maxAttempts, config.itemConcurrency,
    config.logRetentionDays] ++ config.positive.map Prod.snd).any
      fun value => (number value).isNone

/-- The settings which `__post_init__` complains about. -/
def invalid (rules : Rules) (config : WorkerConfig) : List String :=
  ((config.positive.filter fun field =>
      (number field.2).any fun value => value ≤ 0).map Prod.fst) ++
    (if below 0 config.pollJitterSec then ["poll_jitter_sec"] else []) ++
    (if below 1 config.maxAttempts then ["max_attempts"] else []) ++
    (if below 1 config.itemConcurrency then ["item_concurrency"] else []) ++
    (if below 1 config.logRetentionDays then ["log_retention_days"]
      else []) ++
    (if staleBelow rules config.staleThresholdSec
        config.heartbeatIntervalSec = some true then
      ["stale_threshold_sec"] else [])

/-- `__post_init__`. -/
def check (rules : Rules) (config : WorkerConfig) : Except String Unit :=
  if config.isUnordered then .error "TypeError"
  else if config.invalid rules = [] then .ok ()
  else
    .error ("worker設定が不正です: " ++
      String.intercalate ", " (config.invalid rules))

/-- `WorkerConfig.from_session`. -/
def fromSession (rules : Rules) (overrides : Overrides) :
    Except String WorkerConfig := do
  let pollIntervalSec ← get rules overrides .workerPollIntervalSec
  let pollJitterSec ← get rules overrides .workerPollJitterSec
  let heartbeatIntervalSec ← get rules overrides .workerHeartbeatIntervalSec
  let staleThresholdSec ← get rules overrides .workerStaleThresholdSec
  let retryBaseSec ← get rules overrides .workerRetryBaseSec
  let retryMaxSec ← get rules overrides .workerRetryMaxSec
  let maxAttempts ← get rules overrides .workerMaxAttempts
  let blockedRetrySec ← get rules overrides .workerBlockedRetrySec
  let blockedRetry403Sec ← get rules overrides .workerBlockedRetry403Sec
  let progressWriteIntervalSec ←
    get rules overrides .workerProgressWriteIntervalSec
  let progressWritePercentStep ←
    get rules overrides .workerProgressWritePercentStep
  let shutdownGraceSec ← get rules overrides .workerShutdownGraceSec
  let enableTestTasks ← get rules overrides .workerEnableTestTasks
  let itemConcurrency ← get rules overrides .downloadItemConcurrency
  let logRetentionDays ← get rules overrides .logRetentionDays
  let config : WorkerConfig :=
    { pollIntervalSec, pollJitterSec, heartbeatIntervalSec,
      staleThresholdSec, retryBaseSec, retryMaxSec, maxAttempts,
      blockedRetrySec, blockedRetry403Sec, progressWriteIntervalSec,
      progressWritePercentStep, shutdownGraceSec, enableTestTasks,
      itemConcurrency, logRetentionDays }
  config.check rules
  return config

end WorkerConfig

/-! ## What the worker asks of each setting -/

/-- The settings which the worker reads. -/
def workerKeys : List Key :=
  [.workerPollIntervalSec, .workerPollJitterSec,
    .workerHeartbeatIntervalSec, .workerStaleThresholdSec,
    .workerRetryBaseSec, .workerRetryMaxSec, .workerMaxAttempts,
    .workerBlockedRetrySec, .workerBlockedRetry403Sec,
    .workerProgressWriteIntervalSec, .workerProgressWritePercentStep,
    .workerShutdownGraceSec, .workerEnableTestTasks,
    .downloadItemConcurrency, .logRetentionDays]

/-- What a setting has to be on its own. -/
def suitsWorker (key : Key) (value : Json) : Bool :=
  if key = .workerEnableTestTasks ∨ key ∉ workerKeys then true
  else
    (number value).any fun value =>
      if key = .workerPollJitterSec then 0 ≤ value
      else if key ∈ [.workerMaxAttempts, .downloadItemConcurrency,
          .logRetentionDays] then 1 ≤ value
      else 0 < value

/-- The settings which a read finds, one by one and together. -/
def WorkerAccepts (rules : Rules) (overrides : Overrides) : Prop :=
  (∀ key ∈ workerKeys, ∃ value, get rules overrides key = .ok value ∧
    suitsWorker key value = true) ∧
  ∃ stale heartbeat,
    get rules overrides .workerStaleThresholdSec = .ok stale ∧
    get rules overrides .workerHeartbeatIntervalSec = .ok heartbeat ∧
    staleBelow rules stale heartbeat = some false

theorem isOk_bind {α β : Type} {first : Except String α}
    {rest : α → Except String β} :
    (first >>= rest).isOk = true ↔
      ∃ value, first = .ok value ∧ (rest value).isOk = true := by
  cases first with
  | error message => simp [bind, Except.bind, Except.isOk, Except.toBool]
  | ok value => simp [bind, Except.bind]

namespace WorkerConfig

/-- A number is not below the bound, or at least the bound. -/
theorem not_below_iff (bound : Rat) (value : Json) :
    ((number value).isNone = false ∧ below bound value = false) ↔
      (number value).any (fun value => bound ≤ value) = true := by
  unfold below
  cases number value <;> simp

theorem not_nonpositive_iff (value : Json) :
    ((number value).isNone = false ∧
        ((number value).any fun value => value ≤ 0) = false) ↔
      (number value).any (fun value => 0 < value) = true := by
  cases number value <;> simp

theorem staleBelow_isSome
    (rules : Rules) {stale heartbeat : Json}
    (isStale : (number stale).isNone = false)
    (isHeartbeat : (number heartbeat).isNone = false) :
    staleBelow rules stale heartbeat ≠ none := by
  cases foundStale : number stale with
  | none => simp [foundStale] at isStale
  | some =>
      cases foundHeartbeat : number heartbeat with
      | none => simp [foundHeartbeat] at isHeartbeat
      | some => simp [staleBelow, foundStale, foundHeartbeat]

theorem check_isOk (rules : Rules) (config : WorkerConfig) :
    (config.check rules).isOk = true ↔
      (∀ field ∈ config.positive,
        (number field.2).any (fun value => 0 < value) = true) ∧
      (number config.pollJitterSec).any (fun value => 0 ≤ value) = true ∧
      (number config.maxAttempts).any (fun value => 1 ≤ value) = true ∧
      (number config.itemConcurrency).any (fun value => 1 ≤ value) = true ∧
      (number config.logRetentionDays).any (fun value => 1 ≤ value) = true ∧
      staleBelow rules config.staleThresholdSec
        config.heartbeatIntervalSec = some false := by
  have accepted : (config.check rules).isOk = true ↔
      config.isUnordered = false ∧ config.invalid rules = [] := by
    unfold check
    cases config.isUnordered with
    | true => simp [Except.isOk, Except.toBool]
    | false =>
        by_cases valid : config.invalid rules = [] <;>
          simp [valid, Except.isOk, Except.toBool]
  rw [accepted]
  simp only [isUnordered, List.any_append, Bool.or_eq_false_iff,
    List.any_cons, List.any_nil, invalid, List.append_eq_nil_iff,
    List.map_eq_nil_iff, List.filter_eq_nil_iff, ite_eq_right_iff,
    List.cons_ne_nil, imp_false, Bool.not_eq_true, ← not_below_iff,
    ← not_nonpositive_iff]
  constructor
  · rintro ⟨⟨⟨jitter, attempts, concurrency, retention, -⟩, ordered⟩,
      ⟨⟨⟨⟨positive, noJitter⟩, noAttempts⟩, noConcurrency⟩,
        noRetention⟩, notStale⟩
    rw [List.any_eq_false] at ordered
    have numeric : ∀ field ∈ config.positive,
        (number field.2).isNone = false := fun field member =>
      Bool.not_eq_true _ ▸ ordered field.2 (List.mem_map_of_mem member)
    refine ⟨fun field member => ⟨numeric field member,
      positive field member⟩, ⟨jitter, noJitter⟩, ⟨attempts, noAttempts⟩,
      ⟨concurrency, noConcurrency⟩, ⟨retention, noRetention⟩, ?_⟩
    have isSome := staleBelow_isSome rules
      (numeric ("stale_threshold_sec", config.staleThresholdSec)
        (by simp [WorkerConfig.positive]))
      (numeric ("heartbeat_interval_sec", config.heartbeatIntervalSec)
        (by simp [WorkerConfig.positive]))
    cases below : staleBelow rules config.staleThresholdSec
        config.heartbeatIntervalSec with
    | none => exact absurd below isSome
    | some isBelow =>
        cases isBelow with
        | true => exact absurd below notStale
        | false => rfl
  · rintro ⟨positive, ⟨jitter, noJitter⟩, ⟨attempts, noAttempts⟩,
      ⟨concurrency, noConcurrency⟩, ⟨retention, noRetention⟩, notStale⟩
    refine ⟨⟨⟨jitter, attempts, concurrency, retention, trivial⟩, ?_⟩,
      ⟨⟨⟨⟨fun field member => (positive field member).2, noJitter⟩,
        noAttempts⟩, noConcurrency⟩, noRetention⟩, ?_⟩
    · rw [List.any_eq_false]
      intro value member
      obtain ⟨field, isField, rfl⟩ := List.mem_map.mp member
      exact Bool.not_eq_true _ ▸ (positive field isField).1
    · rw [notStale]
      decide

end WorkerConfig

/-- The values of the settings, as a configuration. -/
def configOf (value : Key → Json) : WorkerConfig where
  pollIntervalSec := value .workerPollIntervalSec
  pollJitterSec := value .workerPollJitterSec
  heartbeatIntervalSec := value .workerHeartbeatIntervalSec
  staleThresholdSec := value .workerStaleThresholdSec
  retryBaseSec := value .workerRetryBaseSec
  retryMaxSec := value .workerRetryMaxSec
  maxAttempts := value .workerMaxAttempts
  blockedRetrySec := value .workerBlockedRetrySec
  blockedRetry403Sec := value .workerBlockedRetry403Sec
  progressWriteIntervalSec := value .workerProgressWriteIntervalSec
  progressWritePercentStep := value .workerProgressWritePercentStep
  shutdownGraceSec := value .workerShutdownGraceSec
  enableTestTasks := value .workerEnableTestTasks
  itemConcurrency := value .downloadItemConcurrency
  logRetentionDays := value .logRetentionDays

theorem configOf_check_isOk (rules : Rules) (value : Key → Json) :
    ((configOf value).check rules).isOk = true ↔
      (∀ key ∈ workerKeys, suitsWorker key (value key) = true) ∧
      staleBelow rules (value .workerStaleThresholdSec)
        (value .workerHeartbeatIntervalSec) = some false := by
  rw [WorkerConfig.check_isOk]
  simp only [WorkerConfig.positive, configOf, workerKeys, suitsWorker,
    List.forall_mem_cons]
  simp
  tauto

/-- The value which a read finds, where it finds one. -/
def readValue (rules : Rules) (overrides : Overrides) (key : Key) : Json :=
  ((get rules overrides key).toOption).getD .null

theorem readValue_of_get
    {rules : Rules} {overrides : Overrides} {key : Key} {value : Json}
    (found : get rules overrides key = .ok value) :
    readValue rules overrides key = value := by
  simp [readValue, found, Except.toOption]

theorem get_readValue
    {rules : Rules} {overrides : Overrides} {key : Key}
    (found : ∃ value, get rules overrides key = .ok value) :
    get rules overrides key = .ok (readValue rules overrides key) := by
  rcases found with ⟨value, isValue⟩
  rw [isValue, readValue_of_get isValue]

/-- The worker reads all its settings, and checks them. -/
theorem fromSession_isOk_iff_check (rules : Rules) (overrides : Overrides) :
    (WorkerConfig.fromSession rules overrides).isOk = true ↔
      (∀ key ∈ workerKeys, ∃ value, get rules overrides key = .ok value) ∧
      ((configOf (readValue rules overrides)).check rules).isOk = true := by
  simp only [WorkerConfig.fromSession, isOk_bind]
  constructor
  · rintro ⟨_, poll, _, jitter, _, heartbeat, _, stale, _, base, _, most,
      _, attempts, _, blocked, _, forbidden, _, interval, _, step, _, grace,
      _, testTasks, _, concurrency, _, retention, _, checked, -⟩
    refine ⟨?_, ?_⟩
    · simp only [workerKeys, List.forall_mem_cons]
      exact ⟨⟨_, poll⟩, ⟨_, jitter⟩, ⟨_, heartbeat⟩, ⟨_, stale⟩, ⟨_, base⟩,
        ⟨_, most⟩, ⟨_, attempts⟩, ⟨_, blocked⟩, ⟨_, forbidden⟩,
        ⟨_, interval⟩, ⟨_, step⟩, ⟨_, grace⟩, ⟨_, testTasks⟩,
        ⟨_, concurrency⟩, ⟨_, retention⟩, by simp⟩
    · simp only [configOf, readValue_of_get poll, readValue_of_get jitter,
        readValue_of_get heartbeat, readValue_of_get stale,
        readValue_of_get base, readValue_of_get most,
        readValue_of_get attempts, readValue_of_get blocked,
        readValue_of_get forbidden, readValue_of_get interval,
        readValue_of_get step, readValue_of_get grace,
        readValue_of_get testTasks, readValue_of_get concurrency,
        readValue_of_get retention, checked]
      rfl
  · rintro ⟨reads, checked⟩
    have found : ∀ key ∈ workerKeys, get rules overrides key =
        .ok (readValue rules overrides key) :=
      fun key member => get_readValue (reads key member)
    simp only [workerKeys, List.forall_mem_cons] at found
    rcases found with ⟨poll, jitter, heartbeat, stale, base, most, attempts,
      blocked, forbidden, interval, step, grace, testTasks, concurrency,
      retention, -⟩
    refine ⟨_, poll, _, jitter, _, heartbeat, _, stale, _, base, _, most,
      _, attempts, _, blocked, _, forbidden, _, interval, _, step, _, grace,
      _, testTasks, _, concurrency, _, retention, ?_⟩
    cases result : (configOf (readValue rules overrides)).check rules with
    | error message => simp [result, Except.isOk, Except.toBool] at checked
    | ok => exact ⟨_, result, rfl⟩

/-- The worker starts exactly with settings which it accepts. -/
theorem fromSession_isOk (rules : Rules) (overrides : Overrides) :
    (WorkerConfig.fromSession rules overrides).isOk = true ↔
      WorkerAccepts rules overrides := by
  rw [fromSession_isOk_iff_check, configOf_check_isOk]
  constructor
  · rintro ⟨reads, suits, notStale⟩
    refine ⟨fun key member => ⟨_, get_readValue (reads key member),
      suits key member⟩, _, _, get_readValue (reads _ ?_),
      get_readValue (reads _ ?_), notStale⟩ <;> decide
  · rintro ⟨reads, stale, heartbeat, isStale, isHeartbeat, notStale⟩
    refine ⟨fun key member => ?_, fun key member => ?_, ?_⟩
    · rcases reads key member with ⟨value, found, -⟩
      exact ⟨value, found⟩
    · rcases reads key member with ⟨value, found, suits⟩
      rw [readValue_of_get found]
      exact suits
    · rw [readValue_of_get isStale, readValue_of_get isHeartbeat]
      exact notStale

end Sluicery.Tasks
