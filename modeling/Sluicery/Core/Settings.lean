import Sluicery.Core.OptionGuard
import Sluicery.Library.Json
import Mathlib.Logic.Function.Basic

/-!
# Settings

`CODE_DEFAULTS` is the table of the known settings; a row of `setting` is an
override.  A value is cast to the type of its setting when it is stored and
again when it is read.  What Python's own conversions and the parsers of cron
expressions, time windows and URLs do is a parameter.
-/

namespace Sluicery.Core.Settings

open Sluicery.Library

/-! ## Code defaults -/

/-- The keys of `CODE_DEFAULTS`. -/
inductive Key where
  | authSessionMaxAgeSec | authMaxLoginAttempts | authLockoutSec
  | stagingWarnPct | stagingStopPct | logRetentionDays
  | scheduleDiscoverCron | scheduleDownloadCron | scheduleIntegrityCron
  | integrityRescanTimeoutSec | integrityMaxCandidatesPerSourceId
  | formatProbeMinIntervalSec | retentionMaxDeletePerRun
  | retentionDryrunTtlSec | scheduleJitterMinutes | scheduleDownloadWindow
  | ytdlpUpdateCron | ytdlpSmoketestUrl | downloadItemConcurrency
  | downloadConcurrentFragments | downloadSleepRequests
  | downloadSleepInterval | downloadMaxSleepInterval | downloadLimitRate
  | downloadRetries | downloadFragmentRetries | downloadTrimFilenames
  | defaultsVideoFormatSelector | defaultsVideoContainer
  | defaultsVideoAudioExtract | defaultsVideoEmbedMetadata
  | defaultsVideoEmbedThumbnail | defaultsVideoEmbedChapters
  | defaultsVideoSubtitleLangs | defaultsVideoSubtitleAuto
  | defaultsVideoSubtitleEmbed | defaultsMusicFormatSelector
  | defaultsMusicAudioExtract | defaultsMusicAudioFormat
  | defaultsMusicAudioQuality | defaultsMusicEmbedMetadata
  | defaultsMusicEmbedThumbnail | defaultsMusicParseMetadata
  | retryMaxAttempts | ytdlpAutoInstall | ytdlpKeepVersions
  | ytdlpIdleTimeoutSec | ytdlpAbsoluteTimeoutSec | ytdlpDiscoverTimeoutSec
  | ytdlpTermGraceSec | ytdlpStderrTailKb | storageFreeSpaceWarnBytes
  | storageFreeSpaceStopBytes | storageIdleTimeoutSec
  | storageAbsoluteTimeoutSec | storageTestTimeoutSec
  | storageRcloneRetries | pipelineVerifyTimeoutSec | syncMaxTargetsPerRun
  | syncDeleteStagingAfterIndex | workerPollIntervalSec
  | workerPollJitterSec | workerHeartbeatIntervalSec
  | workerStaleThresholdSec | workerRetryBaseSec | workerRetryMaxSec
  | workerMaxAttempts | workerBlockedRetrySec | workerBlockedRetry403Sec
  | workerProgressWriteIntervalSec | workerProgressWritePercentStep
  | workerShutdownGraceSec | workerEnableTestTasks
deriving DecidableEq, Repr

/-- The text of a key. -/
def Key.name : Key → String
  | .authSessionMaxAgeSec => "auth.session_max_age_sec"
  | .authMaxLoginAttempts => "auth.max_login_attempts"
  | .authLockoutSec => "auth.lockout_sec"
  | .stagingWarnPct => "staging.warn_pct"
  | .stagingStopPct => "staging.stop_pct"
  | .logRetentionDays => "log.retention_days"
  | .scheduleDiscoverCron => "schedule.discover_cron"
  | .scheduleDownloadCron => "schedule.download_cron"
  | .scheduleIntegrityCron => "schedule.integrity_cron"
  | .integrityRescanTimeoutSec => "integrity.rescan_timeout_sec"
  | .integrityMaxCandidatesPerSourceId =>
      "integrity.max_candidates_per_source_id"
  | .formatProbeMinIntervalSec => "format.probe_min_interval_sec"
  | .retentionMaxDeletePerRun => "retention.max_delete_per_run"
  | .retentionDryrunTtlSec => "retention.dryrun_ttl_sec"
  | .scheduleJitterMinutes => "schedule.jitter_minutes"
  | .scheduleDownloadWindow => "schedule.download_window"
  | .ytdlpUpdateCron => "ytdlp.update_cron"
  | .ytdlpSmoketestUrl => "ytdlp.smoketest_url"
  | .downloadItemConcurrency => "download.item_concurrency"
  | .downloadConcurrentFragments => "download.concurrent_fragments"
  | .downloadSleepRequests => "download.sleep_requests"
  | .downloadSleepInterval => "download.sleep_interval"
  | .downloadMaxSleepInterval => "download.max_sleep_interval"
  | .downloadLimitRate => "download.limit_rate"
  | .downloadRetries => "download.retries"
  | .downloadFragmentRetries => "download.fragment_retries"
  | .downloadTrimFilenames => "download.trim_filenames"
  | .defaultsVideoFormatSelector => "defaults.video.format_selector"
  | .defaultsVideoContainer => "defaults.video.container"
  | .defaultsVideoAudioExtract => "defaults.video.audio_extract"
  | .defaultsVideoEmbedMetadata => "defaults.video.embed_metadata"
  | .defaultsVideoEmbedThumbnail => "defaults.video.embed_thumbnail"
  | .defaultsVideoEmbedChapters => "defaults.video.embed_chapters"
  | .defaultsVideoSubtitleLangs => "defaults.video.subtitle_langs"
  | .defaultsVideoSubtitleAuto => "defaults.video.subtitle_auto"
  | .defaultsVideoSubtitleEmbed => "defaults.video.subtitle_embed"
  | .defaultsMusicFormatSelector => "defaults.music.format_selector"
  | .defaultsMusicAudioExtract => "defaults.music.audio_extract"
  | .defaultsMusicAudioFormat => "defaults.music.audio_format"
  | .defaultsMusicAudioQuality => "defaults.music.audio_quality"
  | .defaultsMusicEmbedMetadata => "defaults.music.embed_metadata"
  | .defaultsMusicEmbedThumbnail => "defaults.music.embed_thumbnail"
  | .defaultsMusicParseMetadata => "defaults.music.parse_metadata"
  | .retryMaxAttempts => "retry.max_attempts"
  | .ytdlpAutoInstall => "ytdlp.auto_install"
  | .ytdlpKeepVersions => "ytdlp.keep_versions"
  | .ytdlpIdleTimeoutSec => "ytdlp.idle_timeout_sec"
  | .ytdlpAbsoluteTimeoutSec => "ytdlp.absolute_timeout_sec"
  | .ytdlpDiscoverTimeoutSec => "ytdlp.discover_timeout_sec"
  | .ytdlpTermGraceSec => "ytdlp.term_grace_sec"
  | .ytdlpStderrTailKb => "ytdlp.stderr_tail_kb"
  | .storageFreeSpaceWarnBytes => "storage.free_space_warn_bytes"
  | .storageFreeSpaceStopBytes => "storage.free_space_stop_bytes"
  | .storageIdleTimeoutSec => "storage.idle_timeout_sec"
  | .storageAbsoluteTimeoutSec => "storage.absolute_timeout_sec"
  | .storageTestTimeoutSec => "storage.test_timeout_sec"
  | .storageRcloneRetries => "storage.rclone_retries"
  | .pipelineVerifyTimeoutSec => "pipeline.verify_timeout_sec"
  | .syncMaxTargetsPerRun => "sync.max_targets_per_run"
  | .syncDeleteStagingAfterIndex => "sync.delete_staging_after_index"
  | .workerPollIntervalSec => "worker.poll_interval_sec"
  | .workerPollJitterSec => "worker.poll_jitter_sec"
  | .workerHeartbeatIntervalSec => "worker.heartbeat_interval_sec"
  | .workerStaleThresholdSec => "worker.stale_threshold_sec"
  | .workerRetryBaseSec => "worker.retry_base_sec"
  | .workerRetryMaxSec => "worker.retry_max_sec"
  | .workerMaxAttempts => "worker.max_attempts"
  | .workerBlockedRetrySec => "worker.blocked_retry_sec"
  | .workerBlockedRetry403Sec => "worker.blocked_retry_403_sec"
  | .workerProgressWriteIntervalSec => "worker.progress_write_interval_sec"
  | .workerProgressWritePercentStep => "worker.progress_write_percent_step"
  | .workerShutdownGraceSec => "worker.shutdown_grace_sec"
  | .workerEnableTestTasks => "worker.enable_test_tasks"

/-- The keys in the order of `CODE_DEFAULTS`. -/
def Key.all : List Key :=
  [.authSessionMaxAgeSec, .authMaxLoginAttempts, .authLockoutSec,
   .stagingWarnPct, .stagingStopPct, .logRetentionDays,
   .scheduleDiscoverCron, .scheduleDownloadCron, .scheduleIntegrityCron,
   .integrityRescanTimeoutSec, .integrityMaxCandidatesPerSourceId,
   .formatProbeMinIntervalSec, .retentionMaxDeletePerRun,
   .retentionDryrunTtlSec, .scheduleJitterMinutes, .scheduleDownloadWindow,
   .ytdlpUpdateCron, .ytdlpSmoketestUrl, .downloadItemConcurrency,
   .downloadConcurrentFragments, .downloadSleepRequests,
   .downloadSleepInterval, .downloadMaxSleepInterval, .downloadLimitRate,
   .downloadRetries, .downloadFragmentRetries, .downloadTrimFilenames,
   .defaultsVideoFormatSelector, .defaultsVideoContainer,
   .defaultsVideoAudioExtract, .defaultsVideoEmbedMetadata,
   .defaultsVideoEmbedThumbnail, .defaultsVideoEmbedChapters,
   .defaultsVideoSubtitleLangs, .defaultsVideoSubtitleAuto,
   .defaultsVideoSubtitleEmbed, .defaultsMusicFormatSelector,
   .defaultsMusicAudioExtract, .defaultsMusicAudioFormat,
   .defaultsMusicAudioQuality, .defaultsMusicEmbedMetadata,
   .defaultsMusicEmbedThumbnail, .defaultsMusicParseMetadata,
   .retryMaxAttempts, .ytdlpAutoInstall, .ytdlpKeepVersions,
   .ytdlpIdleTimeoutSec, .ytdlpAbsoluteTimeoutSec,
   .ytdlpDiscoverTimeoutSec, .ytdlpTermGraceSec, .ytdlpStderrTailKb,
   .storageFreeSpaceWarnBytes, .storageFreeSpaceStopBytes,
   .storageIdleTimeoutSec, .storageAbsoluteTimeoutSec,
   .storageTestTimeoutSec, .storageRcloneRetries,
   .pipelineVerifyTimeoutSec, .syncMaxTargetsPerRun,
   .syncDeleteStagingAfterIndex, .workerPollIntervalSec,
   .workerPollJitterSec, .workerHeartbeatIntervalSec,
   .workerStaleThresholdSec, .workerRetryBaseSec, .workerRetryMaxSec,
   .workerMaxAttempts, .workerBlockedRetrySec, .workerBlockedRetry403Sec,
   .workerProgressWriteIntervalSec, .workerProgressWritePercentStep,
   .workerShutdownGraceSec, .workerEnableTestTasks]

theorem Key.mem_all (key : Key) : key ∈ Key.all := by
  cases key <;> decide

/-- `CODE_DEFAULTS.get(key)`. -/
def Key.ofName (name : String) : Option Key :=
  Key.all.find? fun key => key.name == name

/-- `SettingSpec.type_`. -/
inductive SettingType where
  | bool | int | float | str | list
deriving DecidableEq, Repr

/-- `SettingSpec`. -/
structure SettingSpec where
  type : SettingType
  default : Json

/-- `CODE_DEFAULTS`. -/
def codeDefaults : Key → SettingSpec
  | .authSessionMaxAgeSec => ⟨.int, .int 2592000⟩
  | .authMaxLoginAttempts => ⟨.int, .int 5⟩
  | .authLockoutSec => ⟨.int, .int 900⟩
  | .stagingWarnPct => ⟨.int, .int 80⟩
  | .stagingStopPct => ⟨.int, .int 90⟩
  | .logRetentionDays => ⟨.int, .int 30⟩
  | .scheduleDiscoverCron => ⟨.str, .str "0 */6 * * *"⟩
  | .scheduleDownloadCron => ⟨.str, .str "0 */6 * * *"⟩
  | .scheduleIntegrityCron => ⟨.str, .str "0 3 * * *"⟩
  | .integrityRescanTimeoutSec => ⟨.int, .int 600⟩
  | .integrityMaxCandidatesPerSourceId => ⟨.int, .int 5⟩
  | .formatProbeMinIntervalSec => ⟨.int, .int 10⟩
  | .retentionMaxDeletePerRun => ⟨.int, .int 20⟩
  | .retentionDryrunTtlSec => ⟨.int, .int 300⟩
  | .scheduleJitterMinutes => ⟨.int, .int 5⟩
  | .scheduleDownloadWindow => ⟨.str, .null⟩
  | .ytdlpUpdateCron => ⟨.str, .str "0 4 * * 0"⟩
  | .ytdlpSmoketestUrl =>
      ⟨.str, .str "https://download.blender.org/peach/trailer/trailer_1080p.mov"⟩
  | .downloadItemConcurrency => ⟨.int, .int 1⟩
  | .downloadConcurrentFragments => ⟨.int, .int 3⟩
  | .downloadSleepRequests => ⟨.float, .real (3 / 2)⟩
  | .downloadSleepInterval => ⟨.int, .int 3⟩
  | .downloadMaxSleepInterval => ⟨.int, .int 12⟩
  | .downloadLimitRate => ⟨.str, .str "8M"⟩
  | .downloadRetries => ⟨.int, .int 5⟩
  | .downloadFragmentRetries => ⟨.int, .int 10⟩
  | .downloadTrimFilenames => ⟨.int, .int 180⟩
  | .defaultsVideoFormatSelector =>
      ⟨.str, .str "bv*[height<=1080]+ba/b[height<=1080]/b"⟩
  | .defaultsVideoContainer => ⟨.str, .str "mkv"⟩
  | .defaultsVideoAudioExtract => ⟨.bool, .bool false⟩
  | .defaultsVideoEmbedMetadata => ⟨.bool, .bool true⟩
  | .defaultsVideoEmbedThumbnail => ⟨.bool, .bool true⟩
  | .defaultsVideoEmbedChapters => ⟨.bool, .bool true⟩
  | .defaultsVideoSubtitleLangs => ⟨.str, .str "ja,en"⟩
  | .defaultsVideoSubtitleAuto => ⟨.bool, .bool false⟩
  | .defaultsVideoSubtitleEmbed => ⟨.bool, .bool true⟩
  | .defaultsMusicFormatSelector => ⟨.str, .str "bestaudio/best"⟩
  | .defaultsMusicAudioExtract => ⟨.bool, .bool true⟩
  | .defaultsMusicAudioFormat => ⟨.str, .str "opus"⟩
  | .defaultsMusicAudioQuality => ⟨.str, .str "0"⟩
  | .defaultsMusicEmbedMetadata => ⟨.bool, .bool true⟩
  | .defaultsMusicEmbedThumbnail => ⟨.bool, .bool true⟩
  | .defaultsMusicParseMetadata =>
      ⟨.list, .arr
        [.str "playlist_index:%(track_number)s",
          .str "playlist_title:%(album)s",
          .str "uploader:%(artist)s",
          .str "upload_date:%(release_date)s"]⟩
  | .retryMaxAttempts => ⟨.int, .int 5⟩
  | .ytdlpAutoInstall => ⟨.bool, .bool true⟩
  | .ytdlpKeepVersions => ⟨.int, .int 3⟩
  | .ytdlpIdleTimeoutSec => ⟨.int, .int 300⟩
  | .ytdlpAbsoluteTimeoutSec => ⟨.int, .int 21600⟩
  | .ytdlpDiscoverTimeoutSec => ⟨.int, .int 300⟩
  | .ytdlpTermGraceSec => ⟨.int, .int 10⟩
  | .ytdlpStderrTailKb => ⟨.int, .int 64⟩
  | .storageFreeSpaceWarnBytes => ⟨.int, .int 10737418240⟩
  | .storageFreeSpaceStopBytes => ⟨.int, .int 2147483648⟩
  | .storageIdleTimeoutSec => ⟨.int, .int 300⟩
  | .storageAbsoluteTimeoutSec => ⟨.int, .int 21600⟩
  | .storageTestTimeoutSec => ⟨.int, .int 30⟩
  | .storageRcloneRetries => ⟨.int, .int 1⟩
  | .pipelineVerifyTimeoutSec => ⟨.int, .int 60⟩
  | .syncMaxTargetsPerRun => ⟨.int, .int 50⟩
  | .syncDeleteStagingAfterIndex => ⟨.bool, .bool true⟩
  | .workerPollIntervalSec => ⟨.float, .int 3⟩
  | .workerPollJitterSec => ⟨.float, .int 1⟩
  | .workerHeartbeatIntervalSec => ⟨.float, .int 30⟩
  | .workerStaleThresholdSec => ⟨.float, .int 180⟩
  | .workerRetryBaseSec => ⟨.float, .int 60⟩
  | .workerRetryMaxSec => ⟨.float, .int 3600⟩
  | .workerMaxAttempts => ⟨.int, .int 5⟩
  | .workerBlockedRetrySec => ⟨.float, .int 300⟩
  | .workerBlockedRetry403Sec => ⟨.float, .int 3600⟩
  | .workerProgressWriteIntervalSec => ⟨.float, .int 2⟩
  | .workerProgressWritePercentStep => ⟨.float, .int 5⟩
  | .workerShutdownGraceSec => ⟨.float, .int 20⟩
  | .workerEnableTestTasks => ⟨.bool, .bool false⟩

/-! ## Casts -/

/-- A value which an import or a call hands over. -/
inductive Value where
  | json (value : Json)
  /-- Anything else, by its `str`: an infinite number, a date. -/
  | special (text : String)

/-- Python's conversions, and the parsers of other modules. -/
structure Rules where
  parseInt : String → Option Int
  /-- A finite `float(text)`. -/
  parseFloat : String → Option Rat
  floatOfInt : Int → Option Rat
  strOf : Json → String
  jsonLoads : String → Option Json
  /-- `3 * value` of a float, unless it overflows. -/
  triple : Rat → Option Rat
  validateSourceUrl : String → Except String Unit
  /-- `CronTrigger.from_crontab` takes the expression. -/
  validCrontab : String → Bool
  /-- `validate_cron_expression` in the time zone of the application. -/
  validateCronExpression : String → Except String Unit
  parseDownloadWindow : Json → Except String Unit

/-- A value as a number. -/
def number : Json → Option Rat
  | .int value => some value
  | .real value => some value
  | .bool value => some (if value then 1 else 0)
  | _ => none

/-- `str.strip` leaves nothing. -/
def isBlank (text : String) : Bool :=
  text.toList.all Options.isSpace

/-- The texts which `_cast` reads as a truth value. -/
def parseBool (text : String) : Option Bool :=
  let normalized := (String.ofList
    ((text.toList.dropWhile Options.isSpace).reverse.dropWhile
      Options.isSpace).reverse).toLower
  if normalized ∈ ["1", "true", "yes", "on"] then some true
  else if normalized ∈ ["0", "false", "no", "off"] then some false
  else none

/-- `int(value)`. -/
def toInt (rules : Rules) : Value → Option Int
  | .json (.str text) => rules.parseInt text
  | .json (.int value) => some value
  | .json (.bool value) => some (if value then 1 else 0)
  | .json (.real value) => some (value.num.tdiv value.den)
  | _ => none

/-- A finite `float(value)`. -/
def toFloat (rules : Rules) : Value → Option Rat
  | .json (.str text) => rules.parseFloat text
  | .json (.int value) => rules.floatOfInt value
  | .json (.bool value) => some (if value then 1 else 0)
  | .json (.real value) => some value
  | _ => none

/-- `str(value)`. -/
def toStr (rules : Rules) : Value → String
  | .json (.str text) => text
  | .json value => rules.strOf value
  | .special text => text

/-- `isinstance(value, str)`. -/
def isText : Json → Bool
  | .str _ => true
  | _ => false

/-- A list of texts. -/
def isTextList : Json → Bool
  | .arr items => items.all isText
  | _ => false

/-- `_cast`; the errors of the conversions have no text here. -/
def cast (rules : Rules) (type : SettingType) (raw : Value) :
    Except String Json :=
  match raw with
  | .json .null => .ok .null
  | _ =>
      match type with
      | .bool =>
          let value :=
            match raw with
            | .json (.bool value) => some value
            | .json (.str text) => parseBool text
            | _ => none
          match value with
          | some value => .ok (.bool value)
          | none => .error "真偽値は true または false で指定してください"
      | .list =>
          let parsed :=
            match raw with
            | .json (.str text) => rules.jsonLoads text
            | .json value => some value
            | .special _ => none
          match parsed.filter isTextList with
          | some value => .ok value
          | none => .error "JSON文字列の配列を指定してください"
      | .int =>
          match toInt rules raw with
          | some value => .ok (.int value)
          | none => .error "ValueError"
      | .float =>
          match toFloat rules raw with
          | some value => .ok (.real value)
          | none => .error "有限の数値を指定してください"
      | .str => .ok (.str (toStr rules raw))

/-- A cast value is cast to itself, when its row is read. -/
theorem cast_of_cast
    {rules : Rules} {type : SettingType} {raw : Value} {value : Json}
    (casts : cast rules type raw = .ok value) :
    cast rules type (.json value) = .ok value := by
  unfold cast at casts
  split at casts
  · obtain rfl := Except.ok.inj casts
    rfl
  cases type with
  | bool =>
      dsimp only at casts
      split at casts
      · obtain rfl := Except.ok.inj casts
        rfl
      · cases casts
  | list =>
      dsimp only at casts
      split at casts
      · next listed isList =>
          obtain rfl := Except.ok.inj casts
          obtain ⟨-, texts⟩ := Option.filter_eq_some_iff.mp isList
          cases listed with
          | arr items => simp [cast, Option.filter, texts]
          | _ => cases texts
      · cases casts
  | int =>
      dsimp only at casts
      split at casts
      · obtain rfl := Except.ok.inj casts
        rfl
      · cases casts
  | float =>
      dsimp only at casts
      split at casts
      · obtain rfl := Except.ok.inj casts
        rfl
      · cases casts
  | str =>
      obtain rfl := Except.ok.inj casts
      rfl

/-! ## Overrides -/

/-- The rows of `setting` which override a code default. -/
abbrev Overrides := Key → Option Json

/-- `get`. -/
def get (rules : Rules) (overrides : Overrides) (key : Key) :
    Except String Json :=
  match overrides key with
  | none => .ok (codeDefaults key).default
  | some stored => cast rules (codeDefaults key).type (.json stored)

/-- `value <= 0`, which raises for anything but a number. -/
def isPositive (value : Json) : Except String Bool :=
  match number value with
  | some value => .ok (0 < value)
  | none => .error "TypeError"

/-- The settings which count something or last for some time. -/
def countedKeys : List Key :=
  [.integrityRescanTimeoutSec, .integrityMaxCandidatesPerSourceId,
    .formatProbeMinIntervalSec, .retentionMaxDeletePerRun,
    .retentionDryrunTtlSec, .downloadItemConcurrency, .logRetentionDays]

/-- The settings which are cron expressions. -/
def cronKeys : List Key :=
  [.scheduleDiscoverCron, .scheduleDownloadCron, .scheduleIntegrityCron,
    .ytdlpUpdateCron]

/-- The check of `validate_override` after the cast. -/
def checkOverride (rules : Rules) (key : Key) (casted : Json) :
    Except String Unit :=
  if key = .ytdlpSmoketestUrl then
    match casted with
    | .str text => rules.validateSourceUrl text
    | _ => .error "TypeError"
  else if key ∈ cronKeys then
    match casted with
    | .str text =>
        if key = .ytdlpUpdateCron ∧ isBlank text = true then .ok ()
        else if rules.validCrontab text then .ok ()
        else .error "cron式は5フィールドで正しく指定してください"
    | _ => .error "AttributeError"
  else if key = .scheduleDownloadWindow then
    rules.parseDownloadWindow casted
  else if key = .scheduleJitterMinutes then
    match number casted with
    | some value =>
        if value < 0 then
          .error "schedule.jitter_minutesは0以上にしてください"
        else .ok ()
    | none => .error "TypeError"
  else if key ∈ countedKeys then
    match isPositive casted with
    | .ok true => .ok ()
    | .ok false => .error "秒数・件数の設定は1以上にしてください"
    | .error message => .error message
  else .ok ()

/-- `validate_override` of a known key. -/
def validateOverride (rules : Rules) (key : Key) (value : Value) :
    Except String Json :=
  match cast rules (codeDefaults key).type value with
  | .error message => .error message
  | .ok casted => (checkOverride rules key casted).map fun _ => casted

/-- A row of `setting` is written. -/
def write (overrides : Overrides) (key : Key) (value : Json) : Overrides :=
  Function.update overrides key (some value)

/-- `set_override`. -/
def setOverride (rules : Rules) (overrides : Overrides) (key : Key)
    (value : Value) : Except String Overrides :=
  (validateOverride rules key value).map (write overrides key)

/-- `unset_override`. -/
def unsetOverride (overrides : Overrides) (key : Key) : Overrides :=
  Function.update overrides key none

end Sluicery.Core.Settings
