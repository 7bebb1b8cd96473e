import Sluicery.Core.Settings
import Sluicery.Db.Models
import Sluicery.Library.Floats
import Sluicery.Library.Keyed

/-!
# The jobs of the scheduler

`SchedulerService.reconcile` brings the jobs of the job store in line with the
settings and the runnable playlists.  What cron expressions mean, the random
offsets and the arithmetic of moments are parameters.
-/

namespace Sluicery.Scheduler

open Sluicery.Library Sluicery.Db

universe u

/-! ## Triggers -/

/-- `SymmetricCronTrigger`, with the name of its time zone. -/
structure SymmetricCronTrigger (Offset : Type) where
  expression : String
  timezone : String
  jitterSeconds : Int
  offsetSeconds : Offset
  algorithmVersion : Int := 2
deriving DecidableEq, Repr

/-- The pickled state of a trigger; older versions have fewer entries. -/
structure TriggerState (Offset : Type) where
  timezone : String
  /-- The `jitter` of `CronTrigger`. -/
  jitter : Option Int := none
  sluiceryExpression : String
  sluiceryJitterSeconds : Option Int := none
  sluiceryOffsetSeconds : Option Offset := none
  sluiceryAlgorithmVersion : Option Int := none
deriving DecidableEq, Repr

/-- A trigger of a stored job. -/
inductive Trigger (Offset : Type) where
  | symmetric (state : TriggerState Offset)
  /-- Any other class, by its representation. -/
  | other (text : String)
deriving DecidableEq, Repr

/-! ## Jobs -/

inductive Kind where
  | discover
  | download
deriving DecidableEq, Repr

def Kind.text : Kind → String
  | .discover => "discover"
  | .download => "download"

/-- The function of a job. -/
inductive JobFunction where
  | dispatchScheduledJob
  | reconcileActiveScheduler
  | dispatchIntegrityJob
  | dispatchYtdlpUpdateJob
  | other (reference : String)
deriving DecidableEq, Repr

/-- An argument of a job. -/
inductive Argument where
  | int (value : Int)
  | str (value : String)
  | other (text : String)
deriving DecidableEq, Repr

structure Job (Offset : Type) where
  id : String
  func : JobFunction
  trigger : Trigger Offset
  args : List Argument := []
  coalesce : Bool := true
  maxInstances : Int := 1
  misfireGraceTime : Option Int
  nextRunTime : Option Time := none
deriving DecidableEq, Repr

/-- The jobs of the store, which have different ids. -/
structure JobStore (Offset : Type) where
  jobs : List (Job Offset)
  distinct : (jobs.map Job.id).Nodup

/-- What is done to the store. -/
inductive Change where
  /-- A job is added, or replaces the one with its id. -/
  | put (id : String)
  | remove (id : String)
deriving DecidableEq, Repr

def Change.id : Change → String
  | .put id => id
  | .remove id => id

/-- The store, how many offsets have been drawn, and what has been done. -/
structure State (Offset : Type) where
  store : JobStore Offset
  drawn : Nat := 0
  changes : List Change := []

inductive Failure where
  | valueError
  | overflowError
  | jobLookupError
deriving DecidableEq, Repr

/-! ## Ids -/

/-- `_JOB_PREFIX`. -/
def jobPrefix : String := "sluicery:playlist:"

/-- `_INTEGRITY_JOB_ID`. -/
def integrityJobId : String := "sluicery:maintenance:integrity"

/-- `_YTDLP_UPDATE_JOB_ID`. -/
def ytdlpUpdateJobId : String := "sluicery:maintenance:ytdlp-update"

/-- `_MISFIRE_GRACE_SEC`. -/
def misfireGraceSec : Int := 24 * 60 * 60

/-- `playlist_job_id`. -/
def playlistJobId (playlistId : Nat) (kind : Kind) : String :=
  jobPrefix ++ Nat.repr playlistId ++ ":" ++ kind.text

/-- `str.startswith(_JOB_PREFIX)`. -/
def hasJobPrefix (id : String) : Bool :=
  jobPrefix.toList.isPrefixOf id.toList

/-! ## Configuration -/

/-- The columns of `playlist` which the scheduler reads. -/
structure PlaylistRow where
  enabled : Bool := true
  paused : Bool := false
  discoverCron : Option String := none
  downloadCron : Option String := none
deriving DecidableEq, Repr

/-- The settings which `reconcile` reads, and the playlists. -/
structure Configuration where
  scheduleJitterMinutes : Int := 5
  scheduleDiscoverCron : String := "0 */6 * * *"
  scheduleDownloadCron : String := "0 */6 * * *"
  scheduleIntegrityCron : String := "0 3 * * *"
  ytdlpUpdateCron : String := "0 4 * * 0"
  playlist : Table PlaylistRow := .empty

/-- `list_runnable`. -/
def Configuration.listRunnable (configuration : Configuration) :
    List (Nat × PlaylistRow) :=
  configuration.playlist.select fun _ playlist =>
    playlist.enabled && !playlist.paused

/-- `cron_defaults`. -/
def Configuration.cronDefault (configuration : Configuration) :
    Kind → String
  | .discover => configuration.scheduleDiscoverCron
  | .download => configuration.scheduleDownloadCron

/-- The cron expression of a playlist, or the default. -/
def Configuration.expression (configuration : Configuration)
    (playlist : PlaylistRow) (kind : Kind) : String :=
  let override :=
    match kind with
    | .discover => playlist.discoverCron
    | .download => playlist.downloadCron
  (override.filter (· != "")).getD (configuration.cronDefault kind)

/-- Cron expressions, random offsets and moments. -/
structure Environment (Offset : Type) where
  /-- The name of the time zone of the service. -/
  timezone : String
  /-- `CronTrigger.from_crontab` raises no `ValueError`. -/
  validCrontab : String → Bool
  /-- The offsets of `random.uniform` between a bound and its negative, in the
  order of the calls. -/
  uniform : Nat → Int → Offset
  /-- `0.0`. -/
  zero : Offset
  /-- A moment, an offset later; `none` for an `OverflowError`. -/
  later : Time → Offset → Option Time
  /-- A moment, an offset earlier. -/
  earlier : Time → Offset → Option Time
  /-- `CronTrigger.get_next_fire_time` of an expression in a time zone. -/
  cronFireTime : String → String → Option Time → Time → Option Time

section Service

variable {Offset : Type} (environment : Environment Offset)

/-! ## `SymmetricCronTrigger` -/

/-- `__getstate__`; the jitter of `CronTrigger` is not used. -/
def SymmetricCronTrigger.getState (trigger : SymmetricCronTrigger Offset) :
    TriggerState Offset where
  timezone := trigger.timezone
  sluiceryExpression := trigger.expression
  sluiceryJitterSeconds := some trigger.jitterSeconds
  sluiceryOffsetSeconds := some trigger.offsetSeconds
  sluiceryAlgorithmVersion := some trigger.algorithmVersion

/-- `__setstate__`. -/
def TriggerState.setState (state : TriggerState Offset) :
    SymmetricCronTrigger Offset where
  expression := state.sluiceryExpression
  timezone := state.timezone
  jitterSeconds := state.sluiceryJitterSeconds.getD (state.jitter.getD 0)
  offsetSeconds := state.sluiceryOffsetSeconds.getD environment.zero
  algorithmVersion := state.sluiceryAlgorithmVersion.getD 1

/-- A trigger is read as it was written. -/
@[simp]
theorem setState_getState (trigger : SymmetricCronTrigger Offset) :
    trigger.getState.setState environment = trigger := rfl

/-- `from_expression`. -/
def fromExpression (expression : String) (jitterMinutes : Int) :
    EStateM Failure (State Offset) (SymmetricCronTrigger Offset) := do
  if !environment.validCrontab expression then throw .valueError
  let jitterSeconds := jitterMinutes * 60
  let offsetSeconds ←
    if jitterSeconds = 0 then pure environment.zero
    else
      -- The width of the interval is made a float.
      match Double.ofInt (2 * jitterSeconds) with
      | .error _ => throw .overflowError
      | .ok _ => do
          let drawn := (← get).drawn
          modify fun state => { state with drawn := drawn + 1 }
          pure (environment.uniform drawn jitterSeconds)
  pure
    { expression, timezone := environment.timezone, jitterSeconds,
      offsetSeconds }

/-- `get_next_fire_time`; `none` for an `OverflowError`. -/
def SymmetricCronTrigger.getNextFireTime
    (trigger : SymmetricCronTrigger Offset)
    (previousFireTime : Option Time) (now : Time) :
    Option (Option Time) := do
  let offset := trigger.offsetSeconds
  let basePrevious ← previousFireTime.mapM fun previous =>
    environment.earlier previous offset
  let baseNow ← environment.earlier now offset
  match environment.cronFireTime trigger.expression trigger.timezone
      basePrevious baseNow with
  | none => pure none
  | some baseFireTime => some <$> environment.later baseFireTime offset

/-! ## The job store -/

/-- `get_job`. -/
def JobStore.getJob (store : JobStore Offset) (id : String) :
    Option (Job Offset) :=
  store.jobs.find? fun job => job.id == id

/-- A job is added, or replaces the one with its id. -/
def JobStore.put (store : JobStore Offset) (job : Job Offset) :
    JobStore Offset where
  jobs := Keyed.put Job.id store.jobs job
  distinct := Keyed.nodup_put Job.id store.distinct job

def JobStore.remove (store : JobStore Offset) (id : String) :
    JobStore Offset where
  jobs := store.jobs.filter fun job => job.id != id
  distinct := store.distinct.sublist (List.filter_sublist.map Job.id)

/-- `add_job` with `replace_existing`, while the scheduler is running. -/
def addJob (now : Time) (id : String) (func : JobFunction)
    (trigger : SymmetricCronTrigger Offset) (args : List Argument) :
    EStateM Failure (State Offset) PUnit :=
  match trigger.getNextFireTime environment none now with
  | none => throw .overflowError
  | some nextRunTime =>
      modify fun state =>
        { state with
          store := state.store.put
            { id, func, args, nextRunTime
              trigger := .symmetric trigger.getState
              misfireGraceTime := some misfireGraceSec }
          changes := state.changes ++ [.put id] }

/-- `remove_job`. -/
def removeJob (id : String) : EStateM Failure (State Offset) PUnit := do
  if ((← get).store.getJob id).isNone then throw .jobLookupError
  modify fun state =>
    { state with
      store := state.store.remove id
      changes := state.changes ++ [.remove id] }

/-- `_managed_jobs`. -/
def JobStore.managedJobs (store : JobStore Offset) : List (Job Offset) :=
  store.jobs.filter fun job => hasJobPrefix job.id

/-! ## Which jobs match -/

/-- A job has the schedule of a trigger, and these arguments. -/
def matchesTrigger (job : Option (Job Offset))
    (trigger : SymmetricCronTrigger Offset) (args : List Argument) : Bool :=
  match job with
  | none => false
  | some job =>
      match job.trigger with
      | .other _ => false
      | .symmetric state =>
          let existingTrigger := state.setState environment
          existingTrigger.algorithmVersion == trigger.algorithmVersion &&
            existingTrigger.expression == trigger.expression &&
            existingTrigger.timezone == trigger.timezone &&
            existingTrigger.jitterSeconds == trigger.jitterSeconds &&
            job.args == args && job.coalesce && job.maxInstances == 1 &&
            job.misfireGraceTime == some misfireGraceSec

/-- The arguments of the job of a playlist. -/
def playlistArgs (playlistId : Nat) (kind : Kind) : List Argument :=
  [.int playlistId, .str kind.text]

/-- `_job_matches`. -/
def jobMatches (job : Option (Job Offset))
    (trigger : SymmetricCronTrigger Offset) (playlistId : Nat) (kind : Kind) :
    Bool :=
  matchesTrigger environment job trigger (playlistArgs playlistId kind)

/-- `_integrity_job_matches`. -/
def integrityJobMatches (job : Option (Job Offset))
    (trigger : SymmetricCronTrigger Offset) : Bool :=
  matchesTrigger environment job trigger []

/-- `_maintenance_job_matches`. -/
def maintenanceJobMatches (job : Option (Job Offset))
    (trigger : SymmetricCronTrigger Offset) : Bool :=
  matchesTrigger environment job trigger []

/-! ## `reconcile` -/

/--
A trigger is made, and a job which does not match it is replaced; whether the
expression is valid.
-/
def register (now : Time) (jitter : Int) (expression id : String)
    (func : JobFunction) (args : List Argument)
    (isMatching : Option (Job Offset) → SymmetricCronTrigger Offset → Bool) :
    EStateM Failure (State Offset) Bool := do
  let trigger ← tryCatch
    (some <$> fromExpression environment expression jitter)
    fun failure =>
      match failure with
      | .valueError => pure none
      | _ => throw failure
  match trigger with
  | none => pure false
  | some trigger => do
      let existing := (← get).store.getJob id
      if !isMatching existing trigger then
        addJob environment now id func trigger args
      pure true

/-- A job is removed, if there is one. -/
def discard (id : String) : EStateM Failure (State Offset) PUnit := do
  if ((← get).store.getJob id).isSome then removeJob id

/-- The jobs of the playlists; the ids of those which are `desired`. -/
def reconcilePlaylists (now : Time) (configuration : Configuration) :
    List ((Nat × PlaylistRow) × Kind) → List String →
      EStateM Failure (State Offset) (List String)
  | [], desired => pure desired
  | ((playlistId, playlist), kind) :: rest, desired => do
      let id := playlistJobId playlistId kind
      let registered ← register environment now
        configuration.scheduleJitterMinutes
        (configuration.expression playlist kind) id .dispatchScheduledJob
        (playlistArgs playlistId kind)
        fun existing trigger =>
          jobMatches environment existing trigger playlistId kind
      reconcilePlaylists now configuration rest
        (if registered then desired ++ [id] else desired)

/-- The jobs which are not `desired` are removed. -/
def removeOthers (desired : List String) :
    List (Job Offset) → EStateM Failure (State Offset) PUnit
  | [] => pure ⟨⟩
  | job :: rest => do
      if job.id ∉ desired then removeJob job.id
      removeOthers desired rest

/-- The playlists, each with both kinds. -/
def Configuration.playlistKinds (configuration : Configuration) :
    List ((Nat × PlaylistRow) × Kind) :=
  configuration.listRunnable.flatMap fun entry =>
    [(entry, .discover), (entry, .download)]

/-- A maintenance job is registered, or removed if it cannot be. -/
def reconcileMaintenance (now : Time) (jitter : Int) (expression id : String)
    (func : JobFunction)
    (isMatching : Option (Job Offset) → SymmetricCronTrigger Offset → Bool) :
    EStateM Failure (State Offset) PUnit := do
  let registered ← register environment now jitter expression id func []
    isMatching
  if !registered then discard id

/-- `reconcile`, once the scheduler has started. -/
def reconcile (now : Time) (configuration : Configuration) :
    EStateM Failure (State Offset) PUnit := do
  let jitter := configuration.scheduleJitterMinutes
  if jitter < 0 then throw .valueError
  let desired ← reconcilePlaylists environment now configuration
    configuration.playlistKinds []
  removeOthers desired (← get).store.managedJobs
  reconcileMaintenance environment now jitter
    configuration.scheduleIntegrityCron integrityJobId .dispatchIntegrityJob
    (integrityJobMatches environment)
  if Core.Settings.isBlank configuration.ytdlpUpdateCron then
    discard ytdlpUpdateJobId
  else
    reconcileMaintenance environment now jitter configuration.ytdlpUpdateCron
      ytdlpUpdateJobId .dispatchYtdlpUpdateJob
      (maintenanceJobMatches environment)

end Service

end Sluicery.Scheduler
