import Mathlib
import Sluicery.Library.Transition
import Sluicery.Storage.Adapter
import Sluicery.Tasks.Handlers

/-!
# The files which pipelines publish

`PublishHandler.run` between its advance and its result, on the files of all
storages, for any number of pipelines whose executions interleave, fail and
crash anywhere, and the deletion of the staging file by `IndexHandler.run`.
A pipeline is seen from the end of its postprocess task on: its staged file
does not change any more.

Nothing else writes to the storages.  So files are only added, each as the
staged file of a pipeline, and what an index step finds at the recorded path
is what the publish found or put there.
-/

namespace Sluicery.Tasks.PublishedFiles

open Sluicery.Library Sluicery.Library.Transition
open Sluicery.Storage Sluicery.Tasks.Handlers

/-! ## State -/

/-- A pipeline whose file is staged, with the payload of its publish task. -/
structure Pipeline (File : Type) where
  /-- `resolved.relative_to(work_root)`. -/
  relativePath : String
  staged : File
  stagingDeleted : Bool := false
  /-- The payload of the postprocess task. -/
  previous : Json.Dict
  payload : Json.Dict
  publishSucceeded : Bool := false

/-- Where an execution of a publish task stands. -/
inductive Stage where
  | examining
  | linking
  | transferring
  | answered (answer : PublishAnswer)
  /-- `write_result_payload` has committed. -/
  | recorded

/-- An execution of a publish task, with the storage rows it has read. -/
structure Execution where
  pipeline : Nat
  storageId : Nat
  dedupSource : Option Place
  stage : Stage := .examining

/-- The files, and everybody who publishes. -/
structure System (File : Type) where
  files : Files File := fun _ => none
  pipelines : Table (Pipeline File) := .empty
  executions : Table Execution := .empty

variable {File Digest : Type}
variable (size : File → Nat) (sha256 : File → Digest)

/-! ## The parts of `PublishHandler.run` -/

/-- Where the file of an execution goes. -/
def Pipeline.place (pipeline : Pipeline File) (storageId : Nat) : Place :=
  (storageId, pipeline.relativePath)

/-- Up to the answer of `_existing_size`. -/
def examine (files : Files File) (pipeline : Pipeline File)
    (storageId : Nat) : Stage :=
  if (strField pipeline.previous.fields "file_path").isNone then
    .answered (.failed .failed "postprocess結果にfile_pathがありません")
  else
    match files (pipeline.place storageId) with
    | none => .linking
    | some existing =>
        if size existing = size pipeline.staged then
          .answered (.resumed pipeline.relativePath (size existing))
        else
          .answered
            (.failed .failed "同名の保存先ファイルが期待サイズと一致しません")

/-- The hardlink to the file of another Artifact, when `hardlink_from` can. -/
def link [DecidableEq Digest] (files : Files File)
    (pipeline : Pipeline File) (storageId : Nat)
    (dedupSource : Option Place) (canLink : Bool) : Stage × Files File :=
  match dedupSource.bind files with
  | none => (.transferring, files)
  | some existing =>
      if size existing = size pipeline.staged ∧
          sha256 existing = sha256 pipeline.staged ∧ canLink then
        match publish files (pipeline.place storageId) existing with
        | none => (.transferring, files)
        | some linked =>
            (.answered
              (.hardlinked pipeline.relativePath (size pipeline.staged)),
              linked)
      else (.transferring, files)

/-- What `adapter.publish` and the check of its result came to. -/
inductive Transfer where
  | published
  /-- A failure, which the final name may have appeared before. -/
  | failed (classification : Handlers.StorageClassification) (message : String)
      (placed : Bool)

/-- The transfer; the final name appears at once, for the complete file. -/
def transfer (files : Files File) (pipeline : Pipeline File)
    (storageId : Nat) : Transfer → Option (Stage × Files File)
  | .published =>
      (publish files (pipeline.place storageId) pipeline.staged).map
        fun published =>
          (.answered
            (.published pipeline.relativePath (size pipeline.staged)),
            published)
  | .failed classification message true =>
      (publish files (pipeline.place storageId) pipeline.staged).map
        fun published => (.answered (.failed classification message), published)
  | .failed classification message false =>
      some (.answered (.failed classification message), files)

/-- Whether the run ended with `TaskOutcome.SUCCEEDED`. -/
def succeeds : PublishAnswer → Bool
  | .failed .. => false
  | _ => true

/-- The payload which `write_result_payload` stores. -/
def resultPayload (pipeline : Pipeline File) (storageId : Nat)
    (answer : PublishAnswer) : Json.Dict :=
  pipeline.payload.update
    (pipeline.previous.update (answer.fields storageId)).fields

/-- The staging file is deleted when the publish result is complete. -/
def index (pipeline : Pipeline File) : Pipeline File :=
  match intField pipeline.payload.fields "storage_id",
      strField pipeline.payload.fields "relative_path",
      strField pipeline.payload.fields "file_path" with
  | some _, some _, some _ => { pipeline with stagingDeleted := true }
  | _, _, _ => pipeline

/-! ## Steps -/

/-- What can happen to pipelines and to executions of their publish tasks. -/
inductive Event (File : Type) where
  | stage (relativePath : String) (staged : File)
      (previous payload : Json.Dict)
  | start (pipeline storageId : Nat) (dedupSource : Option Place)
  | examine (execution : Nat)
  | link (execution : Nat) (canLink : Bool)
  | transfer (execution : Nat) (outcome : Transfer)
  /-- A storage operation fails, the capacity is short, or the run raises. -/
  | fail (execution : Nat) (classification : Handlers.StorageClassification)
      (message : String)
  | writeResult (execution : Nat)
  | succeed (execution : Nat)
  /-- The worker stops, or its result is not accepted any more. -/
  | crash (execution : Nat)
  | index (pipeline : Nat)

namespace System

/-- An execution with the pipeline it is about. -/
def executing (system : System File) (key : Nat) :
    Option (Execution × Pipeline File) := do
  let execution ← system.executions.get key
  let pipeline ← system.pipelines.get execution.pipeline
  return (execution, pipeline)

/-- An execution goes on. -/
def setStage (system : System File) (key : Nat) (stage : Stage) :
    System File :=
  { system with
    executions := system.executions.modify key fun execution =>
      { execution with stage } }

end System

/-- One step of an execution, or of a pipeline. -/
def step [DecidableEq Digest] (system : System File) :
    Event File → Option (System File)
  | .stage relativePath staged previous payload =>
      some { system with
        pipelines := system.pipelines.insert
          { relativePath, staged, previous, payload } }
  | .start pipeline storageId dedupSource =>
      match system.pipelines.get pipeline with
      | some { publishSucceeded := false, .. } =>
          some { system with
            executions := system.executions.insert
              { pipeline, storageId, dedupSource } }
      | _ => none
  | .examine key =>
      match system.executing key with
      | some ({ stage := .examining, storageId, .. }, pipeline) =>
          -- `source.resolve(strict=True)`; its failure is a `fail`.
          if pipeline.stagingDeleted then none
          else
            some (system.setStage key
              (examine size system.files pipeline storageId))
      | _ => none
  | .link key canLink =>
      match system.executing key with
      | some ({ stage := .linking, storageId, dedupSource, .. }, pipeline) =>
          let linked := link size sha256 system.files pipeline storageId
            dedupSource canLink
          some ({ system with files := linked.2 }.setStage key linked.1)
      | _ => none
  | .transfer key outcome =>
      match system.executing key with
      | some ({ stage := .transferring, storageId, .. }, pipeline) =>
          if pipeline.stagingDeleted then none
          else
            (transfer size system.files pipeline storageId outcome).map
              fun moved =>
                { system with files := moved.2 }.setStage key moved.1
      | _ => none
  | .fail key classification message =>
      match system.executing key with
      | some ({ stage := .answered _, .. }, _)
      | some ({ stage := .recorded, .. }, _)
      | none => none
      | some _ =>
          some (system.setStage key
            (.answered (.failed classification message)))
  | .writeResult key =>
      match system.executing key with
      | some ({ stage := .answered answer, storageId, pipeline := owner, .. },
          pipeline) =>
          if succeeds answer && !pipeline.publishSucceeded then
            some ({ system with
              pipelines := system.pipelines.modify owner fun pipeline =>
                { pipeline with
                  payload := resultPayload pipeline storageId answer }
              }.setStage key .recorded)
          else none
      | _ => none
  | .succeed key =>
      match system.executing key with
      | some ({ stage := .recorded, pipeline := owner, .. }, _) =>
          some { system with
            pipelines := system.pipelines.modify owner fun pipeline =>
              { pipeline with publishSucceeded := true }
            executions := system.executions.erase key }
      | _ => none
  | .crash key => some { system with executions := system.executions.erase key }
  | .index key =>
      match system.pipelines.get key with
      | some { publishSucceeded := true, .. } =>
          some { system with pipelines := system.pipelines.modify key index }
      | _ => none

/-! ## What an execution has found or put at its destination -/

/--
The destination has a file of the staged size; unless the publish was
resumed, also with the staged digest.
-/
def Found (files : Files File) (pipeline : Pipeline File) (storageId : Nat)
    (resumed : Bool) : Prop :=
  ∃ file, files (pipeline.place storageId) = some file ∧
    size file = size pipeline.staged ∧
    (resumed = false → sha256 file = sha256 pipeline.staged)

/-- A successful answer names the destination and is right about it. -/
def Answered (files : Files File) (pipeline : Pipeline File)
    (storageId : Nat) : PublishAnswer → Prop
  | .failed .. => True
  | .resumed destination _ =>
      destination = pipeline.relativePath ∧
        Found size sha256 files pipeline storageId true
  | .hardlinked destination _ | .published destination _ =>
      destination = pipeline.relativePath ∧
        Found size sha256 files pipeline storageId false

/-- The payload records a destination, and what was found there. -/
def Recorded (files : Files File) (pipeline : Pipeline File) : Prop :=
  ∃ (storageId : Nat) (resumed : Bool),
    intField pipeline.payload.fields "storage_id" = some (storageId : Int) ∧
    strField pipeline.payload.fields "relative_path" =
      some pipeline.relativePath ∧
    Json.lookup pipeline.payload.fields "publish_resumed" =
      some (.bool resumed) ∧
    Found size sha256 files pipeline storageId resumed

/-- What holds while an execution stands at a stage. -/
def StageHolds (files : Files File) (pipeline : Pipeline File)
    (storageId : Nat) : Stage → Prop
  | .answered answer =>
      Answered size sha256 files pipeline storageId answer
  | .recorded => Recorded size sha256 files pipeline
  | _ => True

/-- A file is the staged file of a pipeline; one for this path matches it. -/
structure Origin (pipelines : Table (Pipeline File)) (path : String)
    (file : File) : Prop where
  staged : ∃ key pipeline, pipelines.get key = some pipeline ∧
    file = pipeline.staged
  path : ∃ key pipeline, pipelines.get key = some pipeline ∧
    pipeline.relativePath = path ∧ sha256 file = sha256 pipeline.staged

/-- The invariant. -/
structure Sound (system : System File) : Prop where
  origin {place : Place} {file : File}
    (found : system.files place = some file) :
    Origin sha256 system.pipelines place.2 file
  executing {key : Nat} {execution : Execution}
    (found : system.executions.get key = some execution) :
    ∃ pipeline, system.pipelines.get execution.pipeline = some pipeline ∧
      StageHolds size sha256 system.files pipeline execution.storageId
        execution.stage
  settled {key : Nat} {pipeline : Pipeline File}
    (found : system.pipelines.get key = some pipeline)
    (isSettled : pipeline.publishSucceeded = true ∨
      pipeline.stagingDeleted = true) :
    Recorded size sha256 system.files pipeline

/-- No file is lost or replaced. -/
def Grows (before after : Files File) : Prop :=
  ∀ place file, before place = some file → after place = some file

variable {size sha256}

theorem Found.mono
    {before after : Files File} {pipeline : Pipeline File}
    {storageId : Nat} {resumed : Bool}
    (grows : Grows before after)
    (found : Found size sha256 before pipeline storageId resumed) :
    Found size sha256 after pipeline storageId resumed := by
  rcases found with ⟨file, isFile, rest⟩
  exact ⟨file, grows _ _ isFile, rest⟩

theorem Recorded.mono
    {before after : Files File} {pipeline : Pipeline File}
    (grows : Grows before after)
    (recorded : Recorded size sha256 before pipeline) :
    Recorded size sha256 after pipeline := by
  rcases recorded with ⟨storageId, resumed, storage, path, flag, found⟩
  exact ⟨storageId, resumed, storage, path, flag, found.mono grows⟩

theorem StageHolds.mono
    {before after : Files File} {pipeline : Pipeline File}
    {storageId : Nat} {stage : Stage}
    (grows : Grows before after)
    (holds : StageHolds size sha256 before pipeline storageId stage) :
    StageHolds size sha256 after pipeline storageId stage := by
  cases stage with
  | examining | linking | transferring => trivial
  | recorded => exact Recorded.mono grows holds
  | answered answer =>
      cases answer with
      | failed => trivial
      | resumed | hardlinked | published =>
          exact ⟨holds.1, holds.2.mono grows⟩

/-! ## The payload of a successful publish -/

theorem lookup_resultPayload
    (pipeline : Pipeline File) (storageId : Nat) (answer : PublishAnswer)
    {key : String} {value : Json}
    (found : Json.lookup (answer.fields storageId) key = some value) :
    Json.lookup (resultPayload pipeline storageId answer).fields key =
      some value := by
  apply Json.Dict.lookup_update_of_some _ (Json.Dict.distinct _)
  apply Json.Dict.lookup_update_of_some _ (answer.distinct_fields storageId)
  exact found

theorem recorded_of_answered
    {files : Files File} {pipeline : Pipeline File} {storageId : Nat}
    {answer : PublishAnswer}
    (isSuccess : succeeds answer = true)
    (answered : Answered size sha256 files pipeline storageId answer) :
    Recorded size sha256 files
      { pipeline with
        payload := resultPayload pipeline storageId answer } := by
  have looks := fun key value =>
    @lookup_resultPayload File pipeline storageId answer key value
  cases answer with
  | failed => cases isSuccess
  | resumed destination bytes =>
      rcases answered with ⟨rfl, found⟩
      refine ⟨storageId, true, ?_, ?_, looks _ _ rfl, found⟩
      · rw [intField, looks _ _ rfl]
        rfl
      · rw [strField, looks _ _ rfl]
        rfl
  | hardlinked destination bytes | published destination bytes =>
      rcases answered with ⟨rfl, found⟩
      refine ⟨storageId, false, ?_, ?_, looks _ _ rfl, found⟩
      · rw [intField, looks _ _ rfl]
        rfl
      · rw [strField, looks _ _ rfl]
        rfl

/-! ## What the parts of a run answer -/

theorem examine_holds
    (files : Files File) (pipeline : Pipeline File) (storageId : Nat) :
    StageHolds size sha256 files pipeline storageId
      (examine size files pipeline storageId) := by
  rw [examine]
  split
  · trivial
  · split
    · trivial
    · next existing found =>
        split
        · next sameSize =>
            exact ⟨rfl, existing, found, sameSize, fun impossible =>
              nomatch impossible⟩
        · trivial

/-- A hardlink adds a file with the staged size and digest, or does nothing. -/
theorem link_cases [DecidableEq Digest]
    (files : Files File) (pipeline : Pipeline File) (storageId : Nat)
    (dedupSource : Option Place) (canLink : Bool) :
    link size sha256 files pipeline storageId dedupSource canLink =
        (.transferring, files) ∨
      ∃ source existing linked, files source = some existing ∧
        size existing = size pipeline.staged ∧
        sha256 existing = sha256 pipeline.staged ∧
        publish files (pipeline.place storageId) existing = some linked ∧
        link size sha256 files pipeline storageId dedupSource canLink =
          (.answered
            (.hardlinked pipeline.relativePath (size pipeline.staged)),
            linked) := by
  rw [link]
  split
  · exact Or.inl rfl
  · next existing found =>
      rcases Option.bind_eq_some_iff.mp found with ⟨source, -, isFile⟩
      split
      · next same =>
          split
          · exact Or.inl rfl
          · next linked isLinked =>
              exact Or.inr ⟨source, existing, linked, isFile, same.1,
                same.2.1, isLinked, rfl⟩
      · exact Or.inl rfl

/-- A transfer adds the staged file, or fails and adds nothing. -/
theorem transfer_cases
    {files after : Files File} {pipeline : Pipeline File} {storageId : Nat}
    {outcome : Transfer} {stage : Stage}
    (moved : transfer size files pipeline storageId outcome =
      some (stage, after)) :
    (publish files (pipeline.place storageId) pipeline.staged = some after ∧
        stage = .answered
          (.published pipeline.relativePath (size pipeline.staged))) ∨
      ∃ classification message,
        stage = .answered (.failed classification message) ∧
        (after = files ∨
          publish files (pipeline.place storageId) pipeline.staged =
            some after) := by
  cases outcome with
  | published =>
      rcases Option.map_eq_some_iff.mp moved with ⟨published, isPublished, same⟩
      cases same
      exact Or.inl ⟨isPublished, rfl⟩
  | failed classification message placed =>
      cases placed with
      | false =>
          cases moved
          exact Or.inr ⟨_, _, rfl, Or.inl rfl⟩
      | true =>
          rcases Option.map_eq_some_iff.mp moved with
            ⟨published, isPublished, same⟩
          cases same
          exact Or.inr ⟨_, _, rfl, Or.inr isPublished⟩

theorem grows_publish
    {files after : Files File} {place : Place} {file : File}
    (published : publish files place file = some after) :
    Grows files after :=
  fun _ _ found => publish_keeps published found

theorem found_publish
    {files after : Files File} {pipeline : Pipeline File} {storageId : Nat}
    {file : File}
    (published : publish files (pipeline.place storageId) file = some after)
    (sameSize : size file = size pipeline.staged)
    (sameDigest : sha256 file = sha256 pipeline.staged) :
    Found size sha256 after pipeline storageId false := by
  rcases (publish_eq_some_iff _ _ _ _).mp published with ⟨-, rfl⟩
  exact ⟨file, Function.update_self _ _ _, sameSize, fun _ => sameDigest⟩

/-! ## What a step preserves -/

theorem System.executing_eq_some_iff
    (system : System File) (key : Nat) (execution : Execution)
    (pipeline : Pipeline File) :
    system.executing key = some (execution, pipeline) ↔
      system.executions.get key = some execution ∧
        system.pipelines.get execution.pipeline = some pipeline := by
  simp only [System.executing, Option.bind_eq_bind, Option.bind_eq_some_iff,
    Option.pure_def, Option.some.injEq, Prod.mk.injEq]
  constructor
  · rintro ⟨_, found, _, foundPipeline, rfl, rfl⟩
    exact ⟨found, foundPipeline⟩
  · rintro ⟨found, foundPipeline⟩
    exact ⟨execution, found, pipeline, foundPipeline, rfl, rfl⟩

theorem Sound.holds
    {system : System File} {key : Nat} {execution : Execution}
    {pipeline : Pipeline File}
    (sound : Sound size sha256 system)
    (isExecuting : system.executing key = some (execution, pipeline)) :
    StageHolds size sha256 system.files pipeline execution.storageId
      execution.stage := by
  rw [System.executing_eq_some_iff] at isExecuting
  rcases sound.executing isExecuting.1 with ⟨other, found, holds⟩
  rw [isExecuting.2, Option.some.injEq] at found
  exact found ▸ holds

theorem Sound.setStage
    {system : System File} {key : Nat} {execution : Execution}
    {pipeline : Pipeline File} {stage : Stage}
    (sound : Sound size sha256 system)
    (isExecuting : system.executing key = some (execution, pipeline))
    (holds : StageHolds size sha256 system.files pipeline
      execution.storageId stage) :
    Sound size sha256 (system.setStage key stage) where
  origin := sound.origin
  executing {other moved} found := by
    rw [System.executing_eq_some_iff] at isExecuting
    rw [System.setStage, Table.get_modify] at found
    split at found
    · next same =>
        subst same
        rw [isExecuting.1, Option.map_some, Option.some.injEq] at found
        subst found
        exact ⟨pipeline, isExecuting.2, holds⟩
    · exact sound.executing found
  settled := sound.settled

theorem Sound.erase
    {system : System File} (sound : Sound size sha256 system) (key : Nat) :
    Sound size sha256
      { system with executions := system.executions.erase key } where
  origin := sound.origin
  executing found := by
    rw [Table.get_erase] at found
    split at found
    · cases found
    · exact sound.executing found
  settled := sound.settled

/-- The files of a pipeline are added to the storages. -/
theorem Sound.publish
    {system : System File} {after : Files File} {storageId : Nat}
    {key : Nat} {pipeline : Pipeline File} {file : File}
    (sound : Sound size sha256 system)
    (foundPipeline : system.pipelines.get key = some pipeline)
    (isStaged : ∃ key pipeline, system.pipelines.get key = some pipeline ∧
      file = pipeline.staged)
    (sameDigest : sha256 file = sha256 pipeline.staged)
    (published : Storage.publish system.files (pipeline.place storageId)
      file = some after) :
    Sound size sha256 { system with files := after } where
  origin {place found} foundAfter := by
    rcases publish_origin published foundAfter with ⟨rfl, rfl⟩ | before
    · exact ⟨isStaged, key, pipeline, foundPipeline, rfl, sameDigest⟩
    · exact sound.origin before
  executing found := by
    rcases sound.executing found with ⟨owner, foundOwner, holds⟩
    exact ⟨owner, foundOwner, holds.mono (grows_publish published)⟩
  settled found isSettled :=
    (sound.settled found isSettled).mono (grows_publish published)

/-- A pipeline changes, but not its file and its path. -/
theorem Sound.modify
    {system : System File} {key : Nat} {change : Pipeline File → Pipeline File}
    (sound : Sound size sha256 system)
    (sameFile : ∀ pipeline, (change pipeline).staged = pipeline.staged ∧
      (change pipeline).relativePath = pipeline.relativePath)
    (recorded : ∀ pipeline, system.pipelines.get key = some pipeline →
      (Recorded size sha256 system.files pipeline →
        Recorded size sha256 system.files (change pipeline)) ∧
      ((change pipeline).publishSucceeded = true ∨
          (change pipeline).stagingDeleted = true →
        Recorded size sha256 system.files (change pipeline))) :
    Sound size sha256
      { system with pipelines := system.pipelines.modify key change } := by
  have kept : ∀ {other : Nat} {pipeline : Pipeline File},
      system.pipelines.get other = some pipeline →
      ∃ changed, (system.pipelines.modify key change).get other =
          some changed ∧
        changed.staged = pipeline.staged ∧
        changed.relativePath = pipeline.relativePath ∧
        (Recorded size sha256 system.files pipeline →
          Recorded size sha256 system.files changed) := by
    intro other pipeline found
    rw [Table.get_modify, found]
    split
    · next same =>
        exact ⟨_, rfl, (sameFile pipeline).1, (sameFile pipeline).2,
          (recorded pipeline (same ▸ found)).1⟩
    · exact ⟨_, rfl, rfl, rfl, id⟩
  constructor
  · intro place file found
    rcases sound.origin found with
      ⟨⟨stager, staged, foundStager, rfl⟩, owner, pipeline, foundOwner,
        path, digest⟩
    constructor
    · rcases kept foundStager with ⟨changed, foundChanged, same, -⟩
      exact ⟨stager, changed, foundChanged, same.symm⟩
    · rcases kept foundOwner with ⟨changed, foundChanged, same, samePath, -⟩
      exact ⟨owner, changed, foundChanged, samePath.trans path, same ▸ digest⟩
  · intro other execution found
    rcases sound.executing found with ⟨pipeline, foundPipeline, holds⟩
    rcases kept foundPipeline with
      ⟨changed, foundChanged, same, samePath, keepsRecord⟩
    refine ⟨changed, foundChanged, ?_⟩
    have sameFound : ∀ resumed,
        Found size sha256 system.files pipeline execution.storageId resumed →
        Found size sha256 system.files changed execution.storageId
          resumed := by
      rintro resumed ⟨file, isFile, rest⟩
      rw [Pipeline.place, ← samePath] at isFile
      exact ⟨file, isFile, same ▸ rest⟩
    cases stage : execution.stage with
    | examining | linking | transferring => trivial
    | recorded =>
        rw [stage] at holds
        exact keepsRecord holds
    | answered answer =>
        rw [stage] at holds
        cases answer with
        | failed => trivial
        | resumed | hardlinked | published =>
            exact ⟨holds.1.trans samePath.symm, sameFound _ holds.2⟩
  · intro other changed found isSettled
    rw [Table.get_modify] at found
    split at found
    · next same =>
        rcases Option.map_eq_some_iff.mp found with ⟨pipeline, before, rfl⟩
        exact (recorded pipeline (same ▸ before)).2 isSettled
    · exact sound.settled found isSettled

theorem Sound.stage
    {system : System File} {pipeline : Pipeline File}
    (sound : Sound size sha256 system)
    (notSettled : ¬ (pipeline.publishSucceeded = true ∨
      pipeline.stagingDeleted = true)) :
    Sound size sha256
      { system with pipelines := system.pipelines.insert pipeline } where
  origin found := by
    rcases sound.origin found with
      ⟨⟨stager, staged, foundStager, isStaged⟩, owner, other, foundOwner,
        path⟩
    exact ⟨⟨stager, staged, Table.get_insert_of_some _ foundStager,
      isStaged⟩, owner, other, Table.get_insert_of_some _ foundOwner, path⟩
  executing found := by
    rcases sound.executing found with ⟨other, foundOther, holds⟩
    exact ⟨other, Table.get_insert_of_some _ foundOther, holds⟩
  settled found isSettled := by
    rw [Table.get_insert] at found
    split at found
    · cases found
      exact absurd isSettled notSettled
    · exact sound.settled found isSettled

theorem index_keeps (pipeline : Pipeline File) :
    (index pipeline).staged = pipeline.staged ∧
      (index pipeline).relativePath = pipeline.relativePath := by
  rw [index]
  split <;> exact ⟨rfl, rfl⟩

theorem recorded_index
    {files : Files File} {pipeline : Pipeline File}
    (recorded : Recorded size sha256 files pipeline) :
    Recorded size sha256 files (index pipeline) := by
  rw [index]
  split <;> exact recorded

theorem sound_step [DecidableEq Digest]
    {system system' : System File} {event : Event File}
    (sound : Sound size sha256 system)
    (taken : step size sha256 system event = some system') :
    Sound size sha256 system' := by
  cases event with
  | stage relativePath staged previous payload =>
      cases taken
      exact sound.stage (by simp)
  | start owner storageId dedupSource =>
      simp only [step] at taken
      split at taken
      · next pipeline found =>
          cases taken
          refine ⟨sound.origin, ?_, sound.settled⟩
          intro other execution foundExecution
          rw [Table.get_insert] at foundExecution
          split at foundExecution
          · cases foundExecution
            exact ⟨_, found, trivial⟩
          · exact sound.executing foundExecution
      · cases taken
  | examine key =>
      simp only [step] at taken
      split at taken
      · next isExecuting =>
          split at taken
          · cases taken
          · cases taken
            exact sound.setStage isExecuting (examine_holds _ _ _)
      · cases taken
  | link key canLink =>
      simp only [step] at taken
      split at taken
      · next owner storageId dedupSource pipeline isExecuting =>
          cases taken
          rcases @link_cases _ _ size sha256 _ system.files pipeline
              storageId dedupSource canLink with
            unchanged | ⟨source, existing, linked, found, sameSize,
              sameDigest, isPublished, changed⟩
          · rw [unchanged]
            exact sound.setStage isExecuting trivial
          · rw [changed]
            have foundPipeline :=
              ((System.executing_eq_some_iff _ _ _ _).mp isExecuting).2
            have published := sound.publish foundPipeline
              (sound.origin found).staged sameDigest isPublished
            exact published.setStage isExecuting
              ⟨rfl, found_publish isPublished sameSize sameDigest⟩
      · cases taken
  | transfer key outcome =>
      simp only [step] at taken
      split at taken
      · next owner storageId dedupSource pipeline isExecuting =>
          split at taken
          · cases taken
          · rcases Option.map_eq_some_iff.mp taken with
              ⟨⟨stage, after⟩, moved, rfl⟩
            have foundPipeline :=
              ((System.executing_eq_some_iff _ _ _ _).mp isExecuting).2
            rcases transfer_cases moved with
              ⟨isPublished, rfl⟩ | ⟨classification, message, rfl,
                rfl | isPublished⟩
            · have published := sound.publish foundPipeline
                ⟨_, _, foundPipeline, rfl⟩ rfl isPublished
              exact published.setStage isExecuting
                ⟨rfl, found_publish isPublished rfl rfl⟩
            · exact sound.setStage isExecuting trivial
            · have published := sound.publish foundPipeline
                ⟨_, _, foundPipeline, rfl⟩ rfl isPublished
              exact published.setStage isExecuting trivial
      · cases taken
  | fail key classification message =>
      simp only [step] at taken
      split at taken
      · cases taken
      · cases taken
      · cases taken
      · next running _ _ isExecuting =>
          cases taken
          exact sound.setStage isExecuting trivial
  | writeResult key =>
      simp only [step] at taken
      split at taken
      · next owner storageId dedupSource answer pipeline isExecuting =>
          split at taken
          · next accepted =>
              cases taken
              rw [Bool.and_eq_true] at accepted
              have foundPipeline :=
                ((System.executing_eq_some_iff _ _ _ _).mp isExecuting)
              have recorded := recorded_of_answered accepted.1
                (sound.holds isExecuting)
              have written : Sound size sha256 { system with
                  pipelines := system.pipelines.modify owner fun pipeline =>
                    { pipeline with
                      payload := resultPayload pipeline storageId answer } } :=
                sound.modify (fun _ => ⟨rfl, rfl⟩) fun other found => by
                  rw [foundPipeline.2, Option.some.injEq] at found
                  exact found ▸ ⟨fun _ => recorded, fun _ => recorded⟩
              refine @Sound.setStage _ _ size sha256 _ key
                ⟨owner, storageId, dedupSource, .answered answer⟩ _ .recorded
                written ?_ recorded
              rw [System.executing_eq_some_iff]
              refine ⟨foundPipeline.1, ?_⟩
              rw [Table.get_modify_self, foundPipeline.2, Option.map_some]
          · cases taken
      · cases taken
  | succeed key =>
      simp only [step] at taken
      split at taken
      · next owner storageId dedupSource pipeline isExecuting =>
          cases taken
          have foundPipeline :=
            ((System.executing_eq_some_iff _ _ _ _).mp isExecuting).2
          have recorded := sound.holds isExecuting
          have settled : Sound size sha256 { system with
              pipelines := system.pipelines.modify owner fun pipeline =>
                { pipeline with publishSucceeded := true } } :=
            sound.modify (fun _ => ⟨rfl, rfl⟩) fun other found => by
              rw [foundPipeline, Option.some.injEq] at found
              exact found ▸ ⟨fun _ => recorded, fun _ => recorded⟩
          exact settled.erase key
      · cases taken
  | crash key =>
      cases taken
      exact sound.erase key
  | index key =>
      simp only [step] at taken
      split at taken
      · next found =>
          cases taken
          refine sound.modify index_keeps ?_
          intro other foundOther
          rw [found, Option.some.injEq] at foundOther
          have recorded := sound.settled found (Or.inl rfl)
          exact foundOther ▸
            ⟨fun _ => recorded_index recorded, fun _ => recorded_index recorded⟩
      · cases taken

/-! ## The main result -/

/--
The publish was resumed on the file of another pipeline: one for the same
path, whose staged file is as large.
-/
def ResumedOnOther (system : System File) (key : Nat)
    (pipeline : Pipeline File) (file : File) : Prop :=
  Json.lookup pipeline.payload.fields "publish_resumed" = some (.bool true) ∧
    ∃ other owner, other ≠ key ∧
      system.pipelines.get other = some owner ∧
      owner.relativePath = pipeline.relativePath ∧ owner.staged = file

/--
After every run, the recorded path of a pipeline whose staging file is deleted
has a file of the staged size, which is the staged file, unless the publish
was resumed on the file of another pipeline.
-/
theorem deleted_staging_is_published [DecidableEq Digest]
    {system : System File} {key : Nat} {pipeline : Pipeline File}
    (steps : Steps (step size sha256) (fun _ _ => True) {} system)
    (collisionFree : ∀ first second left right,
      system.pipelines.get first = some left →
      system.pipelines.get second = some right →
      sha256 left.staged = sha256 right.staged → left.staged = right.staged)
    (found : system.pipelines.get key = some pipeline)
    (deleted : pipeline.stagingDeleted = true) :
    ∃ (storageId : Nat) (relativePath : String) (file : File),
      intField pipeline.payload.fields "storage_id" =
        some (storageId : Int) ∧
      strField pipeline.payload.fields "relative_path" = some relativePath ∧
      system.files (storageId, relativePath) = some file ∧
      size file = size pipeline.staged ∧
      (file = pipeline.staged ∨
        ResumedOnOther system key pipeline file) := by
  have initially : Sound size sha256 ({} : System File) := by
    constructor
    · intro place file found
      cases found
    · intro key execution found
      cases found
    · intro key pipeline found
      cases found
  have sound : Sound size sha256 system := steps.invariant _ initially
    fun _ _ _ sound _ taken => sound_step sound taken
  rcases sound.settled found (Or.inr deleted) with
    ⟨storageId, resumed, storage, path, flag, file, isFile, sameSize,
      sameDigest⟩
  refine ⟨storageId, _, file, storage, path, isFile, sameSize, ?_⟩
  rcases sound.origin isFile with
    ⟨⟨stager, staged, foundStager, rfl⟩, other, owner, foundOwner, samePath,
      ownerDigest⟩
  have isOwners := collisionFree _ _ _ _ foundStager foundOwner ownerDigest
  cases resumed with
  | false => exact Or.inl (collisionFree _ _ _ _ foundStager found (sameDigest rfl))
  | true =>
      by_cases isOwn : other = key
      · subst isOwn
        rw [foundOwner, Option.some.injEq] at found
        exact Or.inl (found ▸ isOwners)
      · exact Or.inr ⟨flag, other, owner, isOwn, foundOwner, samePath,
          isOwners.symm⟩

/-- A pipeline whose file of the given content is staged for a fixed path. -/
def stageClip (content : String) : Event String :=
  .stage "clip.mp4" content
    ⟨[("file_path", .str "/staging/work/clip.mp4")],
      List.nodup_singleton "file_path"⟩
    ⟨[("work_id", .str "work"), ("target_id", .int 1)], by decide⟩

/-- A publish which stops after the transfer, and is resumed. -/
def resumedAfterCrash : List (Event String) :=
  [stageClip "video", .start 1 1 none, .examine 1, .link 1 true,
    .transfer 1 .published, .crash 1, .start 1 1 none, .examine 1,
    .writeResult 1, .succeed 1, .index 1]

theorem deleted_staging_is_published_resumedAfterCrash :
    ∃ system pipeline,
      run (step String.length id) {} resumedAfterCrash = some system ∧
      system.pipelines.get 1 = some pipeline ∧
      pipeline.stagingDeleted = true ∧
      ∃ (storageId : Nat) (relativePath : String) (file : String),
        intField pipeline.payload.fields "storage_id" =
          some (storageId : Int) ∧
        strField pipeline.payload.fields "relative_path" =
          some relativePath ∧
        system.files (storageId, relativePath) = some file ∧
        file.length = pipeline.staged.length ∧
        (file = pipeline.staged ∨
          ResumedOnOther system 1 pipeline file) := by
  refine ⟨_, _, rfl, rfl, rfl, ?_⟩
  exact deleted_staging_is_published
    (@Steps.of_run _ _ (step String.length id) _ _ resumedAfterCrash rfl)
    (fun _ _ _ _ _ _ same => same) rfl rfl

/-- Another pipeline for the same path, whose file is as large. -/
def resumedOnOtherFile : List (Event String) :=
  [stageClip "first", .start 1 1 none, .examine 1, .link 1 true,
    .transfer 1 .published, .writeResult 1, .succeed 1, .index 1,
    stageClip "other", .start 2 1 none, .examine 1, .writeResult 1,
    .succeed 1, .index 2]

/-- Its content is lost: the recorded path keeps the first file. -/
theorem content_lost_after_resumedOnOtherFile :
    ∃ system pipeline,
      run (step String.length id) {} resumedOnOtherFile = some system ∧
      system.pipelines.get 2 = some pipeline ∧
      pipeline.stagingDeleted = true ∧ pipeline.staged = "other" ∧
      intField pipeline.payload.fields "storage_id" = some 1 ∧
      strField pipeline.payload.fields "relative_path" = some "clip.mp4" ∧
      system.files (1, "clip.mp4") = some "first" := by
  refine ⟨_, _, rfl, rfl, rfl, rfl, ?_, ?_, ?_⟩
  · rfl
  · rfl
  · rfl

end Sluicery.Tasks.PublishedFiles
