import Sluicery.Core.Integrity
import Sluicery.Library.Transition
import Sluicery.Tasks.Handlers

/-!
# The index and the published files

What a pipeline measured reaches the INDEX step through the payloads of its
tasks, each merged over the payload of the task before.  The INDEX step
inserts an Artifact with these values, unless the unique key is in use.  So
whether the row describes the published file depends on the row an earlier
pipeline, or an integrity check, has left there.
-/

namespace Sluicery.Tasks.IndexedArtifacts

open Sluicery.Library Sluicery.Library.Transition
open Sluicery.Db Sluicery.Core Sluicery.Tasks.Handlers

/-! ## The payload of a pipeline -/

/-- What the tasks of a completed pipeline had and found. -/
structure Pipeline where
  /-- The payload of the download task. -/
  download : Json.Dict
  /-- What the payload of each later task had before its result. -/
  verify : Json.Dict
  postprocess : Json.Dict
  publish : Json.Dict
  media : Media
  size : Nat
  verifiedAt : String
  storageId : Nat
  answer : PublishAnswer

namespace Pipeline

/-- The payload of the verify task, as `verifyFinish` leaves it. -/
def verified (pipeline : Pipeline) : Json.Dict :=
  pipeline.verify.update
    (pipeline.download.update
      (verifiedFields pipeline.download.fields pipeline.media pipeline.size
        pipeline.verifiedAt)).fields

/-- The payload of the postprocess task, which hands it on. -/
def postprocessed (pipeline : Pipeline) : Json.Dict :=
  pipeline.postprocess.update pipeline.verified.fields

/-- The payload of the publish task, as `publishFinish` leaves it. -/
def published (pipeline : Pipeline) : Json.Dict :=
  pipeline.publish.update
    (pipeline.postprocessed.update
      (pipeline.answer.fields pipeline.storageId)).fields

/-- The path of a successful publish. -/
def destination (pipeline : Pipeline) : Option String :=
  match pipeline.answer with
  | .failed .. => none
  | .resumed destination _ | .hardlinked destination _
  | .published destination _ => some destination

end Pipeline

/-- The Artifact which describes the file a pipeline has published. -/
def describedBy (pipeline : Pipeline) (targetId : Nat)
    (relativePath : String) : ArtifactRow :=
  { targetId
    role := .source
    storageId := pipeline.storageId
    relativePath
    container := pipeline.media.container
    formatId := strField pipeline.download.fields "format_id"
    videoCodec := pipeline.media.videoCodec
    audioCodec := pipeline.media.audioCodec
    filesize := some pipeline.size
    duration := pipeline.media.duration }

/-- The row has the file size and the media metadata, and is not missing. -/
def describes (artifact row : ArtifactRow) : Bool :=
  artifact.filesize == row.filesize && artifact.container == row.container &&
    artifact.formatId == row.formatId &&
    artifact.videoCodec == row.videoCodec &&
    artifact.audioCodec == row.audioCodec &&
    artifact.duration == row.duration && artifact.missingSince.isNone

/-! ## Steps -/

/--
The database, and, right after a successful INDEX step, the Artifact which
describes what its pipeline has published.
-/
structure State where
  db : Database := {}
  indexed : Option ArtifactRow := none

/-- What can happen to the Artifacts of a Target. -/
inductive Event where
  /-- The INDEX task of a completed pipeline is executed. -/
  | index (taskId : Nat) (payload : Json.Fields) (pipeline : Pipeline)
      (now : Time)
  | checkIntegrity
      (decisions : List (Integrity.ArtifactSnapshot × Integrity.Decision))
      (checkedAt now : Time)
  | missingAction (targetId : Nat) (action : MissingPolicy) (now : Time)
  | manualLink (artifactId : Nat) (normalized : String)
      (existsInStorage : Bool) (now : Time)
  | undoManualLink (artifactId : Nat) (now : Time)
  /-- Anything which leaves the Artifacts as they are. -/
  | others (db : Database)

/-- The Artifact which an INDEX task with this payload should leave. -/
def expected (payload : Json.Fields) (pipeline : Pipeline) :
    Option ArtifactRow := do
  let target ← intField payload "target_id"
  let relativePath ← pipeline.destination
  return describedBy pipeline (rowKey target) relativePath

/-- The INDEX task, when its dependency has the payload of the pipeline. -/
def stepIndex (db : Database) (parseDatetime : String → Option Time)
    (taskId : Nat) (payload : Json.Fields) (pipeline : Pipeline)
    (now : Time) : Option State :=
  match dependencyPayload db.task taskId with
  | .error _ => none
  | .ok previous =>
      if previous = pipeline.published.fields then
        let started := indexStart db taskId payload parseDatetime now
        match started.1 with
        | .working _ =>
            some { db := started.2, indexed := expected payload pipeline }
        | _ => some { db := started.2 }
      else none

/-- One step of a Target's history. -/
def step (parseDatetime : String → Option Time) (state : State) :
    Event → Option State
  | .index taskId payload pipeline now =>
      stepIndex state.db parseDatetime taskId payload pipeline now
  | .checkIntegrity decisions checkedAt now =>
      some { db :=
        (Integrity.applyDecisions state.db {} decisions checkedAt now).db }
  | .missingAction targetId action now =>
      (Integrity.setMissingAction state.db targetId action now).toOption.map
        fun acted => { db := acted.2 }
  | .manualLink artifactId normalized existsInStorage now =>
      (Integrity.manualLink state.db artifactId normalized existsInStorage
        now).toOption.map fun db => { db }
  | .undoManualLink artifactId now =>
      (Integrity.undoManualLink state.db artifactId now).toOption.map
        fun db => { db }
  | .others db => some { db := { db with artifact := state.db.artifact } }

/-- After an INDEX step the Artifact of its path describes its file. -/
def Described (state : State) : Prop :=
  ∀ row, state.indexed = some row → ∃ key artifact,
    ArtifactRepository.find state.db.artifact row = some (key, artifact) ∧
      describes artifact row = true

/--
No Artifact has the key of the INDEX step, or the one which has it already
describes the published file.
-/
def findsNoOtherFile (state : State) : Event → Bool
  | .index _ payload pipeline _ =>
      match expected payload pipeline with
      | none => true
      | some row =>
          match ArtifactRepository.find state.db.artifact row with
          | none => true
          | some (_, earlier) => describes earlier row
  | _ => true

/-! ## What the payload holds -/

/-- What verify found is still in the payload of the publish task. -/
theorem lookup_published_of_verified
    (pipeline : Pipeline) {key : String} {value : Json}
    (found : Json.lookup
      (verifiedFields pipeline.download.fields pipeline.media pipeline.size
        pipeline.verifiedAt) key = some value)
    (notAnswered :
      Json.lookup (pipeline.answer.fields pipeline.storageId) key = none) :
    Json.lookup pipeline.published.fields key = some value := by
  have inVerified : Json.lookup pipeline.verified.fields key = some value :=
    Json.Dict.lookup_update_of_some _ (Json.Dict.distinct _)
      (Json.Dict.lookup_update_of_some _
        (distinct_verifiedFields _ _ _ _) found)
  have inPostprocessed :
      Json.lookup pipeline.postprocessed.fields key = some value :=
    Json.Dict.lookup_update_of_some _ (Json.Dict.distinct _) inVerified
  apply Json.Dict.lookup_update_of_some _ (Json.Dict.distinct _)
  rw [Json.Dict.lookup_update_of_none _
    (pipeline.answer.distinct_fields _) notAnswered]
  exact inPostprocessed

theorem lookup_published_of_answered
    (pipeline : Pipeline) {key : String} {value : Json}
    (found : Json.lookup (pipeline.answer.fields pipeline.storageId) key =
      some value) :
    Json.lookup pipeline.published.fields key = some value := by
  apply Json.Dict.lookup_update_of_some _ (Json.Dict.distinct _)
  exact Json.Dict.lookup_update_of_some _
    (pipeline.answer.distinct_fields _) found

theorem asStr_elim (value : Option String) :
    asStr (value.elim .null .str) = value := by
  cases value <;> rfl

/-- The Artifact of an INDEX step has the columns of the published file. -/
theorem describes_indexedArtifact
    (pipeline : Pipeline) (parseDatetime : String → Option Time)
    (taskId targetId : Nat) (relativePath : String) (now : Time) :
    describes
      (indexedArtifact taskId targetId pipeline.storageId relativePath
        pipeline.published.fields parseDatetime now)
      (describedBy pipeline targetId relativePath) = true := by
  have notAnswered : ∀ key,
      key ∈ ["container", "video_codec", "audio_codec", "format_id",
        "filesize", "duration"] →
      Json.lookup (pipeline.answer.fields pipeline.storageId) key = none := by
    intro key measured
    simp only [List.mem_cons, List.not_mem_nil, or_false] at measured
    rcases measured with rfl | rfl | rfl | rfl | rfl | rfl <;>
      cases pipeline.answer <;> rfl
  have looks := fun key value found measured =>
    @lookup_published_of_verified pipeline key value found
      (notAnswered key measured)
  have container : strField pipeline.published.fields "container" =
      pipeline.media.container := by
    rw [strField, looks "container" _ rfl (by decide)]
    exact asStr_elim _
  have videoCodec : strField pipeline.published.fields "video_codec" =
      pipeline.media.videoCodec := by
    rw [strField, looks "video_codec" _ rfl (by decide)]
    exact asStr_elim _
  have audioCodec : strField pipeline.published.fields "audio_codec" =
      pipeline.media.audioCodec := by
    rw [strField, looks "audio_codec" _ rfl (by decide)]
    exact asStr_elim _
  have formatId : strField pipeline.published.fields "format_id" =
      strField pipeline.download.fields "format_id" := by
    rw [strField, looks "format_id" _ rfl (by decide)]
    exact asStr_elim _
  have filesize : integerField pipeline.published.fields "filesize" =
      some (pipeline.size : Int) := by
    rw [integerField, looks "filesize" _ rfl (by decide)]
  have duration : integerField pipeline.published.fields "duration" =
      pipeline.media.duration := by
    rw [integerField, looks "duration" _ rfl (by decide)]
    cases pipeline.media.duration <;> rfl
  simp [describes, indexedArtifact, describedBy, container, videoCodec,
    audioCodec, formatId, filesize, duration]

/-! ## What an INDEX step leaves -/

theorem destination_fields
    {pipeline : Pipeline} {relativePath : String}
    (isDestination : pipeline.destination = some relativePath) :
    intField pipeline.published.fields "storage_id" =
        some (pipeline.storageId : Int) ∧
      strField pipeline.published.fields "relative_path" =
        some relativePath := by
  have looks := fun key value =>
    @lookup_published_of_answered pipeline key value
  rw [Pipeline.destination] at isDestination
  rw [intField, strField]
  cases answer : pipeline.answer with
  | failed =>
      rw [answer] at isDestination
      cases isDestination
  | resumed | hardlinked | published =>
      rw [answer] at looks isDestination
      cases isDestination
      rw [looks "storage_id" _ rfl, looks "relative_path" _ rfl]
      exact ⟨rfl, rfl⟩

theorem indexAdvance_artifact
    (db : Database) (artifact : ArtifactRow) (work : Work) (now : Time) :
    (indexAdvance db artifact work now).2.artifact =
      (ArtifactRepository.createSourceIfMissing db.artifact artifact).2 := by
  have advanced : ∀ (db : Database) (targetId : Nat) (work : Work),
      (advanceFor db targetId .downloaded now
        "Targetをdownloadedへ遷移できません" work).2.artifact =
          db.artifact := by
    intro db targetId work
    rw [advanceFor]
    split <;> rfl
  rw [indexAdvance]
  dsimp only
  split
  · exact advanced _ _ _
  · exact advanced _ _ _

/-- A successful INDEX step has called `create_source_if_missing`. -/
theorem stepIndex_artifacts
    {db : Database} {parseDatetime : String → Option Time} {taskId : Nat}
    {payload : Json.Fields} {pipeline : Pipeline} {now : Time}
    {state : State} {row : ArtifactRow}
    (taken : stepIndex db parseDatetime taskId payload pipeline now =
      some state)
    (indexed : state.indexed = some row) :
    expected payload pipeline = some row ∧
      ∃ targetId relativePath,
        row = describedBy pipeline targetId relativePath ∧
        state.db.artifact = (ArtifactRepository.createSourceIfMissing
          db.artifact
          (indexedArtifact taskId targetId pipeline.storageId relativePath
            pipeline.published.fields parseDatetime now)).2 := by
  rw [stepIndex] at taken
  split at taken
  · cases taken
  · next previous isPrevious =>
      split at taken
      · next isPublished =>
          subst isPublished
          dsimp only at taken
          split at taken
          · next work works =>
              cases taken
              refine ⟨indexed, ?_⟩
              rcases Option.bind_eq_some_iff.mp indexed with
                ⟨target, isTarget, rest⟩
              rcases Option.bind_eq_some_iff.mp rest with
                ⟨relativePath, isDestination, isRow⟩
              cases isRow
              rcases destination_fields isDestination with ⟨storage, path⟩
              refine ⟨rowKey target, relativePath, rfl, ?_⟩
              simp only [indexStart, isTarget, isPrevious, storage, path]
                at works ⊢
              split at works
              · next isTarget' _ =>
                  cases isTarget'
                  cases filePath : strField pipeline.published.fields
                      "file_path" with
                  | none =>
                      rw [filePath] at works
                      cases works
                  | some _ => exact indexAdvance_artifact _ _ _ _
              · cases works
          · cases taken
            cases indexed
      · cases taken

/-- After an INDEX step its property is what the step has found. -/
theorem described_step_iff
    {parseDatetime : String → Option Time} {state state' : State}
    {event : Event} (taken : step parseDatetime state event = some state') :
    Described state' ↔
      (state'.indexed.isSome = true →
        findsNoOtherFile state event = true) := by
  cases isIndexed : state'.indexed with
  | none =>
      constructor
      · intro _ impossible
        cases impossible
      · intro _ row found
        rw [isIndexed] at found
        cases found
  | some row =>
      cases event with
      | index taskId payload pipeline now =>
          rcases stepIndex_artifacts taken isIndexed with
            ⟨isExpected, targetId, relativePath, isRow, artifacts⟩
          let indexed := indexedArtifact taskId targetId pipeline.storageId
            relativePath pipeline.published.fields parseDatetime now
          have sameKey : ∀ other, ArtifactRepository.sameKey other row =
              ArtifactRepository.sameKey other indexed := by
            intro other
            rw [isRow]
            rfl
          have found : ArtifactRepository.find state'.db.artifact row =
              some ((ArtifactRepository.find state.db.artifact row).getD
                (state.db.artifact.nextKey, indexed)) := by
            rw [ArtifactRepository.find_congr _ sameKey,
              ArtifactRepository.find_congr _ sameKey, artifacts]
            exact ArtifactRepository.find_createSourceIfMissing _ _
          have isDescribed : describes indexed row = true := by
            rw [isRow]
            exact describes_indexedArtifact _ _ _ _ _ _
          simp only [findsNoOtherFile, isExpected]
          constructor
          · intro described _
            split
            · rfl
            · next key earlier foundEarlier =>
                rcases described row isIndexed with
                  ⟨key', artifact, foundAfter, describesFile⟩
                rw [found, foundEarlier, Option.getD_some] at foundAfter
                cases foundAfter
                exact describesFile
          · intro findsNone other isOther
            rw [isIndexed, Option.some.injEq] at isOther
            subst isOther
            have describesFile := findsNone rfl
            split at describesFile
            · next noneEarlier =>
                rw [noneEarlier] at found
                exact ⟨_, _, found, isDescribed⟩
            · next key earlier foundEarlier =>
                rw [foundEarlier] at found
                exact ⟨_, _, found, describesFile⟩
      | checkIntegrity | others =>
          cases taken
          cases isIndexed
      | missingAction | manualLink | undoManualLink =>
          rcases Option.map_eq_some_iff.mp taken with ⟨_, -, rfl⟩
          cases isIndexed

/-! ## The main result -/

/--
In every history in which no INDEX step finds an Artifact of another file
under its key, the Artifact describes the published file after every
successful INDEX step.
-/
theorem index_describes_published
    {parseDatetime : String → Option Time} {db : Database} {state : State}
    (steps : Steps (step parseDatetime)
      (fun state event => findsNoOtherFile state event = true) { db } state) :
    Described state := by
  cases steps with
  | refl =>
      intro row impossible
      cases impossible
  | tail _ permitted taken =>
      exact (described_step_iff taken).mpr fun _ => permitted

/-- A pipeline which has published a file of the given size. -/
def publishedClip (size : Nat) : Pipeline where
  download := ⟨[("file_path", .str "/staging/work/clip.mp4")], by decide⟩
  verify := ⟨[], by decide⟩
  postprocess := ⟨[], by decide⟩
  publish := ⟨[], by decide⟩
  media := ⟨some "mp4", some "h264", some "aac", some 60⟩
  size
  verifiedAt := "2026-08-16T00:00:00+00:00"
  storageId := 1
  answer := .published "clip.mp4" size

/-- The INDEX task of this pipeline, and its Target, are about to be executed. -/
def readyToIndex (size : Nat) : Database where
  target := Table.empty.insert
    { itemId := 1, playlistProfileId := 1, status := .processing }
  task := (Table.empty.insert
    { type := .publish, targetRefType := "target", targetRefId := 1,
      payloadJson := some (publishedClip size).published.fields,
      workerClass := .network, status := .succeeded }).insert
    { type := .index, targetRefType := "target", targetRefId := 1,
      workerClass := .network, status := .running,
      dependsOnTaskId := some 1 }

/-- The INDEX task of this pipeline. -/
def indexClip (size : Nat) : Event :=
  .index 2 [("work_id", .str "work"), ("target_id", .int 1)]
    (publishedClip size) 20

/-- A redownload which publishes the same file again. -/
def sameFileAgain : List Event :=
  [.others (readyToIndex 1000), indexClip 1000,
    .others (readyToIndex 1000), indexClip 1000]

theorem index_describes_published_sameFileAgain :
    ∃ state, run (step fun _ => none) { db := {} } sameFileAgain =
        some state ∧
      state.indexed.isSome = true ∧ Described state := by
  refine ⟨_, rfl, rfl, ?_⟩
  exact @index_describes_published (fun _ => none) {} _
    (@Steps.of_checked_run _ _ (step fun _ => none) _ _ _ findsNoOtherFile
      (fun _ _ passed => passed) sameFileAgain rfl)

/-- A missing file which is downloaded again, in another size. -/
def redownloadInOtherSize : List Event :=
  [.others (readyToIndex 1000), indexClip 1000,
    .checkIntegrity
      [(⟨1, 1, 1, "clip.mp4", "id", 20, .downloaded, 20⟩,
        .missing "missing" [])] 30 30,
    .missingAction 1 .redownload 40,
    .others (readyToIndex 2000), indexClip 2000]

/-- The Artifact keeps the size of the earlier file and stays missing. -/
theorem index_keeps_earlier_redownloadInOtherSize :
    ∃ state row artifact,
      run (step fun _ => none) { db := {} } redownloadInOtherSize =
        some state ∧
      state.indexed = some row ∧ row.filesize = some 2000 ∧
      ArtifactRepository.find state.db.artifact row = some (1, artifact) ∧
      artifact.filesize = some 1000 ∧ artifact.missingSince = some 30 := by
  refine ⟨_, _, _, rfl, rfl, rfl, rfl, ?_, ?_⟩
  · rfl
  · rfl

end Sluicery.Tasks.IndexedArtifacts
