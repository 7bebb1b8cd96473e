import Sluicery.Core.IntegrityDecisions
import Sluicery.Tasks.IndexedArtifacts

/-!
# Downloading missing files again

Under the policy `redownload` a check sends a Target without its file back to
PENDING, and a pipeline publishes and indexes the file again.  The next check
looks at all Artifacts of the Target, the one of the missing file among them.
So the Target stays when the check finds a file for each of them, and in
particular when every redownload is published at the path of its Artifact.
-/

namespace Sluicery.Tasks.Redownload

open Sluicery.Library Sluicery.Library.Transition
open Sluicery.Db Sluicery.Core Sluicery.Core.Integrity Sluicery.Tasks.Handlers

/-- The arguments of `check_integrity`, and what its adapters answer. -/
structure Check where
  answers : Answers
  storageId : Option Nat := none
  playlistId : Option Nat := none
  rescanTimeoutSec : Int := 600
  maxCandidates : Int := 5
  checkedAt : Time
  now : Time

/-- `check_integrity`. -/
def Check.run (check : Check) (db : Database) : Except String Progress :=
  checkIntegrity db check.answers check.storageId check.playlistId
    check.rescanTimeoutSec check.maxCandidates check.checkedAt check.now

/-- What the storages let the check decide. -/
def Check.decisions (check : Check) (db : Database) :
    List (ArtifactSnapshot × Decision) :=
  (scan db check.answers check.storageId check.playlistId
    check.maxCandidates.toNat).2

/-- What happens to the Artifacts and to the Target. -/
inductive Event where
  | check (check : Check)
  /-- An execution of `IndexHandler`. -/
  | index (taskId : Nat) (payload : Json.Fields) (now : Time)
  /-- Anything else. -/
  | others (change : Database → Database)

/-- The database, and what has happened to the Target. -/
structure State where
  db : Database
  /-- A pipeline of the Target has published and indexed its file. -/
  completed : Bool := false
  /-- A later check has sent the Target to PENDING. -/
  sentBack : Bool := false

def isPending (db : Database) (targetId : Nat) : Bool :=
  (db.target.get targetId).any fun row => row.status == .pending

/-- The check sends the Target to PENDING. -/
def sends (before after : Database) (targetId : Nat) : Bool :=
  !isPending before targetId && isPending after targetId

def step (targetId : Nat) (parseDatetime : String → Option Time)
    (state : State) : Event → Option State
  | .check check =>
      match check.run state.db with
      | .error _ => none
      | .ok progress =>
          some { state with
            db := progress.db
            sentBack := state.sentBack ||
              (state.completed && sends state.db progress.db targetId) }
  | .index taskId payload now =>
      let started := indexStart state.db taskId payload parseDatetime now
      match started.1 with
      | .working work =>
          some { state with
            db := started.2
            completed := state.completed || work.targetId == targetId }
      | _ => some { state with db := started.2 }
  | .others change => some { state with db := change state.db }

/-! ## Checks which find the files of a Target -/

/-- The rows which the check selects. -/
def Check.rows (check : Check) (db : Database) : List ArtifactSnapshot :=
  snapshots db check.storageId check.playlistId

/-- The check finds the file of a row, where it was or elsewhere. -/
def Check.Finds (check : Check) (db : Database) (row : ArtifactSnapshot) :
    Prop :=
  FindsFile db check.answers (check.rows db) row

/-- The check looks for the file of a row and finds none. -/
def Check.Misses (check : Check) (db : Database) (row : ArtifactSnapshot) :
    Prop :=
  FindsNone db check.answers (check.rows db) row

/-- The check does not get to an Artifact of the Target. -/
def Check.Overlooks (check : Check) (db : Database) (targetId : Nat) :
    Prop :=
  ∀ row ∈ check.rows db, row.targetId = targetId →
    ¬ check.Finds db row ∧ ¬ check.Misses db row

/-- The check misses no file of the Target, and finds one for each of its
Artifacts that is marked missing. -/
structure Check.Restores (check : Check) (db : Database) (targetId : Nat) :
    Prop where
  noneMissing : ∀ row ∈ check.rows db, row.targetId = targetId →
    ¬ check.Misses db row
  found : ∀ key artifact, db.artifact.get key = some artifact →
    artifact.targetId = targetId → artifact.missingSince.isSome = true →
      ∃ row ∈ check.rows db, row.artifactId = key ∧ check.Finds db row

/-- A check after the redownload finds a file for every Artifact of the
Target, or does not get to them. -/
def Settles (targetId : Nat) (state : State) : Event → Prop
  | .check check => state.completed = true →
      check.Overlooks state.db targetId ∨ check.Restores state.db targetId
  | _ => True

theorem mem_rows_of_mem_decisions
    {check : Check} {db : Database} {entry : ArtifactSnapshot × Decision}
    (member : entry ∈ check.decisions db) : entry.1 ∈ check.rows db :=
  (mem_scan_iff.mp member).1

/-- Each decision finds the file of its row, or misses it. -/
theorem finds_or_misses
    {check : Check} {db : Database} {row : ArtifactSnapshot}
    {decision : Decision} (member : (row, decision) ∈ check.decisions db) :
    check.Finds db row ∧ (∀ kind candidates,
        decision ≠ .missing kind candidates) ∨
      check.Misses db row ∧ ∃ kind candidates,
        decision = .missing kind candidates := by
  have isRow : row ∈ snapshots db check.storageId check.playlistId :=
    mem_rows_of_mem_decisions member
  cases decision with
  | missing kind candidates =>
      exact Or.inr ⟨(findsNone_iff isRow).mpr ⟨kind, candidates, member⟩,
        kind, candidates, rfl⟩
  | present | relink =>
      refine Or.inl ⟨(findsFile_iff isRow).mpr ⟨_, member, ?_⟩, ?_⟩ <;> simp

theorem overlooks_iff
    {check : Check} {db : Database} {targetId : Nat} :
    check.Overlooks db targetId ↔
      PassesBy (check.decisions db) targetId := by
  constructor
  · rintro overlooks ⟨row, decision⟩ member isTarget
    have neither :=
      overlooks row (mem_rows_of_mem_decisions member) isTarget
    rcases finds_or_misses member with ⟨finds, -⟩ | ⟨misses, -⟩
    · exact neither.1 finds
    · exact neither.2 misses
  · intro passesBy row isRow isTarget
    constructor
    · intro finds
      rcases (findsFile_iff isRow).mp finds with ⟨decision, member, -⟩
      exact passesBy _ member isTarget
    · intro misses
      rcases (findsNone_iff isRow).mp misses with ⟨kind, candidates, member⟩
      exact passesBy _ member isTarget

theorem targetId_of_mem_rows
    {check : Check} {db : Database} {row : ArtifactSnapshot}
    {artifact : ArtifactRow} (isRow : row ∈ check.rows db)
    (found : db.artifact.get row.artifactId = some artifact) :
    row.targetId = artifact.targetId := by
  rcases isSnapshotOf_of_mem_snapshots isRow with ⟨other, isOther, -, same, -⟩
  rw [found, Option.some.injEq] at isOther
  rw [same, isOther]

theorem restores_iff
    {check : Check} {db : Database} {targetId : Nat} :
    check.Restores db targetId ↔
      Resolves db (check.decisions db) targetId := by
  constructor
  · intro restores
    constructor
    · rintro ⟨row, decision⟩ member isTarget kind candidates isMissing
      rcases finds_or_misses member with ⟨-, never⟩ | ⟨misses, -⟩
      · exact never kind candidates isMissing
      · exact restores.noneMissing row (mem_rows_of_mem_decisions member)
          isTarget misses
    · intro key artifact found isTarget marked
      rcases restores.found key artifact found isTarget marked with
        ⟨row, isRow, isKey, finds⟩
      rcases (findsFile_iff isRow).mp finds with ⟨decision, member, -⟩
      exact ⟨(row, decision), member, isKey⟩
  · intro resolves
    constructor
    · intro row isRow isTarget misses
      rcases (findsNone_iff isRow).mp misses with ⟨kind, candidates, member⟩
      exact resolves.noneMissing _ member isTarget kind candidates rfl
    · intro key artifact found isTarget marked
      rcases resolves.resolved key artifact found isTarget marked with
        ⟨⟨row, decision⟩, member, isKey⟩
      have isRow := mem_rows_of_mem_decisions member
      refine ⟨row, isRow, isKey, ?_⟩
      rcases finds_or_misses member with ⟨finds, -⟩ | ⟨-, kind, candidates,
        isMissing⟩
      · exact finds
      · have ofTarget : row.targetId = targetId := by
          rw [targetId_of_mem_rows isRow (isKey ▸ found), isTarget]
        exact absurd isMissing
          (resolves.noneMissing _ member ofTarget kind candidates)

/-! ## Runs -/

/-- The check of a settled Target does not send it to PENDING. -/
theorem not_sends_of_settles
    {targetId : Nat} {state : State} {check : Check} {progress : Progress}
    (completed : state.completed = true)
    (settled : Settles targetId state (.check check))
    (checked : check.run state.db = .ok progress) :
    sends state.db progress.db targetId = false := by
  by_contra isSent
  simp only [sends, Bool.not_eq_false, Bool.and_eq_true, Bool.not_eq_true',
    isPending] at isSent
  rcases isSent with ⟨notBefore, after⟩
  have settledTarget : PassesBy (check.decisions state.db) targetId ∨
      Resolves state.db (check.decisions state.db) targetId :=
    (settled completed).imp overlooks_iff.mp restores_iff.mp
  cases found' : progress.db.target.get targetId with
  | none => simp [found'] at after
  | some row' =>
      simp only [found', Option.any_some, beq_iff_eq] at after
      rw [Check.run, checkIntegrity] at checked
      split at checked
      · cases checked
      · split at checked
        · cases checked
        · obtain rfl := Except.ok.inj checked
          rcases applyDecisions_target (wellFounded_scan _ _ _ _ _)
            settledTarget found' with ⟨row, found, stays | returns⟩
          · rw [found, Option.any_some, ← stays, after] at notBefore
            cases notBefore
          · rw [after] at returns
            cases returns

/-- One event sends no settled Target to PENDING. -/
theorem sentBack_step
    {targetId : Nat} {parseDatetime : String → Option Time}
    {before after : State} {event : Event}
    (settled : Settles targetId before event)
    (taken : step targetId parseDatetime before event = some after) :
    after.sentBack = before.sentBack := by
  cases event with
  | check check =>
      simp only [step] at taken
      split at taken
      · cases taken
      · next progress checked =>
          obtain rfl := Option.some.inj taken
          show (before.sentBack || _) = before.sentBack
          cases isCompleted : before.completed with
          | false => rw [Bool.false_and, Bool.or_false]
          | true =>
              rw [not_sends_of_settles isCompleted settled checked,
                Bool.and_false, Bool.or_false]
  | index taskId payload now =>
      simp only [step] at taken
      split at taken
      · obtain rfl := Option.some.inj taken
        rfl
      · obtain rfl := Option.some.inj taken
        rfl
  | others change =>
      obtain rfl := Option.some.inj taken
      rfl

/-- After a redownload, checks which find the files of the Target leave it
out of PENDING. -/
theorem not_sentBack
    {targetId : Nat} {parseDatetime : String → Option Time} {db : Database}
    {state : State}
    (steps : Steps (step targetId parseDatetime) (Settles targetId) { db }
      state) :
    state.sentBack = false :=
  steps.invariant (fun state => state.sentBack = false) rfl
    fun _ _ _ kept settled taken =>
      (sentBack_step settled taken).trans kept

/-! ## A redownload at the path of the Artifact -/

/-- The storage and the path of a publish, which an INDEX task reads. -/
def publishedKey (db : Database) (taskId : Nat) :
    Option (Nat × String) := do
  let previous ← (dependencyPayload db.task taskId).toOption
  let storage ← intField previous "storage_id"
  let relativePath ← strField previous "relative_path"
  return (rowKey storage, relativePath)

/-- The Target has no second Artifact. -/
def OneArtifact (targetId : Nat) (artifacts : Table ArtifactRow) : Prop :=
  ∀ left right leftRow rightRow,
    artifacts.get left = some leftRow → artifacts.get right = some rightRow →
    leftRow.targetId = targetId → rightRow.targetId = targetId →
    left = right

/-- The Artifacts of the Target were there before. -/
def KeepsArtifacts (targetId : Nat) (before after : Table ArtifactRow) :
    Prop :=
  ∀ key row', after.get key = some row' → row'.targetId = targetId →
    ∃ row, before.get key = some row ∧ row.targetId = targetId

/-- Each file of the Target is published at the path of its Artifact, and no
check after a redownload misses it; nothing else adds an Artifact. -/
def Republishes (targetId : Nat) (state : State) : Event → Prop
  | .check check => state.completed = true →
      ∀ row ∈ check.rows state.db, row.targetId = targetId →
        ¬ check.Misses state.db row
  | .index taskId _ _ =>
      ∀ published, publishedKey state.db taskId = some published →
        ∀ key row, state.db.artifact.get key = some row →
          row.targetId = targetId →
          row.role = .source ∧ row.storageId = published.1 ∧
            row.relativePath = published.2
  | .others change =>
      KeepsArtifacts targetId state.db.artifact (change state.db).artifact

theorem OneArtifact.kept
    {targetId : Nat} {before after : Table ArtifactRow}
    (one : OneArtifact targetId before)
    (keeps : KeepsArtifacts targetId before after) :
    OneArtifact targetId after := by
  intro left right leftRow rightRow foundLeft foundRight isLeft isRight
  rcases keeps left leftRow foundLeft isLeft with ⟨_, wasLeft, ofLeft⟩
  rcases keeps right rightRow foundRight isRight with
    ⟨_, wasRight, ofRight⟩
  exact one left right _ _ wasLeft wasRight ofLeft ofRight

/-- With one Artifact, no check which finds its file leaves another. -/
theorem settles_of_republishes
    {targetId : Nat} {state : State} {event : Event}
    (one : OneArtifact targetId state.db.artifact)
    (republishes : Republishes targetId state event) :
    Settles targetId state event := by
  cases event with
  | index | others => trivial
  | check check =>
      intro completed
      have never := republishes completed
      by_cases finds : ∃ row ∈ check.rows state.db,
          row.targetId = targetId ∧ check.Finds state.db row
      · rcases finds with ⟨row, isRow, isTarget, finds⟩
        refine Or.inr ⟨never, ?_⟩
        intro key artifact found ofTarget _
        rcases isSnapshotOf_of_mem_snapshots isRow with
          ⟨own, foundOwn, -, sameTarget, -⟩
        refine ⟨row, isRow, ?_, finds⟩
        exact one _ _ own artifact foundOwn found
          (sameTarget.symm.trans isTarget) ofTarget
      · refine Or.inl fun row isRow isTarget => ⟨?_, never row isRow isTarget⟩
        exact fun isFound => finds ⟨row, isRow, isTarget, isFound⟩

/-- Decisions change no Artifact's Target. -/
theorem keepsArtifacts_check
    {targetId : Nat} {check : Check} {db : Database} {progress : Progress}
    (checked : check.run db = .ok progress) :
    KeepsArtifacts targetId db.artifact progress.db.artifact := by
  intro key row' found isTarget
  rw [Check.run, ← checkIntegrityBetween_self] at checked
  rcases touched_of_checked (renewed_refl db) checked key with
    kept | ⟨entry, -, -, -, isTouched⟩
  · exact ⟨row', kept ▸ found, isTarget⟩
  · rw [isTouched] at found
    rcases Option.map_eq_some_iff.mp found with ⟨row, wasRow, rfl⟩
    refine ⟨row, wasRow, ?_⟩
    rw [touched, column_touchArtifact ArtifactRow.targetId fun _ _ => rfl,
      (targetId_decided row entry.2).1] at isTarget
    exact isTarget

/-- An Artifact is inserted beside none of its Target. -/
theorem OneArtifact.createSource
    {targetId : Nat} {artifacts : Table ArtifactRow} {artifact : ArtifactRow}
    (one : OneArtifact targetId artifacts)
    (sameKey : ∀ key row, artifacts.get key = some row →
      row.targetId = targetId → row.role = artifact.role ∧
        row.storageId = artifact.storageId ∧
        row.relativePath = artifact.relativePath) :
    OneArtifact targetId
      (ArtifactRepository.createSourceIfMissing artifacts artifact).2 := by
  rw [ArtifactRepository.createSourceIfMissing]
  split
  · exact one
  · next absent =>
      by_cases ofTarget : artifact.targetId = targetId
      · have none : ∀ key row, artifacts.get key = some row →
            row.targetId ≠ targetId := by
          intro key row found isTarget
          rcases sameKey key row found isTarget with ⟨role, storage, path⟩
          rw [ArtifactRepository.find, List.head?_eq_none_iff] at absent
          have member := (artifacts.mem_select_iff (fun _ existing =>
            ArtifactRepository.sameKey existing artifact) key row).mpr
              ⟨found, by
                simp [ArtifactRepository.sameKey, role, storage, path,
                  isTarget, ofTarget]⟩
          rw [absent] at member
          cases member
        intro left right leftRow rightRow foundLeft foundRight isLeft isRight
        rw [Table.get_insert] at foundLeft foundRight
        split at foundLeft
        · next isNewLeft =>
            split at foundRight
            · next isNewRight => rw [isNewLeft, isNewRight]
            · exact absurd isRight (none right rightRow foundRight)
        · exact absurd isLeft (none left leftRow foundLeft)
      · apply one.kept
        intro key row' found isTarget
        rw [Table.get_insert] at found
        split at found
        · cases found
          exact absurd isTarget ofTarget
        · exact ⟨row', found, isTarget⟩

theorem oneArtifact_index
    {targetId : Nat} {db : Database} {taskId : Nat} {payload : Json.Fields}
    {parseDatetime : String → Option Time} {now : Time}
    (one : OneArtifact targetId db.artifact)
    (samePath : ∀ published, publishedKey db taskId = some published →
      ∀ key row, db.artifact.get key = some row → row.targetId = targetId →
        row.role = .source ∧ row.storageId = published.1 ∧
          row.relativePath = published.2) :
    OneArtifact targetId
      (indexStart db taskId payload parseDatetime now).2.artifact := by
  rw [indexStart]
  split
  · dsimp only
    split
    · exact one
    · next previous isPrevious =>
        split
        · next storage relativePath _ isStorage isPath _ =>
            have published : publishedKey db taskId =
                some (rowKey storage, relativePath) := by
              simp only [publishedKey, isPrevious, Except.toOption,
                Option.bind_eq_bind, Option.bind_some, isStorage, isPath]
              rfl
            rw [IndexedArtifacts.indexAdvance_artifact]
            apply one.createSource
            exact samePath _ published
        · exact one
  · exact one

theorem oneArtifact_step
    {targetId : Nat} {parseDatetime : String → Option Time}
    {before after : State} {event : Event}
    (one : OneArtifact targetId before.db.artifact)
    (republishes : Republishes targetId before event)
    (taken : step targetId parseDatetime before event = some after) :
    OneArtifact targetId after.db.artifact := by
  cases event with
  | check check =>
      simp only [step] at taken
      split at taken
      · cases taken
      · next checked =>
          cases taken
          exact one.kept (keepsArtifacts_check checked)
  | index taskId payload now =>
      have kept := @oneArtifact_index targetId before.db taskId payload
        parseDatetime now one republishes
      simp only [step] at taken
      split at taken <;>
        · cases taken
          exact kept
  | others change =>
      cases taken
      exact one.kept republishes

/--
In a run in which every file is published at the path of the Target's only
Artifact, the checks after the first redownload leave the Target out of
PENDING as long as they do not miss that file.
-/
theorem not_sentBack_of_republishes
    {targetId : Nat} {parseDatetime : String → Option Time} {db : Database}
    {state : State} (one : OneArtifact targetId db.artifact)
    (steps : Steps (step targetId parseDatetime) (Republishes targetId)
      { db } state) :
    state.sentBack = false := by
  have kept : state.sentBack = false ∧
      OneArtifact targetId state.db.artifact := by
    apply steps.invariant (fun state => state.sentBack = false ∧
      OneArtifact targetId state.db.artifact) ⟨rfl, one⟩
    rintro before event after ⟨stays, one⟩ republishes taken
    have settles := settles_of_republishes one republishes
    constructor
    · exact (sentBack_step settles taken).trans stays
    · exact oneArtifact_step one republishes taken
  exact kept.1

/-! ## Runs of the two kinds -/

def isMissing : Decision → Bool
  | .missing _ _ => true
  | _ => false

/-- No decision is about an Artifact of the Target. -/
def passesBy (decisions : List (ArtifactSnapshot × Decision))
    (targetId : Nat) : Bool :=
  decisions.all fun entry => entry.1.targetId != targetId

/-- No Artifact of the Target is found missing, and each one that is marked
missing is found or linked to another file. -/
def resolves (db : Database)
    (decisions : List (ArtifactSnapshot × Decision)) (targetId : Nat) :
    Bool :=
  (decisions.all fun entry =>
    !(entry.1.targetId == targetId && isMissing entry.2)) &&
  !db.artifact.any fun key row =>
    row.targetId == targetId && row.missingSince.isSome &&
      !decisions.any fun entry => entry.1.artifactId == key

/-- `Settles`, as it is computed from the decisions. -/
def settles (targetId : Nat) (state : State) : Event → Bool
  | .check check =>
      !state.completed || passesBy (check.decisions state.db) targetId ||
        resolves state.db (check.decisions state.db) targetId
  | _ => true

theorem passesBy_iff
    {decisions : List (ArtifactSnapshot × Decision)} {targetId : Nat}
    (passes : passesBy decisions targetId = true) :
    PassesBy decisions targetId := by
  intro entry member
  exact bne_iff_ne.mp (List.all_eq_true.mp passes entry member)

theorem resolves_sound
    {db : Database} {decisions : List (ArtifactSnapshot × Decision)}
    {targetId : Nat} (isResolved : resolves db decisions targetId = true) :
    Resolves db decisions targetId := by
  rw [resolves, Bool.and_eq_true, List.all_eq_true, Bool.not_eq_true']
    at isResolved
  rcases isResolved with ⟨noneMissing, noneLeft⟩
  constructor
  · intro entry member isTarget kind candidates decision
    have kept := noneMissing entry member
    rw [decision, isTarget] at kept
    simp [isMissing] at kept
  · intro key row found isTarget marked
    by_contra unresolved
    have left : (db.artifact.any fun key row =>
        row.targetId == targetId && row.missingSince.isSome &&
          !decisions.any fun entry => entry.1.artifactId == key) = true := by
      rw [Table.any_eq_true_iff]
      refine ⟨key, row, found, ?_⟩
      simp only [isTarget, marked, beq_self_eq_true, Bool.and_self,
        Bool.true_and, Bool.not_eq_true', List.any_eq_false, beq_iff_eq]
      exact fun entry member isKey => unresolved ⟨entry, member, isKey⟩
    rw [noneLeft] at left
    cases left

theorem settles_sound
    {targetId : Nat} {state : State} {event : Event}
    (settled : settles targetId state event = true) :
    Settles targetId state event := by
  cases event with
  | index | others => trivial
  | check check =>
      intro completed
      simp only [settles, completed, Bool.not_true, Bool.false_or,
        Bool.or_eq_true] at settled
      exact settled.imp (fun passes => overlooks_iff.mpr (passesBy_iff passes))
        fun isResolved => restores_iff.mpr (resolves_sound isResolved)

/-- A Target with an Artifact at this path, under the policy. -/
def downloadedAt (relativePath : String) : Database where
  storage := Table.empty.insert { name := "nas", kind := .local }
  playlist := Table.empty.insert
    { name := "clips", folderName := "clips", missingPolicy := .redownload }
  item := Table.empty.insert { playlistId := 1, sourceId := "id" }
  target := Table.empty.insert
    { itemId := 1, playlistProfileId := 1, status := .downloaded }
  artifact := Table.empty.insert
    { targetId := 1, storageId := 1, relativePath }

/-- The tasks of a pipeline whose publish has ended at this path. -/
def publishedAt (relativePath : String) (db : Database) : Database :=
  { db with
    target := db.target.modify 1 fun row => { row with status := .processing }
    task := (Table.empty.insert
      { type := .publish, targetRefType := "target", targetRefId := 1,
        payloadJson := some
          [("file_path", .str "/staging/work/clip.mp4"),
            ("storage_id", .int 1), ("relative_path", .str relativePath)],
        workerClass := .network, status := .succeeded }).insert
      { type := .index, targetRefType := "target", targetRefId := 1,
        workerClass := .network, status := .running,
        dependsOnTaskId := some 1 } }

/-- A check of a storage with these files. -/
def checkFiles (files : List String) (paths : Nat → String) (now : Time) :
    Event :=
  .check
    { answers :=
        { adapter _ := true
          «exists» key := some (files.contains (paths key))
          listing _ := .ok files
          existsAgain key := some (files.contains (paths key))
          candidateExists _ := some false }
      checkedAt := now
      now }

/-- The file of the only Artifact gets lost, and is published at a path. -/
def redownloadTo (relativePath : String) : List Event :=
  let paths := fun key => if key = 1 then "old [id].mp4" else relativePath
  [checkFiles [] paths 10, .others (publishedAt relativePath),
    .index 2 [("target_id", .int 1), ("work_id", .str "work")] 20,
    checkFiles [relativePath] paths 30]

/-- Published at the path of the missing file, the Target stays. -/
theorem not_sentBack_samePath :
    ∃ state,
      run (step 1 fun _ => none) { db := downloadedAt "old [id].mp4" }
        (redownloadTo "old [id].mp4") = some state ∧
      state.completed = true ∧ state.sentBack = false := by
  refine ⟨_, rfl, rfl, ?_⟩
  exact @not_sentBack 1 (fun _ => none) (downloadedAt "old [id].mp4") _
    (@Steps.of_checked_run _ _ (step 1 fun _ => none) _ _ _ (settles 1)
      (fun _ _ => settles_sound) (redownloadTo "old [id].mp4") rfl)

/-- Published at another path, the Target goes back to PENDING although its
file is there. -/
theorem sentBack_otherPath :
    ∃ state,
      run (step 1 fun _ => none) { db := downloadedAt "old [id].mp4" }
        (redownloadTo "new [id].mp4") = some state ∧
      state.completed = true ∧ state.sentBack = true := by
  refine ⟨_, rfl, rfl, ?_⟩
  rfl

end Sluicery.Tasks.Redownload
