import Sluicery.Core.FolderMoveExecution
import Sluicery.Core.FolderMovePrefix
import Sluicery.Layout.Subpath

/-!
# Moving a folder back

A completed execution changes the paths of the candidates and the name of the
Playlist, and nothing else the query reads.  A movable plan for the former
name therefore restores every path.
-/

namespace Sluicery.Core.FolderMove

open Sluicery.Library Sluicery.Library.Transition
open Sluicery.Db Sluicery.Storage

/-! ## What a move leaves as it is -/

section Renames

variable (fingerprint : StorageKind → Option Json.Fields → String)

/-- The tables of the query are as before, but for paths and names. -/
structure Kept (before after : Database) : Prop where
  item : after.item = before.item
  target : after.target = before.target
  assignment : after.playlistProfile = before.playlistProfile
  profile : after.profile = before.profile
  storage : after.storage = before.storage
  owner : ∀ key, (after.artifact.get key).map ArtifactRow.targetId =
    (before.artifact.get key).map ArtifactRow.targetId

/-- The Playlist with the new name. -/
def renamed (plan : FolderMovePlan) (now : Time) (playlist : PlaylistRow) :
    PlaylistRow :=
  { playlist with
    folderName := plan.newFolderName
    updatedAt := now }

/-- An execution renames the Playlist at its end and changes no other row. -/
structure Renames (before : Database) (plan : FolderMovePlan)
    (execution : Execution) : Prop where
  samePlan : execution.plan = plan
  kept : Kept before execution.db
  running : execution.outcome = none →
    execution.db.playlist = before.playlist
  succeeded : execution.outcome = some .succeeded → ∃ now,
    execution.db.playlist =
      before.playlist.modify plan.playlistId (renamed plan now)

theorem renames_start
    {db : Database} {files : Files StoredFile} {plan : FolderMovePlan}
    {now : Time} {execution : Execution}
    (started : start fingerprint db files plan now = .ok execution) :
    Renames db plan execution := by
  rw [start] at started
  split at started
  · cases started
  · split at started
    · cases started
    · split at started
      · cases started
      · dsimp only at started
        split at started
        · cases started
        · split at started
          · cases started
          · cases started
            exact
              { samePlan := rfl
                kept := ⟨rfl, rfl, rfl, rfl, rfl, fun _ => rfl⟩
                running := fun _ => rfl
                succeeded := fun ended => by cases ended }

/-- Moving an Artifact leaves its Target. -/
theorem Kept.commitMove
    {before : Database} {execution : Execution}
    (kept : Kept before execution.db) (candidate : FolderMoveCandidate)
    (now : Time) : Kept before (commitMove execution candidate now) where
  item := kept.item
  target := kept.target
  assignment := kept.assignment
  profile := kept.profile
  storage := kept.storage
  owner := by
    intro key
    rw [← kept.owner key, FolderMove.commitMove, Table.get_modify]
    split
    · rw [Option.map_map]
      congr 1
      ext row
      exact column_touchArtifact ArtifactRow.targetId (fun _ _ => rfl) _ _ _
    · rfl

theorem Renames.perform
    {before : Database} {plan : FolderMovePlan}
    {execution next : Execution} {logPath : String} {now : Time}
    (renames : Renames before plan execution)
    (isRunning : execution.outcome = none)
    (performed : execution.perform fingerprint logPath now = some next) :
    Renames before plan next := by
  have unchanged := renames.running isRunning
  have samePlan := renames.samePlan
  rw [Execution.perform.eq_def] at performed
  split at performed
  · cases performed
    exact
      { samePlan := samePlan
        kept := { renames.kept with }
        running := fun _ => unchanged
        succeeded := by simp [isRunning] }
  · split at performed
    · cases performed
      exact
        { samePlan := samePlan
          kept := { renames.kept with }
          running := by simp
          succeeded := fun _ => ⟨now, by
            rw [commitName, unchanged, samePlan]
            rfl⟩ }
    · cases performed
  · split at performed
    · cases performed
      exact
        { samePlan := samePlan
          kept := { renames.kept with }
          running := fun _ => unchanged
          succeeded := by simp [isRunning] }
    · cases performed
  · rcases Option.map_eq_some_iff.mp performed with ⟨files, -, rfl⟩
    exact
      { samePlan := samePlan
        kept := renames.kept
        running := fun _ => unchanged
        succeeded := by simp [isRunning] }
  · split at performed
    · cases performed
      exact
        { samePlan := samePlan
          kept := renames.kept.commitMove _ now
          running := fun _ => unchanged
          succeeded := by simp [isRunning] }
    · cases performed
  · cases performed

/-- A failure keeps the rows as they are. -/
theorem Renames.fail
    {before : Database} {plan : FolderMovePlan} {execution : Execution}
    (samePlan : execution.plan = plan) (kept : Kept before execution.db)
    (now : Time) : Renames before plan (execution.fail now) where
  samePlan := samePlan
  kept := { kept with }
  running := by simp [Execution.fail]
  succeeded := by simp [Execution.fail]

theorem Renames.step
    {before : Database} {plan : FolderMovePlan}
    {execution next : Execution} {event : Event}
    (renames : Renames before plan execution)
    (taken : FolderMove.step fingerprint execution event = some next) :
    Renames before plan next := by
  cases event with
  | proceed logPath now =>
      rw [FolderMove.step] at taken
      split at taken
      · cases taken
      · next isRunning =>
          split at taken
          · next performed =>
              cases taken
              exact renames.perform fingerprint (by simpa using isRunning)
                performed
          · cases taken
            exact Renames.fail renames.samePlan renames.kept now
  | raise tookEffect logPath now =>
      rw [FolderMove.step] at taken
      split at taken
      · cases taken
      · next isRunning =>
          split at taken
          · next after performed =>
              cases taken
              have renamesAfter := renames.perform fingerprint
                (by simpa using isRunning) performed
              cases tookEffect with
              | false => exact Renames.fail renames.samePlan renames.kept now
              | true =>
                  have samePlan : (execution.afterEffect after).plan = plan :=
                    renames.samePlan
                  exact Renames.fail samePlan renamesAfter.kept now
          · cases taken
            exact Renames.fail renames.samePlan renames.kept now
  | outside files =>
      cases taken
      exact { renames with }

/-- A completed execution has renamed the Playlist. -/
theorem renames_of_completed
    {db : Database} {files : Files StoredFile} {plan : FolderMovePlan}
    {now : Time} {execution finish : Execution}
    (started : start fingerprint db files plan now = .ok execution)
    (steps : Steps (FolderMove.step fingerprint) (fun _ _ => True) execution
      finish) :
    Renames db plan finish :=
  steps.invariant (Renames db plan) (renames_start fingerprint started)
    fun _ _ _ renames _ taken => renames.step fingerprint taken

end Renames

section Main

variable {sanitizeComponent : String → Except String String}
  {resolveSubpath : (subpath playlistName folderName profileName : String) →
    ProfileKind → Except String String}
  {fingerprint : StorageKind → Option Json.Fields → String}
  {db : Database} {playlistId : Nat} {newFolderName : String}
  {plan : FolderMovePlan}

/-- The row of a candidate after a completed move. -/
theorem isSnapshot_moved
    {finish : Execution} {row : PlanRowSnapshot}
    {candidate : FolderMoveCandidate}
    (kept : Kept db finish.db)
    (relocated : Relocated db.artifact finish.db.artifact plan.candidates)
    (distinct : (plan.candidates.map fun candidate =>
      candidate.artifactId).Nodup)
    (isCandidate : candidate ∈ plan.candidates)
    (isRow : IsSnapshot db plan.playlistId row)
    (sameArtifact : candidate.artifactId = row.artifactId)
    (sameStorage : candidate.storageId = row.artifact.storageId) :
    ∃ artifact, artifact.relativePath = candidate.destinationPath ∧
      artifact.storageId = row.artifact.storageId ∧
      IsSnapshot finish.db plan.playlistId { row with artifact } := by
  rcases relocated.moved candidate isCandidate with
    ⟨other, isOther, same, artifact, found, storageId, path⟩
  have isSame : other = candidate :=
    List.inj_on_of_nodup_map distinct isOther isCandidate same
  subst isSame
  use artifact, path, storageId.trans sameStorage
  have owner := kept.owner row.artifactId
  rw [← sameArtifact, found, sameArtifact, isRow.artifact, Option.map_some,
    Option.map_some, Option.some.injEq] at owner
  constructor
  · rw [← sameArtifact]
    exact found
  · rw [kept.target, owner]
    exact isRow.target
  · rw [kept.item]
    exact isRow.item
  · rw [kept.assignment]
    exact isRow.assignment
  · rw [kept.profile]
    exact isRow.profile
  · rw [kept.storage, storageId, sameStorage]
    exact isRow.storage

/-- A plan for the former name sends a moved Artifact back. -/
theorem Planned.restores
    {playlist : PlaylistRow} {backPlan : FolderMovePlan}
    {candidate : FolderMoveCandidate}
    (planned : Planned resolveSubpath fingerprint db playlistId
      newFolderName plan playlist)
    (distinct : (plan.candidates.map fun candidate =>
      candidate.artifactId).Nodup)
    {finish : Execution} (renames : Renames db plan finish)
    (completed : finish.outcome = some .succeeded)
    (relocated : Relocated db.artifact finish.db.artifact plan.candidates)
    {later : PlaylistRow}
    (plannedBack : Planned resolveSubpath fingerprint finish.db
      plan.playlistId plan.oldFolderName backPlan later)
    (movable : backPlan.movable = true)
    (isCandidate : candidate ∈ plan.candidates) :
    ∃ back ∈ backPlan.candidates,
      back.artifactId = candidate.artifactId ∧
      back.source = candidate.destination ∧
      back.storageId = candidate.storageId ∧
      back.destinationPath =
        (PurePosixPath.ofString candidate.sourcePath).asPosix := by
  rcases planned.relocated isCandidate with
    ⟨row, isRow, destination, isPlaced, isRelocation⟩
  have sameArtifact : candidate.artifactId = row.artifactId :=
    congrArg Relocation.artifactId isRelocation
  have sameStorage : candidate.storageId = row.artifact.storageId :=
    congrArg Relocation.storageId isRelocation
  have sameSource : candidate.sourcePath = row.artifact.relativePath :=
    congrArg Relocation.sourcePath isRelocation
  have sameDestination : candidate.destinationPath = destination :=
    congrArg Relocation.destinationPath isRelocation
  rcases isSnapshot_moved renames.kept relocated distinct isCandidate isRow
    sameArtifact sameStorage with
    ⟨artifact, path, storageId, isMoved⟩
  -- The Playlist has its new name and no other.
  rcases renames.succeeded completed with ⟨now, playlists⟩
  have found := plannedBack.found
  rw [playlists, Table.get_modify, if_pos rfl, planned.samePlaylist,
    planned.found, Option.map_some, Option.some.injEq] at found
  have isBack : placement resolveSubpath later.name later.folderName
      plan.oldFolderName { row with artifact } =
        .relocated (PurePosixPath.ofString candidate.sourcePath).asPosix := by
    rw [placement_eq_relocated_iff] at isPlaced ⊢
    rcases isPlaced with ⟨assigned, oldPrefix, newPrefix, isOld, isNew,
      differ, replaced⟩
    rw [← found]
    constructor
    · exact assigned.trans storageId.symm
    · use newPrefix, oldPrefix, isNew, isOld, Ne.symm differ
      rw [path, sameDestination, sameSource]
      exact replacePrefix_back replaced
  have noReason : backPlan.blockedReasons = [] := by
    rw [FolderMovePlan.movable, Bool.and_eq_true, List.isEmpty_iff] at movable
    exact movable.2
  have inQuery := (mem_snapshots_iff finish.db plan.playlistId _).mpr isMoved
  rcases plannedBack.accounts.candidate_of_blocked_nil _ _ noReason inQuery
    isBack with ⟨back, isBackCandidate, isBackRelocation⟩
  use back, isBackCandidate
  have backArtifact : back.artifactId = row.artifactId :=
    congrArg Relocation.artifactId isBackRelocation
  have backStorage : back.storageId = artifact.storageId :=
    congrArg Relocation.storageId isBackRelocation
  have backSource : back.sourcePath = artifact.relativePath :=
    congrArg Relocation.sourcePath isBackRelocation
  constructor
  · exact backArtifact.trans sameArtifact.symm
  constructor
  · exact Prod.ext (backStorage.trans (storageId.trans sameStorage.symm))
      (backSource.trans path)
  constructor
  · exact backStorage.trans (storageId.trans sameStorage.symm)
  · exact congrArg Relocation.destinationPath isBackRelocation

/-! ## The main result -/

/-- An execution of the plan has come to its end and left this database. -/
def CompletedBy (fingerprint : StorageKind → Option Json.Fields → String)
    (db : Database) (plan : FolderMovePlan) (after : Database) : Prop :=
  ∃ files now execution finish,
    start fingerprint db files plan now = .ok execution ∧
    Steps (FolderMove.step fingerprint) (fun _ _ => True) execution finish ∧
    finish.outcome = some .succeeded ∧ finish.db = after

/-- A candidate which undoes another one. -/
structure Restores (back candidate : FolderMoveCandidate) : Prop where
  artifactId : back.artifactId = candidate.artifactId
  source : back.source = candidate.destination
  path : PurePosixPath.ofString back.destinationPath =
    PurePosixPath.ofString candidate.sourcePath
  /-- A path in its normal text is restored as it was written. -/
  text : (PurePosixPath.ofString candidate.sourcePath).asPosix =
      candidate.sourcePath →
    back.destination = candidate.source

/--
A plan moves what lies below the old prefix of its assignment to the same
suffix below the new one, to distinct places.  A completed move and a movable
plan for the former name restore every path.  Every Artifact of the playlist
has one verdict.
-/
structure MovesExactly
    (resolveSubpath :
      (subpath playlistName folderName profileName : String) →
        ProfileKind → Except String String)
    (fingerprint : StorageKind → Option Json.Fields → String)
    (db : Database) (playlistId : Nat) (newFolderName : String)
    (plan : FolderMovePlan)
    (plansBack : Database → FolderMovePlan → Prop) : Prop where
  paths : ∃ playlist, db.playlist.get playlistId = some playlist ∧
    plan.oldFolderName = playlist.folderName ∧
    plan.newFolderName = newFolderName ∧
    ∀ candidate ∈ plan.candidates, ∃ row oldPrefix newPrefix suffix,
      IsMove resolveSubpath db playlist plan row oldPrefix newPrefix suffix
        candidate.toRelocation
  distinct : (plan.candidates.map fun candidate => (candidate.storageId,
    PurePosixPath.ofString candidate.destinationPath)).Nodup
  restored : ∀ after, CompletedBy fingerprint db plan after →
    ∀ backPlan, plansBack after backPlan → backPlan.movable = true →
      ∀ candidate ∈ plan.candidates, ∃ back ∈ backPlan.candidates,
        Restores back candidate
  accounted : ForeignKeys db →
    ∃ entries, Accounted db playlistId plan entries

theorem movesExactly_of_build
    {files : Option (Files StoredFile)}
    (built : buildFolderMovePlan sanitizeComponent resolveSubpath
      fingerprint db playlistId newFolderName files = .ok plan) :
    MovesExactly resolveSubpath fingerprint db playlistId newFolderName plan
      fun after backPlan => ∃ backFiles,
        buildFolderMovePlan sanitizeComponent resolveSubpath fingerprint
          after playlistId plan.oldFolderName backFiles = .ok backPlan := by
  rcases planned_of_build built with ⟨playlist, planned⟩
  have distinct := artifactIds_distinct _ _ _ built
  constructor
  · exact ⟨playlist, planned.found, planned.oldName, planned.newName,
      fun candidate => planned.isMove⟩
  · exact planned.destinations (destinations_distinct _ _ _ built)
  · rintro _ ⟨startFiles, now, execution, finish, started, steps, completed,
      rfl⟩ backPlan ⟨backFiles, builtBack⟩ movable candidate isCandidate
    rw [← planned.samePlaylist] at builtBack
    rcases planned_of_build builtBack with ⟨later, plannedBack⟩
    have relocated := relocated_of_completed fingerprint started steps
      completed
    have renames := renames_of_completed fingerprint started steps
    rcases planned.restores distinct renames completed relocated plannedBack
      movable isCandidate with
      ⟨back, isBack, artifactId, source, storageId, path⟩
    use back, isBack
    constructor
    · exact artifactId
    · exact source
    · rw [path]
      exact PurePosixPath.ofString_asPosix
        (PurePosixPath.isNormal_ofString candidate.sourcePath)
    · intro isText
      exact Prod.ext storageId (path.trans isText)
  · exact planned.accounted

end Main

/-! ## The plan with the resolver of the layouts -/

section Layouts

variable (language : Layout.Language) (names : Layout.Names)
  (fingerprint : StorageKind → Option Json.Fields → String)

/-- `profile.kind.value`. -/
def kindValue : ProfileKind → String
  | .video => "video"
  | .music => "music"
  | .other => "other"

/-- The `LayoutContext` of a row. -/
def layoutContext (subpath playlistName folderName profileName : String)
    (kind : ProfileKind) : Options.LayoutContext where
  playlistName := playlistName
  playlistFolderName := folderName
  profileName := profileName
  profileKind := kindValue kind
  subpath := subpath

/-- `resolve_subpath`, of which the messages are handled. -/
def resolver (subpath playlistName folderName profileName : String)
    (kind : ProfileKind) : Except String String :=
  Layout.resolveSubpath (Layout.namesWith language names) subpath
    (layoutContext subpath playlistName folderName profileName kind)

/-- The exception of `resolve_subpath` which is not handled. -/
def raises (playlistName folderName : String) (row : PlanRowSnapshot) :
    Option Layout.PyException :=
  match Layout.resolveSubpathOf language names row.assignment.subpath
      (layoutContext row.assignment.subpath playlistName folderName
        row.profile.name row.profile.kind) with
  | .error (.exception exception) => some exception
  | _ => none

/-- The exception at a row, of which both prefixes are resolved. -/
def rowRaises (playlistName oldName newName : String)
    (row : PlanRowSnapshot) : Option Layout.PyException :=
  if row.assignment.storageId ≠ row.artifact.storageId then none
  else
    match raises language names playlistName oldName row with
    | some exception => some exception
    | none =>
        match resolver language names row.assignment.subpath playlistName
            oldName row.profile.name row.profile.kind with
        | .error _ => none
        | .ok _ => raises language names playlistName newName row

/-- `build_folder_move_plan`; an exception gets out of the loop. -/
def buildFolderMovePlanOf (db : Database) (playlistId : Nat)
    (newFolderName : String) (files : Option (Files StoredFile)) :
    Except String FolderMovePlan :=
  match buildFolderMovePlan (Layout.sanitizeComponent names)
      (resolver language names) fingerprint db playlistId newFolderName
      files with
  | .error message => .error message
  | .ok plan =>
      match (snapshots db playlistId).findSome? (rowRaises language names
          (((db.playlist.get playlistId).map PlaylistRow.name).getD "")
          plan.oldFolderName plan.newFolderName) with
      | some exception => .error exception.message
      | none => .ok plan

/-! ## The main result -/

/-- The plans with the resolver of the layouts move exactly. -/
theorem folder_move_exact
    {db : Database} {playlistId : Nat} {newFolderName : String}
    {files : Option (Files StoredFile)} {plan : FolderMovePlan}
    (built : buildFolderMovePlanOf language names fingerprint db playlistId
      newFolderName files = .ok plan) :
    MovesExactly (resolver language names) fingerprint db playlistId
      newFolderName plan fun after backPlan => ∃ backFiles,
        buildFolderMovePlanOf language names fingerprint after playlistId
          plan.oldFolderName backFiles = .ok backPlan := by
  have inner {db : Database} {newFolderName : String}
      {files : Option (Files StoredFile)} {plan : FolderMovePlan}
      (built : buildFolderMovePlanOf language names fingerprint db playlistId
        newFolderName files = .ok plan) :
      buildFolderMovePlan (Layout.sanitizeComponent names)
        (resolver language names) fingerprint db playlistId newFolderName
        files = .ok plan := by
    rw [buildFolderMovePlanOf] at built
    split at built
    · cases built
    · next planned =>
        split at built
        · cases built
        · cases built
          exact planned
  have exactly := movesExactly_of_build (inner built)
  exact
    { exactly with
      restored := fun after completed backPlan ⟨backFiles, builtBack⟩ =>
        exactly.restored after completed backPlan
          ⟨backFiles, inner builtBack⟩ }

/-- A file in the folder of its playlist and one beside it. -/
def siblings : Database where
  storage := Table.empty.insert { name := "media", kind := .local }
  profile := Table.empty.insert { name := "Video", kind := .video }
  playlist := Table.empty.insert { name := "List", folderName := "old" }
  playlistProfile :=
    Table.empty.insert { playlistId := 1, profileId := 1, storageId := 1 }
  item := Table.empty.insert { playlistId := 1, sourceId := "first" }
  target := Table.empty.insert { itemId := 1, playlistProfileId := 1 }
  artifact :=
    (Table.empty.insert
      { targetId := 1, storageId := 1, relativePath := "old/old.mkv" }).insert
      { targetId := 1, storageId := 1, relativePath := "old-2/old.mkv" }

/-- The preview of a new name for the folder. -/
def previewOf (db : Database) (newFolderName : String) :
    Except String FolderMovePlan :=
  buildFolderMovePlanOf Layout.plainLanguage Layout.plainNames
    (fun _ _ => "config") db 1 newFolderName none

theorem folder_move_exact_siblings :
    ∃ plan, previewOf siblings "new" = .ok plan ∧
      (∃ playlist, siblings.playlist.get 1 = some playlist ∧
        plan.oldFolderName = playlist.folderName ∧
        plan.newFolderName = "new" ∧
        ∀ candidate ∈ plan.candidates, ∃ row oldPrefix newPrefix suffix,
          IsMove (resolver Layout.plainLanguage Layout.plainNames) siblings
            playlist plan row oldPrefix newPrefix suffix
            candidate.toRelocation) ∧
      (plan.candidates.map fun candidate => (candidate.storageId,
        PurePosixPath.ofString candidate.destinationPath)).Nodup := by
  have planned : (previewOf siblings "new").toOption.isSome = true := by
    decide +kernel
  rcases built : previewOf siblings "new" with message | plan
  · rw [built] at planned
    cases planned
  · have exactly := folder_move_exact _ _ _ built
    exact ⟨plan, rfl, exactly.paths, exactly.distinct⟩

end Layouts

end Sluicery.Core.FolderMove
