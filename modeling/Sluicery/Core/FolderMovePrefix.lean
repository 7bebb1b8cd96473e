import Sluicery.Core.FolderMove

/-!
# What a folder move plan does to the paths

The candidates of a plan lie below the old prefix of their assignment by
whole parts, and their destinations have the same suffix below the new one.
Every Artifact of the playlist is a candidate, unaffected, or rejected with a
reason.
-/

namespace Sluicery.Core.FolderMove

open Sluicery.Library Sluicery.Db Sluicery.Storage

/-! ## Prefixes -/

/-- A path is replaced when it is the prefix or below it. -/
theorem replacePrefix_eq_some_iff
    (path oldPrefix newPrefix destination : String) :
    replacePrefix path oldPrefix newPrefix = some destination ↔
      ∃ suffix,
        PurePosixPath.ofString path =
          (PurePosixPath.ofString oldPrefix).under suffix ∧
        destination =
          ((PurePosixPath.ofString newPrefix).under suffix).asPosix := by
  simp only [replacePrefix, Option.map_eq_some_iff,
    PurePosixPath.relativeTo_eq_some_iff, eq_comm (b := destination)]
  rfl

/-- The path of a destination. -/
theorem ofString_destination
    {path oldPrefix : String} {suffix : List String}
    (below : PurePosixPath.ofString path =
      (PurePosixPath.ofString oldPrefix).under suffix)
    (newPrefix : String) :
    PurePosixPath.ofString
        ((PurePosixPath.ofString newPrefix).under suffix).asPosix =
      (PurePosixPath.ofString newPrefix).under suffix := by
  apply PurePosixPath.ofString_asPosix
  apply PurePosixPath.IsNormal.under
  · rw [← below]
    exact PurePosixPath.isNormal_ofString path
  · exact PurePosixPath.isNormal_ofString newPrefix

/-- Replacing the prefixes the other way leads back. -/
theorem replacePrefix_back
    {path oldPrefix newPrefix destination : String}
    (replaced : replacePrefix path oldPrefix newPrefix = some destination) :
    replacePrefix destination newPrefix oldPrefix =
      some (PurePosixPath.ofString path).asPosix := by
  rw [replacePrefix_eq_some_iff] at replaced ⊢
  rcases replaced with ⟨suffix, below, rfl⟩
  use suffix
  constructor
  · exact ofString_destination below newPrefix
  · rw [below]

/-! ## Verdicts about the rows -/

/-- The row is a candidate. -/
def Verdict.isCandidate : Verdict → Bool
  | .candidate _ => true
  | _ => false

/-- The reason of a rejection. -/
def Verdict.reason : Verdict → Option String
  | .rejected reason => some reason
  | _ => none

section Collect

variable (fingerprint : StorageKind → Option Json.Fields → String)
  (place : PlanRowSnapshot → Placement)

/-- The relocation of a row with its verdict. -/
def relocationOfVerdict (entry : PlanRowSnapshot × Verdict) :
    Option Relocation :=
  match entry.2 with
  | .candidate destination => some (relocationOf fingerprint entry.1 destination)
  | _ => none

/-- The lists of a loop are those of the verdicts. -/
structure Accounts (entries : List (PlanRowSnapshot × Verdict))
    (collected : Collected) : Prop where
  candidates : collected.candidates.map FolderMoveCandidate.toRelocation =
    entries.filterMap (relocationOfVerdict fingerprint)
  unaffected : collected.unaffected =
    entries.countP fun entry => entry.2 = .unaffected
  rejected : (entries.filterMap fun entry => entry.2.reason).Sublist
    collected.blocked

theorem accounts_verdicts
    (examined : PlanRowSnapshot → String →
      Option (Except String (RemoteFile × Bool)))
    (rows : List PlanRowSnapshot) (taken : List Place) :
    Accounts fingerprint (verdicts place rows taken)
      (collect fingerprint place examined rows taken) := by
  induction rows generalizing taken with
  | nil =>
      constructor
      · rfl
      · rfl
      · exact List.Sublist.slnil
  | cons row rest induction =>
      cases isPlaced : place row with
      | blocked reason =>
          have later := induction taken
          simp only [verdicts, collect, isPlaced]
          constructor
          · exact later.candidates
          · simpa using later.unaffected
          · exact later.rejected.cons_cons reason
      | unaffected =>
          have later := induction taken
          simp only [verdicts, collect, isPlaced]
          constructor
          · exact later.candidates
          · simpa using later.unaffected
          · exact later.rejected
      | relocated destination =>
          by_cases isTaken : (row.artifact.storageId, destination) ∈ taken
          · have later := induction taken
            simp only [verdicts, collect, isPlaced, if_pos isTaken]
            constructor
            · exact later.candidates
            · simpa using later.unaffected
            · exact later.rejected.cons_cons _
          · have later := induction
              ((row.artifact.storageId, destination) :: taken)
            simp only [verdicts, collect, isPlaced, if_neg isTaken]
            constructor
            · rw [List.map_cons, later.candidates]
              rfl
            · simpa using later.unaffected
            · dsimp only
              split
              · exact later.rejected.cons _
              · exact later.rejected

/-- Every row has its verdict. -/
theorem rows_verdicts (rows : List PlanRowSnapshot) (taken : List Place) :
    (verdicts place rows taken).map Prod.fst = rows := by
  induction rows generalizing taken with
  | nil => rfl
  | cons row rest induction =>
      rw [verdicts]
      split
      · rw [List.map_cons, induction]
      · rw [List.map_cons, induction]
      · dsimp only
        split
        · rw [List.map_cons, induction]
        · rw [List.map_cons, induction]

/-- A verdict follows the placement of its row. -/
def Follows (entry : PlanRowSnapshot × Verdict) : Prop :=
  match place entry.1 with
  | .blocked reason => entry.2 = .rejected reason
  | .unaffected => entry.2 = .unaffected
  | .relocated destination =>
      entry.2 = .candidate destination ∨ ∃ reason, entry.2 = .rejected reason

theorem follows_verdicts
    (rows : List PlanRowSnapshot) (taken : List Place) :
    ∀ entry ∈ verdicts place rows taken, Follows place entry := by
  induction rows generalizing taken with
  | nil => simp [verdicts]
  | cons row rest induction =>
      rw [verdicts]
      split
      case h_1 _ isPlaced =>
        rw [List.forall_mem_cons]
        constructor
        · rw [Follows, isPlaced]
        · exact induction taken
      case h_2 isPlaced =>
        rw [List.forall_mem_cons]
        constructor
        · rw [Follows, isPlaced]
        · exact induction taken
      case h_3 destination isPlaced =>
        dsimp only
        split
        · rw [List.forall_mem_cons]
          constructor
          · rw [Follows, isPlaced]
            exact Or.inr ⟨_, rfl⟩
          · exact induction taken
        · rw [List.forall_mem_cons]
          constructor
          · rw [Follows, isPlaced]
            exact Or.inl rfl
          · exact induction _

theorem artifactIds_relocations
    (entries : List (PlanRowSnapshot × Verdict)) :
    (entries.filterMap (relocationOfVerdict fingerprint)).map
        Relocation.artifactId =
      ((entries.map fun entry => (entry.1.artifactId, entry.2)).filter
        fun entry => entry.2.isCandidate).map Prod.fst := by
  induction entries with
  | nil => rfl
  | cons entry rest induction =>
      rcases entry with ⟨row, verdict⟩
      cases verdict with
      | candidate destination => exact congrArg (List.cons _) induction
      | unaffected => exact induction
      | rejected reason => exact induction

/-- Without a reason no row is rejected. -/
theorem Accounts.candidate_of_blocked_nil
    {rows : List PlanRowSnapshot} {collected : Collected}
    (accounts : Accounts fingerprint (verdicts place rows []) collected)
    (noReason : collected.blocked = [])
    {row : PlanRowSnapshot} (isRow : row ∈ rows) {destination : String}
    (isPlaced : place row = .relocated destination) :
    ∃ candidate ∈ collected.candidates,
      candidate.toRelocation = relocationOf fingerprint row destination := by
  rw [← rows_verdicts place rows []] at isRow
  rcases List.mem_map.mp isRow with ⟨⟨same, verdict⟩, member, rfl⟩
  have follows := follows_verdicts place rows [] _ member
  rw [Follows, isPlaced] at follows
  rcases follows with isCandidate | ⟨reason, isRejected⟩
  · have relocation : relocationOf fingerprint same destination ∈
        collected.candidates.map FolderMoveCandidate.toRelocation := by
      rw [accounts.candidates, List.mem_filterMap]
      exact ⟨_, member, by rw [relocationOfVerdict, isCandidate]⟩
    exact List.mem_map.mp relocation
  · have rejected := accounts.rejected
    rw [noReason, List.sublist_nil, List.filterMap_eq_nil_iff] at rejected
    have none := rejected _ member
    rw [isRejected] at none
    cases none

/-- A candidate is a row with its destination. -/
theorem Accounts.placed
    {rows : List PlanRowSnapshot} {collected : Collected}
    (accounts : Accounts fingerprint (verdicts place rows []) collected)
    {candidate : FolderMoveCandidate}
    (isCandidate : candidate ∈ collected.candidates) :
    ∃ row ∈ rows, ∃ destination, place row = .relocated destination ∧
      candidate.toRelocation = relocationOf fingerprint row destination := by
  have relocation := List.mem_map_of_mem
    (f := FolderMoveCandidate.toRelocation) isCandidate
  rw [accounts.candidates, List.mem_filterMap] at relocation
  rcases relocation with ⟨⟨row, verdict⟩, member, isRelocation⟩
  have isRow := List.mem_map_of_mem (f := Prod.fst) member
  rw [rows_verdicts] at isRow
  use row, isRow
  have follows := follows_verdicts place rows [] _ member
  rw [Follows] at follows
  cases verdict with
  | candidate destination =>
      have same := Option.some.inj isRelocation
      use destination
      split at follows
      · cases follows
      · cases follows
      · next other isPlaced =>
          rcases follows with sameVerdict | ⟨reason, different⟩
          · cases sameVerdict
            exact ⟨isPlaced, same.symm⟩
          · cases different
  | unaffected => cases isRelocation
  | rejected reason => cases isRelocation

end Collect

/-! ## The rows of a plan -/

section Plan

variable {sanitizeComponent : String → Except String String}
  {resolveSubpath : (subpath playlistName folderName profileName : String) →
    ProfileKind → Except String String}
  {fingerprint : StorageKind → Option Json.Fields → String}

/-- A row of the query, by the tables. -/
structure IsSnapshot (db : Database) (playlistId : Nat)
    (row : PlanRowSnapshot) : Prop where
  artifact : db.artifact.get row.artifactId = some row.artifact
  target : db.target.get row.artifact.targetId = some row.target
  item : ∃ item, db.item.get row.target.itemId = some item ∧
    item.playlistId = playlistId
  assignment : db.playlistProfile.get row.target.playlistProfileId =
    some row.assignment
  profile : db.profile.get row.assignment.profileId = some row.profile
  storage : db.storage.get row.artifact.storageId = some row.storage

theorem mem_snapshots_iff
    (db : Database) (playlistId : Nat) (row : PlanRowSnapshot) :
    row ∈ snapshots db playlistId ↔ IsSnapshot db playlistId row := by
  rw [snapshots, List.mem_filterMap]
  constructor
  · rintro ⟨entry, isEntry, joined⟩
    simp only [snapshotOf, Option.bind_eq_bind, Option.bind_eq_some_iff]
      at joined
    rcases joined with ⟨target, foundTarget, item, foundItem, assignment,
      foundAssignment, profile, foundProfile, storage, foundStorage, selected⟩
    split at selected
    · next playlist =>
        cases selected
        exact
          { artifact := (Table.get_eq_some_iff _ _ _).mpr isEntry
            target := foundTarget
            item := ⟨item, foundItem, playlist⟩
            assignment := foundAssignment
            profile := foundProfile
            storage := foundStorage }
    · cases selected
  · intro holds
    rcases holds.item with ⟨item, foundItem, playlist⟩
    use (row.artifactId, row.artifact)
    constructor
    · exact (Table.get_eq_some_iff _ _ _).mp holds.artifact
    · simp [snapshotOf, holds.target, foundItem, holds.assignment,
        holds.profile, holds.storage, playlist]

/-- The Artifact belongs to an item of the playlist. -/
def IsArtifactOf (db : Database) (playlistId artifactId : Nat) : Prop :=
  ∃ artifact target item, db.artifact.get artifactId = some artifact ∧
    db.target.get artifact.targetId = some target ∧
    db.item.get target.itemId = some item ∧ item.playlistId = playlistId

/-- The foreign keys on which the query depends. -/
structure ForeignKeys (db : Database) : Prop where
  assignment {key : Nat} {target : TargetRow}
    (found : db.target.get key = some target) :
    (db.playlistProfile.get target.playlistProfileId).isSome
  profile {key : Nat} {assignment : PlaylistProfileRow}
    (found : db.playlistProfile.get key = some assignment) :
    (db.profile.get assignment.profileId).isSome
  storage {key : Nat} {artifact : ArtifactRow}
    (found : db.artifact.get key = some artifact) :
    (db.storage.get artifact.storageId).isSome

/-- The query finds every Artifact of the playlist. -/
theorem mem_artifactIds_iff
    {db : Database} (keys : ForeignKeys db) (playlistId artifactId : Nat) :
    artifactId ∈ (snapshots db playlistId).map
        PlanRowSnapshot.artifactId ↔
      IsArtifactOf db playlistId artifactId := by
  simp only [List.mem_map, mem_snapshots_iff]
  constructor
  · rintro ⟨row, holds, rfl⟩
    rcases holds.item with ⟨item, foundItem, playlist⟩
    exact ⟨row.artifact, row.target, item, holds.artifact, holds.target,
      foundItem, playlist⟩
  · rintro ⟨artifact, target, item, foundArtifact, foundTarget, foundItem,
      playlist⟩
    rcases Option.isSome_iff_exists.mp (keys.assignment foundTarget) with
      ⟨assignment, foundAssignment⟩
    rcases Option.isSome_iff_exists.mp (keys.profile foundAssignment) with
      ⟨profile, foundProfile⟩
    rcases Option.isSome_iff_exists.mp (keys.storage foundArtifact) with
      ⟨storage, foundStorage⟩
    use { artifactId, artifact, target, assignment, profile, storage }
    constructor
    · exact
        { artifact := foundArtifact
          target := foundTarget
          item := ⟨item, foundItem, playlist⟩
          assignment := foundAssignment
          profile := foundProfile
          storage := foundStorage }
    · rfl

/-- A row is relocated below its two prefixes. -/
theorem placement_eq_relocated_iff
    (playlistName oldName newName : String) (row : PlanRowSnapshot)
    (destination : String) :
    placement resolveSubpath playlistName oldName newName row =
        .relocated destination ↔
      row.assignment.storageId = row.artifact.storageId ∧
        ∃ oldPrefix newPrefix,
          resolveSubpath row.assignment.subpath playlistName oldName
            row.profile.name row.profile.kind = .ok oldPrefix ∧
          resolveSubpath row.assignment.subpath playlistName newName
            row.profile.name row.profile.kind = .ok newPrefix ∧
          oldPrefix ≠ newPrefix ∧
          replacePrefix row.artifact.relativePath oldPrefix newPrefix =
            some destination := by
  rw [placement]
  constructor
  · intro placed
    split at placed
    · cases placed
    · next sameStorage =>
        dsimp only at placed
        split at placed
        · next oldPrefix newPrefix isOld isNew =>
            split at placed
            · cases placed
            · next differ =>
                split at placed
                · cases placed
                · next replaced =>
                    cases placed
                    exact ⟨not_ne_iff.mp sameStorage, oldPrefix, newPrefix,
                      isOld, isNew, differ, replaced⟩
        · cases placed
        · cases placed
  · rintro ⟨sameStorage, oldPrefix, newPrefix, isOld, isNew, differ, replaced⟩
    rw [if_neg (not_not_intro sameStorage)]
    simp only [isOld, isNew, if_neg differ, replaced]

/-- What a plan is made of. -/
structure Planned
    (resolveSubpath :
      (subpath playlistName folderName profileName : String) →
        ProfileKind → Except String String)
    (fingerprint : StorageKind → Option Json.Fields → String)
    (db : Database) (playlistId : Nat) (newFolderName : String)
    (plan : FolderMovePlan) (playlist : PlaylistRow) : Prop where
  samePlaylist : plan.playlistId = playlistId
  found : db.playlist.get playlistId = some playlist
  oldName : plan.oldFolderName = playlist.folderName
  newName : plan.newFolderName = newFolderName
  accounts : Accounts fingerprint
    (verdicts
      (placement resolveSubpath playlist.name playlist.folderName
        newFolderName) (snapshots db playlistId) [])
    { candidates := plan.candidates
      unaffected := plan.unaffectedCount
      blocked := plan.blockedReasons }

theorem planned_of_build
    {db : Database} {playlistId : Nat} {newFolderName : String}
    {files : Option (Files StoredFile)} {plan : FolderMovePlan}
    (built : buildFolderMovePlan sanitizeComponent resolveSubpath
      fingerprint db playlistId newFolderName files = .ok plan) :
    ∃ playlist, Planned resolveSubpath fingerprint db playlistId
      newFolderName plan playlist := by
  rw [buildFolderMovePlan] at built
  split at built
  · cases built
  · next playlist found =>
      split at built
      · cases built
      · next normalized sanitized =>
          split at built
          · cases built
          · next same =>
              split at built
              · cases built
              · cases built
                rw [not_ne_iff] at same
                subst same
                use playlist
                constructor
                · rfl
                · exact found
                · rfl
                · rfl
                · exact accounts_verdicts fingerprint _ _ _ _

/-! ## The paths of the candidates -/

/-- The row of a candidate and the two prefixes of its paths. -/
structure IsMove
    (resolveSubpath :
      (subpath playlistName folderName profileName : String) →
        ProfileKind → Except String String)
    (db : Database) (playlist : PlaylistRow) (plan : FolderMovePlan)
    (row : PlanRowSnapshot) (oldPrefix newPrefix : String)
    (suffix : List String) (candidate : Relocation) : Prop where
  isRow : IsSnapshot db plan.playlistId row
  artifactId : candidate.artifactId = row.artifactId
  storageId : candidate.storageId = row.artifact.storageId
  sourcePath : candidate.sourcePath = row.artifact.relativePath
  isOld : resolveSubpath row.assignment.subpath playlist.name
    plan.oldFolderName row.profile.name row.profile.kind = .ok oldPrefix
  isNew : resolveSubpath row.assignment.subpath playlist.name
    plan.newFolderName row.profile.name row.profile.kind = .ok newPrefix
  source : PurePosixPath.ofString candidate.sourcePath =
    (PurePosixPath.ofString oldPrefix).under suffix
  destination : PurePosixPath.ofString candidate.destinationPath =
    (PurePosixPath.ofString newPrefix).under suffix
  destinationText : candidate.destinationPath =
    (PurePosixPath.ofString candidate.destinationPath).asPosix

variable {db : Database} {playlistId : Nat} {newFolderName : String}
  {plan : FolderMovePlan} {playlist : PlaylistRow}

/-- A candidate comes from a row which is relocated. -/
theorem Planned.relocated
    (planned : Planned resolveSubpath fingerprint db playlistId
      newFolderName plan playlist)
    {candidate : FolderMoveCandidate}
    (isCandidate : candidate ∈ plan.candidates) :
    ∃ row, IsSnapshot db plan.playlistId row ∧
      ∃ destination,
        placement resolveSubpath playlist.name plan.oldFolderName
          plan.newFolderName row = .relocated destination ∧
        candidate.toRelocation =
          relocationOf fingerprint row destination := by
  rcases planned.accounts.placed _ _ isCandidate with
    ⟨row, isRow, destination, isPlaced, isRelocation⟩
  rw [mem_snapshots_iff, ← planned.samePlaylist] at isRow
  rw [← planned.oldName, ← planned.newName] at isPlaced
  exact ⟨row, isRow, destination, isPlaced, isRelocation⟩

theorem Planned.isMove
    (planned : Planned resolveSubpath fingerprint db playlistId
      newFolderName plan playlist)
    {candidate : FolderMoveCandidate}
    (isCandidate : candidate ∈ plan.candidates) :
    ∃ row oldPrefix newPrefix suffix,
      IsMove resolveSubpath db playlist plan row oldPrefix newPrefix suffix
        candidate.toRelocation := by
  rcases planned.relocated isCandidate with
    ⟨row, isRow, destination, isPlaced, isRelocation⟩
  rw [placement_eq_relocated_iff] at isPlaced
  rcases isPlaced with ⟨-, oldPrefix, newPrefix, isOld, isNew, -, replaced⟩
  rw [replacePrefix_eq_some_iff] at replaced
  rcases replaced with ⟨suffix, below, rfl⟩
  have same := ofString_destination below newPrefix
  use row, oldPrefix, newPrefix, suffix
  rw [isRelocation]
  exact
    { isRow := isRow
      artifactId := rfl
      storageId := rfl
      sourcePath := rfl
      isOld := isOld
      isNew := isNew
      source := below
      destination := same
      destinationText := congrArg PurePosixPath.asPosix same.symm }

/-- The destinations are distinct as paths, storage by storage. -/
theorem Planned.destinations
    (planned : Planned resolveSubpath fingerprint db playlistId
      newFolderName plan playlist)
    (distinct : (plan.candidates.map fun candidate =>
      candidate.destination).Nodup) :
    (plan.candidates.map fun candidate => (candidate.storageId,
      PurePosixPath.ofString candidate.destinationPath)).Nodup := by
  rw [List.Nodup, List.pairwise_map] at distinct ⊢
  apply distinct.imp_of_mem
  intro left right isLeft isRight different same
  rcases planned.isMove isLeft with ⟨_, _, _, _, leftMove⟩
  rcases planned.isMove isRight with ⟨_, _, _, _, rightMove⟩
  have samePath := congrArg (PurePosixPath.asPosix ∘ Prod.snd) same
  rw [Function.comp_apply, Function.comp_apply, ← leftMove.destinationText,
    ← rightMove.destinationText] at samePath
  have sameStorage : left.storageId = right.storageId :=
    congrArg Prod.fst same
  exact different (Prod.ext sameStorage samePath)

/--
Every Artifact of the playlist has one verdict, and the plan's lists and
counts are those of the verdicts.
-/
structure Accounted (db : Database) (playlistId : Nat)
    (plan : FolderMovePlan) (entries : List (Nat × Verdict)) : Prop where
  distinct : (entries.map Prod.fst).Nodup
  complete : ∀ artifactId, artifactId ∈ entries.map Prod.fst ↔
    IsArtifactOf db playlistId artifactId
  candidates : plan.candidates.map (fun candidate => candidate.artifactId) =
    (entries.filter fun entry => entry.2.isCandidate).map Prod.fst
  unaffected : plan.unaffectedCount =
    entries.countP fun entry => entry.2 = .unaffected
  rejected : (entries.filterMap fun entry => entry.2.reason).Sublist
    plan.blockedReasons

theorem Planned.accounted
    (planned : Planned resolveSubpath fingerprint db playlistId
      newFolderName plan playlist)
    (keys : ForeignKeys db) :
    ∃ entries, Accounted db playlistId plan entries := by
  generalize isList : verdicts
    (placement resolveSubpath playlist.name playlist.folderName
      newFolderName) (snapshots db playlistId) [] = list
  have accounts := planned.accounts
  have rows := rows_verdicts
    (placement resolveSubpath playlist.name playlist.folderName
      newFolderName) (snapshots db playlistId) []
  rw [isList] at accounts rows
  use list.map fun entry => (entry.1.artifactId, entry.2)
  have ids : (list.map fun entry =>
      (entry.1.artifactId, entry.2)).map Prod.fst =
        (snapshots db playlistId).map PlanRowSnapshot.artifactId := by
    rw [← rows, List.map_map, List.map_map]
    rfl
  constructor
  · rw [ids]
    exact artifactIds_snapshots db playlistId
  · rw [ids]
    exact mem_artifactIds_iff keys playlistId
  · rw [← artifactIds_relocations fingerprint, ← accounts.candidates,
      List.map_map]
    rfl
  · rw [List.countP_map]
    exact accounts.unaffected
  · rw [List.filterMap_map]
    exact accounts.rejected

end Plan

end Sluicery.Core.FolderMove
