import Sluicery.Scheduler.Jobs

/-!
# The jobs which a configuration wants

One job for each runnable playlist and kind whose cron expression is valid,
and the two maintenance jobs.  Their ids are all different.
-/

namespace Sluicery.Scheduler

open Sluicery.Library Sluicery.Db

/-- A job which is wanted. -/
structure Wanted where
  id : String
  func : JobFunction
  args : List Argument
  expression : String

section Wanted

variable {Offset : Type} (environment : Environment Offset)
  (configuration : Configuration)

/-- A wanted job, if its expression is valid. -/
def ifValid (wanted : Wanted) : Option Wanted :=
  if environment.validCrontab wanted.expression then some wanted else none

/-- The job of a playlist and a kind. -/
def playlistJob (item : (Nat × PlaylistRow) × Kind) : Wanted where
  id := playlistJobId item.1.1 item.2
  func := .dispatchScheduledJob
  args := playlistArgs item.1.1 item.2
  expression := configuration.expression item.1.2 item.2

def integrityJob : Wanted where
  id := integrityJobId
  func := .dispatchIntegrityJob
  args := []
  expression := configuration.scheduleIntegrityCron

def ytdlpUpdateJob : Wanted where
  id := ytdlpUpdateJobId
  func := .dispatchYtdlpUpdateJob
  args := []
  expression := configuration.ytdlpUpdateCron

/-- The jobs of the playlists. -/
def playlistJobs (items : List ((Nat × PlaylistRow) × Kind)) : List Wanted :=
  items.filterMap fun item =>
    ifValid environment (playlistJob configuration item)

/-- The update job is not wanted without an expression. -/
def updateJobs : Option Wanted :=
  if Core.Settings.isBlank configuration.ytdlpUpdateCron then none
  else ifValid environment (ytdlpUpdateJob configuration)

/-- All jobs which are wanted. -/
def wantedJobs : List Wanted :=
  playlistJobs environment configuration configuration.playlistKinds ++
    (ifValid environment (integrityJob configuration)).toList ++
    (updateJobs environment configuration).toList

/-- A job which `reconcile` is responsible for. -/
def isManaged (id : String) : Bool :=
  hasJobPrefix id || id == integrityJobId || id == ytdlpUpdateJobId

/-! ## Ids -/

theorem hasJobPrefix_playlistJobId (playlistId : Nat) (kind : Kind) :
    hasJobPrefix (playlistJobId playlistId kind) = true := by
  rw [hasJobPrefix, List.isPrefixOf_iff_prefix, playlistJobId,
    String.append_assoc, String.append_assoc, String.toList_append]
  exact List.prefix_append _ _

theorem hasJobPrefix_integrityJobId : hasJobPrefix integrityJobId = false := by
  decide

theorem hasJobPrefix_ytdlpUpdateJobId :
    hasJobPrefix ytdlpUpdateJobId = false := by
  decide

theorem integrityJobId_ne_ytdlpUpdateJobId :
    integrityJobId ≠ ytdlpUpdateJobId := by
  decide

theorem length_text (kind : Kind) : kind.text.toList.length = 8 := by
  cases kind with
  | discover => rfl
  | download => rfl

/-- Two playlists or kinds have different ids. -/
theorem playlistJobId_inj {first second : Nat} {kind other : Kind}
    (same : playlistJobId first kind = playlistJobId second other) :
    first = second ∧ kind = other := by
  have lists := congrArg String.toList same
  simp only [playlistJobId, String.toList_append] at lists
  have parts := List.append_inj' lists (by rw [length_text, length_text])
  have texts := String.toList_inj.1 parts.2
  have numbers := List.append_cancel_left (List.append_cancel_right parts.1)
  constructor
  · exact Keyed.repr_injective (String.toList_inj.1 numbers)
  · cases kind with
    | discover =>
        cases other with
        | discover => rfl
        | download => exact absurd texts (by decide)
    | download =>
        cases other with
        | discover => exact absurd texts (by decide)
        | download => rfl

theorem mem_playlistKinds_iff
    {entries : List (Nat × PlaylistRow)} {item : (Nat × PlaylistRow) × Kind} :
    item ∈ entries.flatMap (fun entry =>
        [(entry, Kind.discover), (entry, Kind.download)]) ↔
      item.1 ∈ entries := by
  rw [List.mem_flatMap]
  constructor
  · rintro ⟨entry, isEntry, isItem⟩
    rcases List.mem_pair.1 isItem with rfl | rfl
    · exact isEntry
    · exact isEntry
  · intro isEntry
    rcases item with ⟨entry, kind⟩
    refine ⟨entry, isEntry, List.mem_pair.2 ?_⟩
    cases kind with
    | discover => exact Or.inl rfl
    | download => exact Or.inr rfl

/-- Both kinds of different playlists have different ids. -/
theorem nodup_ids {entries : List (Nat × PlaylistRow)}
    (distinct : (entries.map Prod.fst).Nodup) :
    ((entries.flatMap fun entry =>
      [(entry, Kind.discover), (entry, Kind.download)]).map fun item =>
        playlistJobId item.1.1 item.2).Nodup := by
  induction entries with
  | nil => exact List.nodup_nil
  | cons entry rest induction =>
      rw [List.map_cons, List.nodup_cons] at distinct
      rw [List.flatMap_cons, List.map_append, List.nodup_append]
      refine ⟨?_, induction distinct.2, ?_⟩
      · rw [List.map_cons, List.map_cons, List.map_nil, List.nodup_cons,
          List.mem_singleton]
        constructor
        · intro same
          cases (playlistJobId_inj same).2
        · exact List.nodup_singleton _
      · intro id isFirst other isOther same
        rcases List.mem_map.1 isFirst with ⟨first, inPair, rfl⟩
        rcases List.mem_map.1 isOther with ⟨item, inRest, rfl⟩
        have isEntry : first.1 = entry := by
          rcases List.mem_pair.1 inPair with rfl | rfl
          · rfl
          · rfl
        apply distinct.1
        rw [← isEntry, (playlistJobId_inj same).1]
        exact List.mem_map_of_mem (mem_playlistKinds_iff.1 inRest)

theorem nodup_playlistKinds :
    (configuration.playlistKinds.map fun item =>
      playlistJobId item.1.1 item.2).Nodup := by
  apply nodup_ids
  have ascending := configuration.playlist.ascending.imp Nat.ne_of_lt
  exact ascending.sublist (List.filter_sublist.map Prod.fst)

/-! ## Which job is wanted under an id -/

variable {environment configuration}

theorem ifValid_eq_some_iff {wanted other : Wanted} :
    ifValid environment wanted = some other ↔
      environment.validCrontab wanted.expression = true ∧ wanted = other := by
  rw [ifValid]
  split
  · next isValid => simp [isValid]
  · next notValid => simp [notValid]

theorem mem_playlistJobs_iff
    {items : List ((Nat × PlaylistRow) × Kind)} {wanted : Wanted} :
    wanted ∈ playlistJobs environment configuration items ↔
      ∃ item ∈ items,
        environment.validCrontab (playlistJob configuration item).expression =
            true ∧
          playlistJob configuration item = wanted := by
  rw [playlistJobs, List.mem_filterMap]
  simp only [ifValid_eq_some_iff]

theorem playlistJobs_cons (item : (Nat × PlaylistRow) × Kind)
    (rest : List ((Nat × PlaylistRow) × Kind)) :
    playlistJobs environment configuration (item :: rest) =
      if environment.validCrontab (playlistJob configuration item).expression
      then playlistJob configuration item ::
        playlistJobs environment configuration rest
      else playlistJobs environment configuration rest := by
  rw [playlistJobs, playlistJobs, List.filterMap_cons, ifValid]
  by_cases isValid : environment.validCrontab
      (playlistJob configuration item).expression = true
  · rw [if_pos isValid, if_pos isValid]
  · rw [if_neg isValid, if_neg isValid]

/-- The ids of the jobs are those of their playlists. -/
theorem sublist_playlistJobs (items : List ((Nat × PlaylistRow) × Kind)) :
    ((playlistJobs environment configuration items).map Wanted.id).Sublist
      (items.map fun item => playlistJobId item.1.1 item.2) := by
  induction items with
  | nil => exact List.Sublist.refl _
  | cons item rest induction =>
      rw [playlistJobs_cons]
      split
      · exact induction.cons_cons _
      · exact induction.cons _

theorem hasJobPrefix_of_mem
    {items : List ((Nat × PlaylistRow) × Kind)} {wanted : Wanted}
    (member : wanted ∈ playlistJobs environment configuration items) :
    hasJobPrefix wanted.id = true := by
  rcases mem_playlistJobs_iff.1 member with ⟨item, -, -, rfl⟩
  exact hasJobPrefix_playlistJobId _ _

theorem integrity_eq {wanted : Wanted}
    (member : wanted ∈
      (ifValid environment (integrityJob configuration)).toList) :
    wanted.id = integrityJobId := by
  rw [Option.mem_toList] at member
  rw [← (ifValid_eq_some_iff.1 member).2]
  rfl

theorem update_eq {wanted : Wanted}
    (member : wanted ∈ (updateJobs environment configuration).toList) :
    wanted.id = ytdlpUpdateJobId := by
  rw [Option.mem_toList, updateJobs] at member
  split at member
  · cases member
  · rw [← (ifValid_eq_some_iff.1 member).2]
    rfl

theorem nodup_toList_map (wanted : Option Wanted) :
    (wanted.toList.map Wanted.id).Nodup := by
  cases wanted with
  | none => exact List.nodup_nil
  | some wanted => exact List.nodup_singleton _

/-- No two wanted jobs have the same id. -/
theorem nodup_wantedJobs :
    ((wantedJobs environment configuration).map Wanted.id).Nodup := by
  rw [wantedJobs, List.map_append, List.map_append, List.nodup_append,
    List.nodup_append]
  refine ⟨⟨?_, nodup_toList_map _, ?_⟩, nodup_toList_map _, ?_⟩
  · exact (nodup_playlistKinds configuration).sublist
      (sublist_playlistJobs configuration.playlistKinds)
  · intro id isPlaylist other isIntegrity same
    rcases List.mem_map.1 isPlaylist with ⟨wanted, inPlaylists, rfl⟩
    rcases List.mem_map.1 isIntegrity with ⟨integrity, member, rfl⟩
    have hasPrefix := hasJobPrefix_of_mem inPlaylists
    rw [same, integrity_eq member, hasJobPrefix_integrityJobId] at hasPrefix
    cases hasPrefix
  · intro id isEarlier other isUpdate same
    rcases List.mem_map.1 isUpdate with ⟨update, member, rfl⟩
    rw [update_eq member] at same
    rcases List.mem_append.1 isEarlier with isPlaylist | isIntegrity
    · rcases List.mem_map.1 isPlaylist with ⟨wanted, inPlaylists, rfl⟩
      have hasPrefix := hasJobPrefix_of_mem inPlaylists
      rw [same, hasJobPrefix_ytdlpUpdateJobId] at hasPrefix
      cases hasPrefix
    · rcases List.mem_map.1 isIntegrity with ⟨integrity, inIntegrity, rfl⟩
      rw [integrity_eq inIntegrity] at same
      exact absurd same integrityJobId_ne_ytdlpUpdateJobId

/-- The job which is wanted under an id. -/
def wantedAt (environment : Environment Offset)
    (configuration : Configuration) (id : String) : Option Wanted :=
  (wantedJobs environment configuration).find? fun wanted => wanted.id == id

theorem wantedAt_eq_some_iff {id : String} {wanted : Wanted} :
    wantedAt environment configuration id = some wanted ↔
      wanted ∈ wantedJobs environment configuration ∧ wanted.id = id :=
  Keyed.find?_eq_some_iff Wanted.id nodup_wantedJobs id wanted

theorem wantedAt_of_mem {wanted : Wanted}
    (member : wanted ∈ wantedJobs environment configuration) :
    wantedAt environment configuration wanted.id = some wanted :=
  wantedAt_eq_some_iff.2 ⟨member, rfl⟩

/-- Under the id of a playlist only its job is wanted. -/
theorem wantedAt_of_hasJobPrefix {id : String}
    (hasPrefix : hasJobPrefix id = true) {wanted : Wanted} :
    wantedAt environment configuration id = some wanted ↔
      wanted ∈ playlistJobs environment configuration
        configuration.playlistKinds ∧ wanted.id = id := by
  rw [wantedAt_eq_some_iff, wantedJobs, List.mem_append, List.mem_append]
  constructor
  · rintro ⟨(inPlaylists | isIntegrity) | isUpdate, rfl⟩
    · exact ⟨inPlaylists, rfl⟩
    · rw [integrity_eq isIntegrity, hasJobPrefix_integrityJobId] at hasPrefix
      cases hasPrefix
    · rw [update_eq isUpdate, hasJobPrefix_ytdlpUpdateJobId] at hasPrefix
      cases hasPrefix
  · rintro ⟨inPlaylists, rfl⟩
    exact ⟨Or.inl (Or.inl inPlaylists), rfl⟩

theorem wantedAt_integrityJobId :
    wantedAt environment configuration integrityJobId =
      ifValid environment (integrityJob configuration) := by
  ext wanted
  rw [wantedAt_eq_some_iff, wantedJobs, List.mem_append,
    List.mem_append, Option.mem_toList]
  constructor
  · rintro ⟨(inPlaylists | isIntegrity) | isUpdate, isId⟩
    · have hasPrefix := hasJobPrefix_of_mem inPlaylists
      rw [isId, hasJobPrefix_integrityJobId] at hasPrefix
      cases hasPrefix
    · exact isIntegrity
    · rw [update_eq isUpdate] at isId
      exact absurd isId.symm integrityJobId_ne_ytdlpUpdateJobId
  · intro isIntegrity
    exact ⟨Or.inl (Or.inr isIntegrity),
      integrity_eq (Option.mem_toList.2 isIntegrity)⟩

theorem wantedAt_ytdlpUpdateJobId :
    wantedAt environment configuration ytdlpUpdateJobId =
      updateJobs environment configuration := by
  ext wanted
  rw [wantedAt_eq_some_iff, wantedJobs, List.mem_append,
    List.mem_append, Option.mem_toList]
  constructor
  · rintro ⟨(inPlaylists | isIntegrity) | isUpdate, isId⟩
    · have hasPrefix := hasJobPrefix_of_mem inPlaylists
      rw [isId, hasJobPrefix_ytdlpUpdateJobId] at hasPrefix
      cases hasPrefix
    · rw [integrity_eq (Option.mem_toList.2 isIntegrity)] at isId
      exact absurd isId integrityJobId_ne_ytdlpUpdateJobId
    · exact Option.mem_toList.1 isUpdate
  · intro isUpdate
    exact ⟨Or.inr (Option.mem_toList.2 isUpdate),
      update_eq (Option.mem_toList.2 isUpdate)⟩

/-- Only managed jobs are wanted. -/
theorem isManaged_of_wantedAt {id : String} {wanted : Wanted}
    (isWanted : wantedAt environment configuration id = some wanted) :
    isManaged id = true := by
  rcases wantedAt_eq_some_iff.1 isWanted with ⟨member, rfl⟩
  rw [wantedJobs, List.mem_append, List.mem_append] at member
  rcases member with (inPlaylists | isIntegrity) | isUpdate
  · rw [isManaged, hasJobPrefix_of_mem inPlaylists]
    rfl
  · rw [integrity_eq isIntegrity]
    decide
  · rw [update_eq isUpdate]
    decide

end Wanted

end Sluicery.Scheduler
