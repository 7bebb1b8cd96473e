import Sluicery.Library.Raising
import Sluicery.Library.Returning
import Sluicery.Scheduler.Wanted

/-!
# Reconciling the jobs

`reconcile` touches the managed ids, each at most once, and leaves under each
the job which is wanted, or none.  A job which has the wanted schedule already
is left alone, so that a second call changes nothing.
-/

namespace Sluicery.Scheduler

open Sluicery.Library Sluicery.Library.Raising Sluicery.Db

section Reconcile

variable {Offset : Type} {environment : Environment Offset}
  {configuration : Configuration}

/-! ## Jobs under an id -/

/-- A job has the schedule of a wanted job. -/
structure IsJobOf (environment : Environment Offset)
    (configuration : Configuration) (wanted : Wanted) (job : Job Offset) :
    Prop where
  /-- It fires at the expression, in the zone and with the jitter. -/
  trigger : ∃ state, job.trigger = .symmetric state ∧
    let trigger := state.setState environment
    trigger.algorithmVersion = 2 ∧ trigger.expression = wanted.expression ∧
      trigger.timezone = environment.timezone ∧
      trigger.jitterSeconds = configuration.scheduleJitterMinutes * 60
  args : job.args = wanted.args
  coalesce : job.coalesce = true
  maxInstances : job.maxInstances = 1
  misfireGraceTime : job.misfireGraceTime = some misfireGraceSec

/-- The trigger of a wanted job, with an offset. -/
def Wanted.triggerWith (environment : Environment Offset)
    (configuration : Configuration) (wanted : Wanted) (offset : Offset) :
    SymmetricCronTrigger Offset where
  expression := wanted.expression
  timezone := environment.timezone
  jitterSeconds := configuration.scheduleJitterMinutes * 60
  offsetSeconds := offset

/-- The offset does not count. -/
theorem matchesTrigger_iff {job : Option (Job Offset)} {wanted : Wanted}
    {offset : Offset} :
    matchesTrigger environment job
        (wanted.triggerWith environment configuration offset) wanted.args =
          true ↔
      ∃ found, job = some found ∧
        IsJobOf environment configuration wanted found := by
  constructor
  · intro isMatching
    cases job with
    | none => cases isMatching
    | some job =>
        rcases job with ⟨id, func, trigger, args, coalesce, instances, grace⟩
        cases trigger with
        | other text => cases isMatching
        | symmetric state =>
            simp only [matchesTrigger, Wanted.triggerWith, Bool.and_eq_true,
              beq_iff_eq] at isMatching
            rcases isMatching with
              ⟨⟨⟨⟨⟨⟨⟨version, expression⟩, zone⟩, jitter⟩, isArgs⟩, coalesces⟩,
                isInstances⟩, isGrace⟩
            exact ⟨_, rfl, ⟨state, rfl, version, expression, zone, jitter⟩,
              isArgs, coalesces, isInstances, isGrace⟩
  · rintro ⟨found, rfl, isJob⟩
    rcases isJob with
      ⟨⟨state, isState, version, expression, zone, jitter⟩, args, coalesce,
        instances, grace⟩
    simp only [matchesTrigger, isState, Wanted.triggerWith, version,
      expression, zone, jitter, args, coalesce, instances, grace, beq_self_eq_true,
      Bool.and_self]

/-- Under an id there is what is wanted. -/
def Fine (environment : Environment Offset) (configuration : Configuration)
    (state : State Offset) (id : String) : Prop :=
  match wantedAt environment configuration id with
  | none => state.store.getJob id = none
  | some wanted => ∃ job, state.store.getJob id = some job ∧
      IsJobOf environment configuration wanted job

theorem fine_congr {before after : State Offset} {id : String}
    (same : after.store.getJob id = before.store.getJob id) :
    Fine environment configuration after id ↔
      Fine environment configuration before id := by
  rw [Fine, Fine, same]

@[simp]
theorem getJob_put (store : JobStore Offset) (job : Job Offset)
    (id : String) :
    (store.put job).getJob id =
      if job.id = id then some job else store.getJob id :=
  Keyed.find?_put Job.id store.jobs job id

@[simp]
theorem getJob_remove (store : JobStore Offset) (removed id : String) :
    (store.remove removed).getJob id =
      if id = removed then none else store.getJob id :=
  Keyed.find?_filter_ne Job.id store.jobs removed id

theorem getJob_eq_some_iff {store : JobStore Offset} {id : String}
    {job : Job Offset} :
    store.getJob id = some job ↔ job ∈ store.jobs ∧ job.id = id :=
  Keyed.find?_eq_some_iff Job.id store.distinct id job

/-! ## Moves -/

/-- Only these ids are touched, and what is wanted is under them now. -/
structure Moves (environment : Environment Offset)
    (configuration : Configuration) (touches : String → Prop)
    (before after : State Offset) : Prop where
  others : ∀ id, ¬ touches id →
    after.store.getJob id = before.store.getJob id
  settled : ∀ id, touches id → Fine environment configuration after id
  kept : ∀ id, Fine environment configuration before id →
    after.store.getJob id = before.store.getJob id
  changes : ∃ new, after.changes = before.changes ++ new ∧
    (∀ change ∈ new, touches change.id ∧
      ¬ Fine environment configuration before change.id) ∧
    (new = [] → after.store = before.store)

/-- Nothing is touched, but an offset may be drawn. -/
theorem moves_of_same {before after : State Offset} {touches : String → Prop}
    (store : after.store = before.store)
    (changes : after.changes = before.changes)
    (fine : ∀ id, touches id → Fine environment configuration before id) :
    Moves environment configuration touches before after where
  others id _ := by rw [store]
  settled id touched := (fine_congr (by rw [store])).2 (fine id touched)
  kept id _ := by rw [store]
  changes := ⟨[], by rw [changes, List.append_nil], nofun, fun _ => store⟩

theorem Moves.stays {touches : String → Prop} {before after : State Offset}
    (moves : Moves environment configuration touches before after)
    {id : String} (fine : Fine environment configuration before id) :
    Fine environment configuration after id :=
  (fine_congr (moves.kept id fine)).2 fine

/-- One after the other. -/
theorem Moves.trans {first second : String → Prop}
    {before middle after : State Offset}
    (moves : Moves environment configuration first before middle)
    (next : Moves environment configuration second middle after) :
    Moves environment configuration (fun id => first id ∨ second id)
      before after := by
  constructor
  · intro id untouched
    rw [next.others id fun isSecond => untouched (Or.inr isSecond),
      moves.others id fun isFirst => untouched (Or.inl isFirst)]
  · intro id touched
    by_cases isSecond : second id
    · exact next.settled id isSecond
    · rw [fine_congr (next.others id isSecond)]
      exact moves.settled id (touched.resolve_right isSecond)
  · intro id fine
    rw [next.kept id (moves.stays fine), moves.kept id fine]
  · rcases moves.changes with ⟨earlier, isEarlier, needed, same⟩
    rcases next.changes with ⟨later, isLater, needed', same'⟩
    refine ⟨earlier ++ later, ?_, ?_, ?_⟩
    · rw [isLater, isEarlier, List.append_assoc]
    · intro change member
      rcases List.mem_append.1 member with inEarlier | inLater
      · exact (needed change inEarlier).imp_left Or.inl
      · constructor
        · exact Or.inr (needed' change inLater).1
        · exact fun fine => (needed' change inLater).2 (moves.stays fine)
    · intro noChange
      rcases List.append_eq_nil_iff.1 noChange with ⟨isNil, isNil'⟩
      rw [same' isNil', same isNil]

/-- What was fine already may count as touched. -/
theorem Moves.widen {touches wider : String → Prop}
    {before after : State Offset}
    (moves : Moves environment configuration touches before after)
    (includes : ∀ id, touches id → wider id)
    (fine : ∀ id, wider id → ¬ touches id →
      Fine environment configuration after id) :
    Moves environment configuration wider before after where
  others id untouched :=
    moves.others id fun touched => untouched (includes id touched)
  settled id isWider := by
    by_cases touched : touches id
    · exact moves.settled id touched
    · exact fine id isWider touched
  kept := moves.kept
  changes := by
    rcases moves.changes with ⟨new, isNew, needed, same⟩
    refine ⟨new, isNew, ?_, same⟩
    intro change member
    exact (needed change member).imp_left (includes change.id)

theorem Moves.congr {touches others : String → Prop}
    {before after : State Offset}
    (moves : Moves environment configuration touches before after)
    (same : ∀ id, others id ↔ touches id) :
    Moves environment configuration others before after := by
  rw [funext fun id => propext (same id)]
  exact moves

/-! ## Registering a job -/

/-- Offsets can be drawn. -/
def Drawable (configuration : Configuration) : Prop :=
  configuration.scheduleJitterMinutes * 60 = 0 ∨
    Returns (Double.ofInt (2 * (configuration.scheduleJitterMinutes * 60)))

/-- The offsets which `from_expression` can come to. -/
def CanDraw (environment : Environment Offset)
    (configuration : Configuration) (offset : Offset) : Prop :=
  if configuration.scheduleJitterMinutes * 60 = 0 then
    offset = environment.zero
  else
    ∃ drawn, offset =
      environment.uniform drawn (configuration.scheduleJitterMinutes * 60)

/-- No moment is out of range, whichever offsets are drawn. -/
structure Smooth (environment : Environment Offset) (now : Time)
    (configuration : Configuration) (state : State Offset) : Prop where
  draws : wantedJobs environment configuration ≠ [] → Drawable configuration
  fires : ∀ wanted ∈ wantedJobs environment configuration,
    ¬ Fine environment configuration state wanted.id →
    ∀ offset, CanDraw environment configuration offset →
      (wanted.triggerWith environment configuration offset).getNextFireTime
        environment none now ≠ none

theorem Smooth.after {now : Time} {touches : String → Prop}
    {before after : State Offset}
    (smooth : Smooth environment now configuration before)
    (moves : Moves environment configuration touches before after) :
    Smooth environment now configuration after where
  draws := smooth.draws
  fires wanted member notFine :=
    smooth.fires wanted member fun fine => notFine (moves.stays fine)

theorem ends_fromExpression {wanted : Wanted} {state : State Offset}
    {returned : SymmetricCronTrigger Offset → State Offset → Prop}
    {raised : Failure → State Offset → Prop}
    (invalid : environment.validCrontab wanted.expression = false →
      raised .valueError state)
    (tooLarge : environment.validCrontab wanted.expression = true →
      ¬ Drawable configuration → raised .overflowError state)
    (made : environment.validCrontab wanted.expression = true →
      Drawable configuration → ∀ offset drawn,
        CanDraw environment configuration offset →
        returned (wanted.triggerWith environment configuration offset)
          { state with drawn }) :
    Ends (fromExpression environment wanted.expression
      configuration.scheduleJitterMinutes) state returned raised := by
  rw [fromExpression]
  simp only [Bool.not_eq_true', ends_bind, ends_ite, ends_throw, ends_pure]
  split
  · next isInvalid => exact invalid isInvalid
  · next notInvalid =>
      have isValid := Bool.not_eq_false _ ▸ notInvalid
      split
      · next isZero =>
          apply made isValid (Or.inl isZero) environment.zero state.drawn
          rw [CanDraw, if_pos isZero]
      · next notZero =>
          split
          · next isError =>
              apply tooLarge isValid
              rintro (isZero | returns)
              · exact notZero isZero
              · rw [isError] at returns
                exact not_returns_error _ returns
          · next value isOk =>
              simp only [ends_bind, ends_get, ends_modify, ends_pure]
              apply made isValid (Or.inr ⟨value, isOk⟩)
              rw [CanDraw, if_neg notZero]
              exact ⟨state.drawn, rfl⟩

/-- A new job is put under the id of a wanted one. -/
theorem moves_put {wanted : Wanted} {state : State Offset} {drawn : Nat}
    {offset : Offset} {nextRunTime : Option Time}
    (isWanted : wantedAt environment configuration wanted.id = some wanted)
    (notFine : ¬ Fine environment configuration state wanted.id) :
    Moves environment configuration (· = wanted.id) state
      { store := state.store.put
          { id := wanted.id, func := wanted.func, args := wanted.args,
            nextRunTime
            trigger := .symmetric (wanted.triggerWith environment
              configuration offset).getState
            misfireGraceTime := some misfireGraceSec }
        drawn
        changes := state.changes ++ [.put wanted.id] } := by
  constructor
  · intro id untouched
    rw [getJob_put, if_neg fun same => untouched same.symm]
  · rintro id rfl
    rw [Fine, isWanted]
    refine ⟨_, (getJob_put _ _ _).trans (if_pos rfl), ?_⟩
    exact ⟨⟨_, rfl, rfl, rfl, rfl, rfl⟩, rfl, rfl, rfl, rfl⟩
  · intro id fine
    rw [getJob_put, if_neg]
    rintro rfl
    exact notFine fine
  · refine ⟨[.put wanted.id], rfl, ?_, ?_⟩
    · intro change member
      rw [List.mem_singleton.1 member]
      exact ⟨rfl, notFine⟩
    · intro impossible
      cases impossible

/-- A job is registered if and only if its expression is valid. -/
theorem ends_register {now : Time} {wanted : Wanted} {state : State Offset}
    (isWanted : environment.validCrontab wanted.expression = true →
      wantedAt environment configuration wanted.id = some wanted) :
    Ends (register environment now configuration.scheduleJitterMinutes
        wanted.expression wanted.id wanted.func wanted.args
        fun existing trigger =>
          matchesTrigger environment existing trigger wanted.args) state
      (fun registered after =>
        registered = environment.validCrontab wanted.expression ∧
          Moves environment configuration
            (fun id => registered = true ∧ id = wanted.id) state after ∧
          (registered = true → Drawable configuration))
      fun _ _ => ¬ Smooth environment now configuration state := by
  have isMember : environment.validCrontab wanted.expression = true →
      wanted ∈ wantedJobs environment configuration := fun isValid =>
    (wantedAt_eq_some_iff.1 (isWanted isValid)).1
  rw [register, ends_bind, ends_tryCatch, map_eq_pure_bind, ends_bind]
  apply ends_fromExpression
  · intro isInvalid
    simp only [ends_pure]
    refine ⟨isInvalid.symm, ?_, ?_⟩
    · apply moves_of_same rfl rfl
      intro id impossible
      cases impossible.1
    · intro impossible
      cases impossible
  · intro isValid notDrawable
    simp only [ends_throw]
    intro smooth
    exact notDrawable (smooth.draws (List.ne_nil_of_mem (isMember isValid)))
  · intro isValid drawable offset drawn canDraw
    simp only [ends_pure, ends_bind, ends_get, ends_ite, Bool.not_eq_true',
      isValid, true_and]
    split
    · next notMatching =>
        have notFine : ¬ Fine environment configuration state wanted.id := by
          rw [Fine, isWanted isValid]
          intro isFine
          rw [matchesTrigger_iff.2 isFine] at notMatching
          cases notMatching
        rw [addJob]
        split
        · next overflows =>
            rw [ends_throw]
            intro smooth
            exact smooth.fires wanted (isMember isValid) notFine offset
              canDraw overflows
        · rw [ends_modify]
          exact ⟨moves_put (isWanted isValid) notFine, fun _ => drawable⟩
    · next isMatching =>
        rw [Bool.not_eq_false, matchesTrigger_iff] at isMatching
        constructor
        · apply moves_of_same
          · rfl
          · rfl
          · rintro id rfl
            rw [Fine, isWanted isValid]
            exact isMatching
        · exact fun _ => drawable

/-! ## Removing jobs -/

/-- A job which is not wanted is removed. -/
theorem ends_removeJob {id : String} {state : State Offset}
    {raised : Failure → State Offset → Prop}
    (notWanted : wantedAt environment configuration id = none)
    (isThere : state.store.getJob id ≠ none) :
    Ends (removeJob id) state
      (fun _ after => Moves environment configuration (· = id) state after ∧
        ∀ other, other ≠ id →
          after.store.getJob other = state.store.getJob other)
      raised := by
  have notNone : ¬ (state.store.getJob id).isNone = true := by
    rw [Option.isNone_iff_eq_none]
    exact isThere
  have notFine : ¬ Fine environment configuration state id := by
    rw [Fine, notWanted]
    exact isThere
  have stays : ∀ other, other ≠ id →
      (state.store.remove id).getJob other = state.store.getJob other := by
    intro other isOther
    rw [getJob_remove, if_neg isOther]
  simp only [removeJob, ends_bind, ends_get, ends_ite, ends_throw,
    if_neg notNone, ends_modify]
  refine ⟨?_, stays⟩
  constructor
  · exact stays
  · rintro other rfl
    rw [Fine, notWanted]
    exact (getJob_remove _ _ _).trans (if_pos rfl)
  · intro other fine
    apply stays
    rintro rfl
    exact notFine fine
  · refine ⟨[.remove id], rfl, ?_, ?_⟩
    · intro change member
      rw [List.mem_singleton.1 member]
      exact ⟨rfl, notFine⟩
    · intro impossible
      cases impossible

theorem ends_discard {id : String} {state : State Offset}
    {raised : Failure → State Offset → Prop}
    (notWanted : wantedAt environment configuration id = none) :
    Ends (discard id) state
      (fun _ after => Moves environment configuration (· = id) state after)
      raised := by
  simp only [discard, ends_bind, ends_get, ends_ite, ends_pure]
  split
  · next isThere =>
      have notNone : state.store.getJob id ≠ none := by
        intro isNone
        rw [isNone] at isThere
        cases isThere
      have removed : Ends (removeJob id) state _ raised :=
        ends_removeJob notWanted notNone
      exact removed.mono (fun _ _ both => both.1) fun _ _ isRaised => isRaised
  · next notThere =>
      apply moves_of_same rfl rfl
      rintro other rfl
      rw [Fine, notWanted]
      exact Option.not_isSome_iff_eq_none.1 notThere

/-- Of these jobs the ones which are not desired are removed. -/
theorem ends_removeOthers {desired : List String}
    {raised : Failure → State Offset → Prop} {jobs : List (Job Offset)}
    {state : State Offset} (distinct : (jobs.map Job.id).Nodup)
    (notWanted : ∀ job ∈ jobs, job.id ∉ desired →
      wantedAt environment configuration job.id = none)
    (areThere : ∀ job ∈ jobs, state.store.getJob job.id ≠ none) :
    Ends (removeOthers desired jobs) state
      (fun _ after => Moves environment configuration
        (fun id => id ∈ jobs.map Job.id ∧ id ∉ desired) state after)
      raised := by
  induction jobs generalizing state with
  | nil =>
      apply moves_of_same rfl rfl
      exact fun _ impossible => nomatch impossible.1
  | cons job rest induction =>
      rw [List.map_cons, List.nodup_cons] at distinct
      have later := fun other member =>
        notWanted other (List.mem_cons_of_mem job member)
      simp only [removeOthers, ends_bind, ends_ite]
      split
      · next notDesired =>
          have removed : Ends (removeJob job.id) state _ raised :=
            ends_removeJob (notWanted job List.mem_cons_self notDesired)
              (areThere job List.mem_cons_self)
          apply removed.mono
          · rintro - middle ⟨moves, stays⟩
            have remain : ∀ other ∈ rest,
                middle.store.getJob other.id ≠ none := by
              intro other member
              rw [stays other.id]
              · exact areThere other (List.mem_cons_of_mem _ member)
              · intro same
                apply distinct.1
                rw [← same]
                exact List.mem_map_of_mem member
            apply (induction distinct.2 later remain).mono
            · intro _ after next
              apply (moves.trans next).congr
              intro id
              rw [List.map_cons, List.mem_cons]
              constructor
              · rintro ⟨rfl | inRest, isOther⟩
                · exact Or.inl rfl
                · exact Or.inr ⟨inRest, isOther⟩
              · rintro (rfl | ⟨inRest, isOther⟩)
                · exact ⟨Or.inl rfl, notDesired⟩
                · exact ⟨Or.inr inRest, isOther⟩
            · exact fun _ _ isRaised => isRaised
          · exact fun _ _ isRaised => isRaised
      · next isDesired =>
          rw [Decidable.not_not] at isDesired
          apply (induction distinct.2 later fun other member =>
            areThere other (List.mem_cons_of_mem _ member)).mono
          · intro _ after moves
            apply moves.congr
            intro id
            rw [List.map_cons, List.mem_cons]
            constructor
            · rintro ⟨rfl | inRest, isOther⟩
              · exact absurd isDesired isOther
              · exact ⟨inRest, isOther⟩
            · rintro ⟨inRest, isOther⟩
              exact ⟨Or.inr inRest, isOther⟩
          · exact fun _ _ isRaised => isRaised

/-! ## The jobs of the playlists -/

theorem ends_reconcilePlaylists {now : Time}
    {items : List ((Nat × PlaylistRow) × Kind)} {desired : List String}
    {state : State Offset}
    (areItems : ∀ item ∈ items, item ∈ configuration.playlistKinds) :
    Ends (reconcilePlaylists environment now configuration items desired)
      state
      (fun ids after =>
        let jobs := playlistJobs environment configuration items
        ids = desired ++ jobs.map Wanted.id ∧
          Moves environment configuration (· ∈ jobs.map Wanted.id) state
            after ∧
          (jobs ≠ [] → Drawable configuration))
      fun _ _ => ¬ Smooth environment now configuration state := by
  induction items generalizing desired state with
  | nil =>
      refine ⟨(List.append_nil _).symm, ?_, nofun⟩
      apply moves_of_same rfl rfl
      exact fun _ impossible => nomatch impossible
  | cons item rest induction =>
      have isWanted : environment.validCrontab
          (playlistJob configuration item).expression = true →
            wantedAt environment configuration
              (playlistJob configuration item).id =
                some (playlistJob configuration item) := by
        intro isValid
        apply wantedAt_of_mem
        have member := mem_playlistJobs_iff.2
          ⟨item, areItems item List.mem_cons_self, isValid, rfl⟩
        exact List.mem_append_left _ (List.mem_append_left _ member)
      have registers : Ends (register environment now _ _ _ _ _ _) state _
          _ := ends_register isWanted
      rw [reconcilePlaylists, ends_bind]
      apply registers.mono
      · rintro registered middle ⟨isRegistered, moves, drawable⟩
        apply (induction fun other member =>
          areItems other (List.mem_cons_of_mem _ member)).mono
        · rintro ids after ⟨isIds, next, drawable'⟩
          rw [playlistJobs_cons, ← isRegistered]
          cases registered with
          | true =>
              refine ⟨?_, ?_, fun _ => drawable rfl⟩
              · rw [isIds, if_pos rfl, if_pos rfl, List.append_assoc]
                rfl
              · apply (moves.trans next).congr
                intro id
                rw [if_pos rfl, List.map_cons, List.mem_cons]
                simp only [true_and]
          | false =>
              rw [if_neg Bool.false_ne_true] at isIds ⊢
              refine ⟨isIds, ?_, drawable'⟩
              apply (moves.trans next).congr
              intro id
              simp only [Bool.false_eq_true, false_and, false_or]
        · exact fun _ _ rough smooth => rough (smooth.after moves)
      · exact fun _ _ rough => rough

/-- The jobs of the playlists, and the removal of the others. -/
theorem ends_playlists {now : Time} {state : State Offset} :
    Ends (do
        let desired ← reconcilePlaylists environment now configuration
          configuration.playlistKinds []
        removeOthers desired (← get).store.managedJobs) state
      (fun _ after =>
        Moves environment configuration (hasJobPrefix · = true) state after ∧
          (playlistJobs environment configuration
            configuration.playlistKinds ≠ [] → Drawable configuration))
      fun _ _ => ¬ Smooth environment now configuration state := by
  rw [ends_bind]
  apply (ends_reconcilePlaylists fun _ member => member).mono
  · rintro desired middle ⟨rfl, moves, drawable⟩
    rw [ends_bind, ends_get]
    have notWanted : ∀ id, hasJobPrefix id = true →
        id ∉ (playlistJobs environment configuration
          configuration.playlistKinds).map Wanted.id →
          wantedAt environment configuration id = none := by
      intro id hasPrefix notDesired
      rw [Option.eq_none_iff_forall_ne_some]
      intro wanted isWanted
      rcases (wantedAt_of_hasJobPrefix hasPrefix).1 isWanted with
        ⟨member, rfl⟩
      exact notDesired (List.mem_map_of_mem member)
    have removes : Ends (removeOthers _ middle.store.managedJobs) middle
        (fun _ after => Moves environment configuration _ middle after)
        fun _ _ => ¬ Smooth environment now configuration state :=
      ends_removeOthers
        (middle.store.distinct.sublist (List.filter_sublist.map Job.id))
        (fun job member => notWanted job.id (List.mem_filter.1 member).2)
        fun job member isNone => by
          have isThere := getJob_eq_some_iff.2
            ⟨(List.mem_filter.1 member).1, rfl⟩
          rw [isNone] at isThere
          cases isThere
    apply removes.mono
    · intro _ after next
      refine ⟨?_, drawable⟩
      apply (moves.trans next).widen
      · rintro id (isDesired | ⟨isManaged, -⟩)
        · rcases List.mem_map.1 isDesired with ⟨wanted, member, rfl⟩
          exact hasJobPrefix_of_mem member
        · rcases List.mem_map.1 isManaged with ⟨job, member, rfl⟩
          exact (List.mem_filter.1 member).2
      · intro id hasPrefix untouched
        have notDesired := fun isDesired => untouched (Or.inl isDesired)
        have notManaged := fun isManaged =>
          untouched (Or.inr ⟨isManaged, notDesired⟩)
        have fine : Fine environment configuration middle id := by
          rw [Fine, notWanted id hasPrefix notDesired]
          rw [Option.eq_none_iff_forall_ne_some]
          intro job isJob
          rcases getJob_eq_some_iff.1 isJob with ⟨member, rfl⟩
          exact notManaged (List.mem_map_of_mem
            (List.mem_filter.2 ⟨member, hasPrefix⟩))
        exact next.stays fine
    · exact fun _ _ rough => rough
  · exact fun _ _ rough => rough

/-! ## The maintenance jobs -/

theorem ends_maintenance {now : Time} {wanted : Wanted}
    {state : State Offset} (noArgs : wanted.args = [])
    (isWanted : wantedAt environment configuration wanted.id =
      ifValid environment wanted) :
    Ends (reconcileMaintenance environment now
        configuration.scheduleJitterMinutes wanted.expression wanted.id
        wanted.func fun existing trigger =>
          matchesTrigger environment existing trigger []) state
      (fun _ after =>
        Moves environment configuration (· = wanted.id) state after ∧
          (ifValid environment wanted ≠ none → Drawable configuration))
      fun _ _ => ¬ Smooth environment now configuration state := by
  have isSome : environment.validCrontab wanted.expression = true →
      wantedAt environment configuration wanted.id = some wanted := by
    intro isValid
    rw [isWanted, ifValid, if_pos isValid]
  rw [reconcileMaintenance, ← noArgs, ends_bind]
  apply (ends_register isSome).mono
  · rintro registered middle ⟨isRegistered, moves, drawable⟩
    cases registered with
    | true =>
        constructor
        · apply moves.congr
          intro id
          simp only [true_and]
        · exact fun _ => drawable rfl
    | false =>
        have isNone : ifValid environment wanted = none := by
          rw [ifValid, ← isRegistered]
          rfl
        have discards : Ends (discard wanted.id) middle _
            fun _ _ => ¬ Smooth environment now configuration state :=
          ends_discard (isWanted.trans isNone)
        apply discards.mono
        · intro _ after next
          constructor
          · apply (moves.trans next).congr
            intro id
            simp only [Bool.false_eq_true, false_and, false_or]
          · exact fun notNone => absurd isNone notNone
        · exact fun _ _ rough => rough
  · exact fun _ _ rough => rough

/-- The update job is discarded without an expression. -/
theorem ends_update {now : Time} {state : State Offset} :
    Ends (if Core.Settings.isBlank configuration.ytdlpUpdateCron then
        discard ytdlpUpdateJobId
      else
        reconcileMaintenance environment now
          configuration.scheduleJitterMinutes configuration.ytdlpUpdateCron
          ytdlpUpdateJobId .dispatchYtdlpUpdateJob
          (maintenanceJobMatches environment)) state
      (fun _ after =>
        Moves environment configuration (· = ytdlpUpdateJobId) state after ∧
          (updateJobs environment configuration ≠ none →
            Drawable configuration))
      fun _ _ => ¬ Smooth environment now configuration state := by
  rw [ends_ite]
  split
  · next isBlank =>
      have isNone : updateJobs environment configuration = none := by
        rw [updateJobs, if_pos isBlank]
      have discards : Ends (discard ytdlpUpdateJobId) state _
          fun _ _ => ¬ Smooth environment now configuration state :=
        ends_discard (wantedAt_ytdlpUpdateJobId.trans isNone)
      apply discards.mono
      · exact fun _ after moves =>
          ⟨moves, fun notNone => absurd isNone notNone⟩
      · exact fun _ _ rough => rough
  · next notBlank =>
      have isUpdate : updateJobs environment configuration =
          ifValid environment (ytdlpUpdateJob configuration) := by
        rw [updateJobs, if_neg notBlank]
      have isWanted : wantedAt environment configuration
          (ytdlpUpdateJob configuration).id =
            ifValid environment (ytdlpUpdateJob configuration) :=
        wantedAt_ytdlpUpdateJobId.trans isUpdate
      rw [isUpdate]
      exact ends_maintenance rfl isWanted

/-- Where a job is wanted, one of the three kinds is. -/
theorem of_wantedJobs (isSome : wantedJobs environment configuration ≠ []) :
    playlistJobs environment configuration configuration.playlistKinds ≠ [] ∨
      ifValid environment (integrityJob configuration) ≠ none ∨
        updateJobs environment configuration ≠ none := by
  by_contra none
  simp only [not_or, Decidable.not_not] at none
  rcases none with ⟨noPlaylist, noIntegrity, noUpdate⟩
  apply isSome
  rw [wantedJobs, noIntegrity, noUpdate, noPlaylist]
  rfl

/-- All managed ids are settled, unless a moment is out of range. -/
theorem ends_reconcile {now : Time} {state : State Offset}
    (notNegative : 0 ≤ configuration.scheduleJitterMinutes) :
    Ends (reconcile environment now configuration) state
      (fun _ after =>
        Moves environment configuration (isManaged · = true) state after ∧
          (wantedJobs environment configuration ≠ [] →
            Drawable configuration))
      fun _ _ => ¬ Smooth environment now configuration state := by
  have notLess := Int.not_lt.2 notNegative
  have playlists : Ends _ state _ fun _ _ =>
      ¬ Smooth environment now configuration state := ends_playlists
  have isIntegrity : wantedAt environment configuration
      (integrityJob configuration).id =
        ifValid environment (integrityJob configuration) :=
    wantedAt_integrityJobId
  simp only [ends_bind, ends_get] at playlists
  simp only [reconcile, if_neg notLess, ends_bind, ends_get]
  apply playlists.mono
  · intro desired listed isListed
    apply isListed.mono
    · rintro - middle ⟨moves, drawable⟩
      apply (ends_maintenance rfl isIntegrity).mono
      · rintro - checked ⟨next, drawable'⟩
        apply ends_update.mono
        · rintro - after ⟨last, drawable''⟩
          constructor
          · apply ((moves.trans next).trans last).congr
            intro id
            simp only [isManaged, Bool.or_eq_true, beq_iff_eq]
            exact Iff.rfl
          · intro isSome
            rcases of_wantedJobs isSome with isPlaylist | isFirst | isSecond
            · exact drawable isPlaylist
            · exact drawable' isFirst
            · exact drawable'' isSecond
        · exact fun _ _ rough smooth =>
            rough (smooth.after (moves.trans next))
      · exact fun _ _ rough smooth => rough (smooth.after moves)
    · exact fun _ _ rough => rough
  · exact fun _ _ rough => rough

/-! ## What `reconcile` does -/

/-- The jobs are those which are wanted, and as few as possible changed. -/
structure Reconciled (environment : Environment Offset)
    (configuration : Configuration) (before after : State Offset) : Prop where
  /-- Each wanted job is there; the ids of a store are all different. -/
  wanted : ∀ wanted ∈ wantedJobs environment configuration,
    ∃ job ∈ after.store.jobs, job.id = wanted.id ∧
      IsJobOf environment configuration wanted job
  /-- No other job is there under a managed id. -/
  exact : ∀ job ∈ after.store.jobs, isManaged job.id = true →
    ∃ wanted ∈ wantedJobs environment configuration, job.id = wanted.id ∧
      IsJobOf environment configuration wanted job
  /-- A job with the wanted schedule stays as it is, and is not replaced. -/
  kept : ∀ job ∈ before.store.jobs,
    ∀ wanted ∈ wantedJobs environment configuration, job.id = wanted.id →
      IsJobOf environment configuration wanted job →
        job ∈ after.store.jobs ∧
          ∃ new, after.changes = before.changes ++ new ∧
            ∀ change ∈ new, change.id ≠ job.id
  /-- The other jobs of the store stay. -/
  others : ∀ job, isManaged job.id = false →
    (job ∈ after.store.jobs ↔ job ∈ before.store.jobs)

theorem mem_jobs_iff {store : JobStore Offset} {job : Job Offset} :
    job ∈ store.jobs ↔ store.getJob job.id = some job := by
  rw [getJob_eq_some_iff, and_iff_left rfl]

theorem Fine.of_wanted {state : State Offset} {wanted : Wanted}
    (fine : Fine environment configuration state wanted.id)
    (member : wanted ∈ wantedJobs environment configuration) :
    ∃ job, state.store.getJob wanted.id = some job ∧
      IsJobOf environment configuration wanted job := by
  rw [Fine, wantedAt_of_mem member] at fine
  exact fine

/-- What has been settled under the managed ids is reconciled. -/
theorem Moves.reconciled {before after : State Offset}
    (moves : Moves environment configuration (isManaged · = true) before
      after) :
    Reconciled environment configuration before after := by
  constructor
  · intro wanted member
    have managed := isManaged_of_wantedAt (wantedAt_of_mem member)
    rcases (moves.settled _ managed).of_wanted member with
      ⟨job, isJob, isJobOf⟩
    rcases getJob_eq_some_iff.1 isJob with ⟨inStore, isId⟩
    exact ⟨job, inStore, isId, isJobOf⟩
  · intro job inStore managed
    have settled := moves.settled _ managed
    rw [Fine, mem_jobs_iff.1 inStore] at settled
    split at settled
    · cases settled
    · next wanted isWanted =>
        rcases settled with ⟨found, isFound, isJobOf⟩
        rcases wantedAt_eq_some_iff.1 isWanted with ⟨member, isId⟩
        cases isFound
        exact ⟨wanted, member, isId.symm, isJobOf⟩
  · intro job inStore wanted member isId isJobOf
    have isJob := mem_jobs_iff.1 inStore
    have fine : Fine environment configuration before job.id := by
      rw [Fine, isId, wantedAt_of_mem member]
      rw [isId] at isJob
      exact ⟨job, isJob, isJobOf⟩
    constructor
    · exact mem_jobs_iff.2 ((moves.kept _ fine).trans isJob)
    · rcases moves.changes with ⟨new, isNew, needed, -⟩
      refine ⟨new, isNew, ?_⟩
      intro change inNew same
      apply (needed change inNew).2
      rw [same]
      exact fine
  · intro job notManaged
    rw [mem_jobs_iff, mem_jobs_iff, moves.others]
    rw [notManaged]
    exact Bool.false_ne_true

/-- Where all is settled, nothing is touched. -/
theorem Moves.unchanged {touches : String → Prop}
    {before after : State Offset}
    (moves : Moves environment configuration touches before after)
    (fine : ∀ id, touches id → Fine environment configuration before id) :
    after.store = before.store ∧ after.changes = before.changes := by
  rcases moves.changes with ⟨new, isNew, needed, same⟩
  have noChange : new = [] := by
    rw [List.eq_nil_iff_forall_not_mem]
    intro change member
    exact (needed change member).2 (fine _ (needed change member).1)
  constructor
  · exact same noChange
  · rw [isNew, noChange, List.append_nil]

/-- A negative jitter is refused, before anything is done. -/
theorem reconcile_of_negative {now : Time} {state : State Offset}
    (negative : configuration.scheduleJitterMinutes < 0) :
    reconcile environment now configuration state =
      .error .valueError state := by
  rw [reconcile]
  simp only [if_pos negative]
  rfl

/-- What a call which returns has done. -/
theorem moves_of_returns {now : Time} {before after : State Offset}
    (notNegative : 0 ≤ configuration.scheduleJitterMinutes)
    (done : reconcile environment now configuration before = .ok ⟨⟩ after) :
    Moves environment configuration (isManaged · = true) before after ∧
      (wantedJobs environment configuration ≠ [] →
        Drawable configuration) := by
  have ends : Ends (reconcile environment now configuration) before _ _ :=
    ends_reconcile notNegative
  rw [Ends, done] at ends
  exact ends

theorem returns_of_smooth {now : Time} {before : State Offset}
    (notNegative : 0 ≤ configuration.scheduleJitterMinutes)
    (smooth : Smooth environment now configuration before) :
    ∃ after, reconcile environment now configuration before =
      .ok ⟨⟩ after := by
  have ends : Ends (reconcile environment now configuration) before _ _ :=
    ends_reconcile notNegative
  rw [Ends] at ends
  split at ends
  · next after isOk => exact ⟨after, isOk⟩
  · exact absurd smooth ends

/-- A second call returns and changes nothing, at any time. -/
theorem reconcile_again {now : Time} {before after : State Offset}
    (notNegative : 0 ≤ configuration.scheduleJitterMinutes)
    (done : reconcile environment now configuration before = .ok ⟨⟩ after)
    (later : Time) :
    ∃ drawn, reconcile environment later configuration after =
      .ok ⟨⟩ { after with drawn } := by
  rcases moves_of_returns notNegative done with ⟨moves, drawable⟩
  have smooth : Smooth environment later configuration after := by
    constructor
    · exact drawable
    · intro wanted member notFine
      have managed := isManaged_of_wantedAt (wantedAt_of_mem member)
      exact absurd (moves.settled _ managed) notFine
  rcases returns_of_smooth notNegative smooth with ⟨last, isLast⟩
  have next := (moves_of_returns notNegative isLast).1
  rcases next.unchanged moves.settled with ⟨sameStore, sameChanges⟩
  refine ⟨last.drawn, ?_⟩
  rw [isLast, ← sameStore, ← sameChanges]

/-- `reconcile` is exact and idempotent, unless it raises. -/
theorem reconcile_exact (environment : Environment Offset)
    (configuration : Configuration) (now : Time) (before : State Offset) :
    (configuration.scheduleJitterMinutes < 0 ∧
        reconcile environment now configuration before =
          .error .valueError before) ∨
      (0 ≤ configuration.scheduleJitterMinutes ∧
        (Smooth environment now configuration before →
          ∃ after, reconcile environment now configuration before =
            .ok ⟨⟩ after) ∧
        ∀ after, reconcile environment now configuration before =
            .ok ⟨⟩ after →
          Reconciled environment configuration before after ∧
            ∀ later, ∃ drawn,
              reconcile environment later configuration after =
                .ok ⟨⟩ { after with drawn }) := by
  by_cases negative : configuration.scheduleJitterMinutes < 0
  · exact Or.inl ⟨negative, reconcile_of_negative negative⟩
  · have notNegative := Int.not_lt.1 negative
    refine Or.inr ⟨notNegative, returns_of_smooth notNegative, ?_⟩
    intro after done
    exact ⟨(moves_of_returns notNegative done).1.reconciled,
      reconcile_again notNegative done⟩

end Reconcile

/-! ## A negative jitter -/

/-- Offsets in seconds; expressions have five fields, and fire daily. -/
def plainEnvironment : Environment Int where
  timezone := "UTC"
  validCrontab expression := expression.toList.count ' ' == 4
  uniform _ bound := bound
  zero := 0
  later time offset := some (time + offset * 1000000)
  earlier time offset := some (time - offset * 1000000)
  cronFireTime _ _ _ now := some (now / 86400000000 * 86400000000 + 86400000000)

/-- The job of a playlist which has been deleted. -/
def staleJob : Job Int where
  id := "sluicery:playlist:7:discover"
  func := .dispatchScheduledJob
  trigger := .symmetric
    { timezone := "UTC", sluiceryExpression := "0 */6 * * *" }
  args := [.int 7, .str "discover"]
  misfireGraceTime := some misfireGraceSec

/-- It is the only job of the store. -/
def staleState : State Int where
  store := { jobs := [staleJob], distinct := List.nodup_singleton _ }

/-- With a negative jitter the job is not removed. -/
theorem not_exact_negative :
    ∃ after, reconcile plainEnvironment 0 { scheduleJitterMinutes := -1 }
        staleState = .error .valueError after ∧
      staleJob ∈ after.store.jobs ∧ isManaged staleJob.id = true ∧
      ∀ wanted ∈ wantedJobs plainEnvironment { scheduleJitterMinutes := -1 },
        wanted.id ≠ staleJob.id := by
  refine ⟨staleState, rfl, List.mem_singleton_self _, by decide, ?_⟩
  decide

/-- The ids of the jobs after a call which returns. -/
def jobIds {Offset : Type} :
    EStateM.Result Failure (State Offset) PUnit → Option (List String)
  | .ok _ after => some (after.store.jobs.map Job.id)
  | .error _ _ => none

/-- A jitter of five minutes, and one playlist which is not paused. -/
def onePlaylist : Configuration where
  playlist := (Table.empty.insert { paused := true }).insert {}

/-- Its jobs, and those for the maintenance, take the place of the old one. -/
theorem reconcile_exact_onePlaylist :
    ∃ after, reconcile plainEnvironment 0 onePlaylist staleState =
        .ok ⟨⟩ after ∧
      after.store.jobs.map Job.id =
        [playlistJobId 2 .discover, playlistJobId 2 .download,
          integrityJobId, ytdlpUpdateJobId] ∧
      Reconciled plainEnvironment onePlaylist staleState after ∧
      ∀ later, ∃ drawn, reconcile plainEnvironment later onePlaylist after =
        .ok ⟨⟩ { after with drawn } := by
  have evaluates : jobIds (reconcile plainEnvironment 0 onePlaylist
      staleState) =
        some [playlistJobId 2 .discover, playlistJobId 2 .download,
          integrityJobId, ytdlpUpdateJobId] := by
    decide +kernel
  rcases reconcile_exact plainEnvironment onePlaylist 0 staleState with
    ⟨negative, -⟩ | ⟨-, -, exact'⟩
  · exact absurd negative (by decide)
  · cases done : reconcile plainEnvironment 0 onePlaylist staleState with
    | error failure after =>
        rw [done] at evaluates
        cases evaluates
    | ok value after =>
        rw [done] at evaluates
        rcases exact' after done with ⟨reconciled, again⟩
        exact ⟨after, rfl, Option.some.inj evaluates, reconciled, again⟩

end Sluicery.Scheduler
