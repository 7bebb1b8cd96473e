import Mathlib
import Sluicery.Tasks.CancelRequests

/-!
# Claims of the queue

`claim_next` takes the first task which may be claimed and no other row is
touched.  `Eligible` says which tasks may be claimed and `claimRank` in which
order; neither is read off the statement.  Over whole runs a claimed task is
not claimed again before it is settled, and no more downloads run than the
workers allow.
-/

namespace Sluicery.Tasks.Queue

open Sluicery.Library Sluicery.Library.Transition
open Sluicery.Db Sluicery.Db.TaskRepository

/-! ## What may be claimed -/

/-- The task waits, nothing holds it back, and there is a slot for it. -/
structure Eligible (tasks : Table TaskRow) (workerClass : WorkerClass)
    (claimedAt : Time) (itemConcurrency : Option Nat) (row : TaskRow) :
    Prop where
  waiting : row.status ∈ [.pending, .queued, .blocked]
  sameClass : row.workerClass = workerClass
  notCancelled : row.cancelRequested = false
  available : ∀ time, row.availableAt = some time → time ≤ claimedAt
  unblocked : ∀ time, row.blockedUntil = some time → time ≤ claimedAt
  blocked : row.status = .blocked → row.blockedUntil ≠ none
  dependency : ∀ parent, row.dependsOnTaskId = some parent →
    ∃ dependency, tasks.get parent = some dependency ∧
      dependency.status = .succeeded
  slot : ∀ limit, workerClass = .network → itemConcurrency = some limit →
    row.type = .download → runningDownloads tasks < limit

theorem timeEligible_iff (claimedAt : Time) (row : TaskRow) :
    timeEligible claimedAt row = true ↔
      (∀ time, row.availableAt = some time → time ≤ claimedAt) ∧
      (∀ time, row.blockedUntil = some time → time ≤ claimedAt) ∧
      (row.status = .blocked → row.blockedUntil ≠ none) := by
  rw [timeEligible, Bool.and_eq_true]
  apply and_congr
  · cases row.availableAt with
    | none => simp
    | some time => simp
  · cases row.blockedUntil with
    | none => simp
    | some time => simp

theorem itemSlotAvailable_iff
    (tasks : Table TaskRow) (workerClass : WorkerClass)
    (itemConcurrency : Option Nat) (row : TaskRow) :
    itemSlotAvailable tasks workerClass itemConcurrency row = true ↔
      ∀ limit, workerClass = .network → itemConcurrency = some limit →
        row.type = .download → runningDownloads tasks < limit := by
  cases workerClass with
  | compute => simp [itemSlotAvailable]
  | network =>
      cases itemConcurrency with
      | none => simp [itemSlotAvailable]
      | some limit =>
          simp only [itemSlotAvailable, Bool.or_eq_true, bne_iff_ne,
            decide_eq_true_iff]
          constructor
          · rintro (notDownload | free) other - ⟨⟩ isDownload
            · exact absurd isDownload notDownload
            · exact free
          · intro free
            by_cases isDownload : row.type = .download
            · exact Or.inr (free limit trivial rfl isDownload)
            · exact Or.inl isDownload

theorem dependencySucceeded_iff (tasks : Table TaskRow) (row : TaskRow) :
    dependencySucceeded tasks row = true ↔
      ∀ parent, row.dependsOnTaskId = some parent →
        ∃ dependency, tasks.get parent = some dependency ∧
          dependency.status = .succeeded := by
  rw [dependencySucceeded]
  cases row.dependsOnTaskId with
  | none => simp
  | some parent =>
      cases found : tasks.get parent with
      | none => simp [found]
      | some dependency => simp [found]

theorem isWaiting_iff (status : TaskStatus) :
    isWaiting status = true ↔ status ∈ [.pending, .queued, .blocked] := by
  cases status <;> decide

/-- The candidates of the statement are the eligible tasks. -/
theorem eligible_iff
    (tasks : Table TaskRow) (workerClass : WorkerClass) (claimedAt : Time)
    (itemConcurrency : Option Nat) (row : TaskRow) :
    eligible tasks workerClass claimedAt itemConcurrency row = true ↔
      Eligible tasks workerClass claimedAt itemConcurrency row := by
  rw [eligible_eq_true_iff, isWaiting_iff, timeEligible_iff,
    dependencySucceeded_iff, itemSlotAvailable_iff]
  constructor
  · rintro ⟨waiting, isClass, notCancelled, ⟨available, unblocked, blocked⟩,
      dependency, slot⟩
    exact ⟨waiting, isClass, notCancelled, available, unblocked, blocked,
      dependency, slot⟩
  · intro meets
    exact ⟨meets.waiting, meets.sameClass, meets.notCancelled,
      ⟨meets.available, meets.unblocked, meets.blocked⟩, meets.dependency,
      meets.slot⟩

/-! ## Which task comes first -/

/-- `NULL` comes before every time. -/
def scheduledOrder : Option Time → WithBot Time
  | none => ⊥
  | some time => time

/-- By priority, downwards, then by scheduled time. -/
def claimOrder (row : TaskRow) : Intᵒᵈ ×ₗ WithBot Time :=
  toLex (OrderDual.toDual row.priority, scheduledOrder row.scheduledAt)

/-- The place of a task among the candidates; of equals the oldest is first. -/
def claimRank (entry : Nat × TaskRow) : (Intᵒᵈ ×ₗ WithBot Time) ×ₗ Nat :=
  toLex (claimOrder entry.2, entry.1)

theorem scheduledBefore_iff (left right : Option Time) :
    scheduledBefore left right = true ↔
      scheduledOrder left < scheduledOrder right := by
  cases left with
  | none =>
      cases right with
      | none => exact iff_of_false Bool.false_ne_true (lt_irrefl _)
      | some right => exact iff_of_true rfl (WithBot.bot_lt_coe right)
  | some left =>
      cases right with
      | none =>
          exact iff_of_false Bool.false_ne_true (WithBot.not_lt_bot _)
      | some right =>
          rw [scheduledBefore, decide_eq_true_iff]
          exact WithBot.coe_lt_coe.symm

theorem claimBefore_iff (left right : TaskRow) :
    claimBefore left right = true ↔ claimOrder left < claimOrder right := by
  rw [claimBefore, Bool.or_eq_true, Bool.and_eq_true, decide_eq_true_iff,
    beq_iff_eq, scheduledBefore_iff, claimOrder, claimOrder,
    Prod.Lex.toLex_lt_toLex]
  apply or_congr
  · exact OrderDual.toDual_lt_toDual.symm
  · apply and_congr_left'
    exact ⟨fun same => congrArg OrderDual.toDual same.symm,
      fun same => (OrderDual.toDual.injective same).symm⟩

/-- The first candidate comes before every other one. -/
theorem claimRank_le_of_firstCandidate
    {entries : List (Nat × TaskRow)} {first : Nat × TaskRow}
    (ascending : entries.Pairwise fun left right => left.1 < right.1)
    (isFirst : firstCandidate entries = some first) :
    ∀ entry ∈ entries, claimRank first ≤ claimRank entry := by
  induction entries generalizing first with
  | nil => cases isFirst
  | cons head rest induction =>
      rw [List.pairwise_cons] at ascending
      rw [firstCandidate] at isFirst
      rw [List.forall_mem_cons]
      cases best : firstCandidate rest with
      | none =>
          have noRest : rest = [] := by
            cases rest with
            | nil => rfl
            | cons second rest =>
                rw [firstCandidate] at best
                split at best
                · cases best
                · split at best <;> cases best
          rw [best] at isFirst
          cases isFirst
          subst noRest
          constructor
          · exact le_rfl
          · intro entry impossible
            cases impossible
      | some other =>
          have later := induction ascending.2 best
          rw [best] at isFirst
          dsimp only at isFirst
          split at isFirst
          · next before =>
              cases isFirst
              refine ⟨le_of_lt ?_, later⟩
              rw [claimBefore_iff] at before
              exact Prod.Lex.toLex_lt_toLex.mpr (Or.inl before)
          · next notBefore =>
              cases isFirst
              refine ⟨le_rfl, ?_⟩
              rw [claimBefore_iff, not_lt] at notBefore
              have below : claimRank head ≤ claimRank other := by
                rcases lt_or_eq_of_le notBefore with less | same
                · exact le_of_lt (Prod.Lex.toLex_lt_toLex.mpr (Or.inl less))
                · have older := ascending.1 other (firstCandidate_mem best)
                  exact le_of_lt (Prod.Lex.toLex_lt_toLex.mpr
                    (Or.inr ⟨same, older⟩))
              intro entry member
              exact below.trans (later entry member)

/-- There is a first candidate if there is a candidate. -/
theorem firstCandidate_eq_none_iff (entries : List (Nat × TaskRow)) :
    firstCandidate entries = none ↔ entries = [] := by
  cases entries with
  | nil => exact iff_of_true rfl rfl
  | cons head rest =>
      refine iff_of_false ?_ (List.cons_ne_nil _ _)
      rw [firstCandidate]
      split
      · exact Option.some_ne_none _
      · split <;> exact Option.some_ne_none _

/-! ## One claim -/

section Claim

variable (tasks : Table TaskRow) (workerClass : WorkerClass)
  (claimedAt : Time) (itemConcurrency : Option Nat)

/-- The eligible task which comes first. -/
structure IsFirst (key : Nat) (row : TaskRow) : Prop where
  found : tasks.get key = some row
  eligible : Eligible tasks workerClass claimedAt itemConcurrency row
  first : ∀ other otherRow, tasks.get other = some otherRow →
    Eligible tasks workerClass claimedAt itemConcurrency otherRow →
      claimRank (key, row) ≤ claimRank (other, otherRow)

/-- What a claim answers and writes. -/
structure ClaimsExactly (workerId : String) (claimed : Option Nat)
    (after : Table TaskRow) : Prop where
  taken : ∀ key, claimed = some key →
    ∃ row, IsFirst tasks workerClass claimedAt itemConcurrency key row ∧
      after.get key = some (claimValues workerId claimedAt row)
  others : ∀ key, claimed ≠ some key → after.get key = tasks.get key
  nothing : claimed = none → ∀ key row, tasks.get key = some row →
    ¬ Eligible tasks workerClass claimedAt itemConcurrency row

variable {tasks workerClass claimedAt itemConcurrency}

theorem isFirst_of_claimCandidate
    {key : Nat}
    (candidate : claimCandidate tasks workerClass claimedAt itemConcurrency =
      some key) :
    ∃ row, IsFirst tasks workerClass claimedAt itemConcurrency key row := by
  rcases Option.map_eq_some_iff.mp candidate with
    ⟨⟨first, row⟩, isFirst, rfl⟩
  have member := firstCandidate_mem isFirst
  rw [Table.mem_select_iff, eligible_iff] at member
  have ascending : (tasks.select fun _ row => TaskRepository.eligible tasks
      workerClass claimedAt itemConcurrency row).Pairwise
        fun left right => left.1 < right.1 :=
    (List.pairwise_map.mp tasks.ascending).sublist List.filter_sublist
  refine ⟨row, member.1, member.2, ?_⟩
  intro other otherRow found meets
  apply claimRank_le_of_firstCandidate ascending isFirst
  rw [Table.mem_select_iff, eligible_iff]
  exact ⟨found, meets⟩

theorem not_eligible_of_claimCandidate
    (noCandidate : claimCandidate tasks workerClass claimedAt
      itemConcurrency = none) :
    ∀ key row, tasks.get key = some row →
      ¬ Eligible tasks workerClass claimedAt itemConcurrency row := by
  rw [claimCandidate, Option.map_eq_none_iff,
    firstCandidate_eq_none_iff] at noCandidate
  intro key row found meets
  have member : (key, row) ∈ tasks.select fun _ row =>
      TaskRepository.eligible tasks workerClass claimedAt itemConcurrency
        row := by
    rw [Table.mem_select_iff, eligible_iff]
    exact ⟨found, meets⟩
  rw [noCandidate] at member
  cases member

theorem claimsExactly_claimNext
    (positive : itemConcurrency ≠ some 0) (workerId : String) :
    ∃ claimed after, TaskRepository.claimNext tasks workerClass workerId
        claimedAt itemConcurrency = .ok (claimed, after) ∧
      ClaimsExactly tasks workerClass claimedAt itemConcurrency workerId
        claimed after := by
  rw [TaskRepository.claimNext, if_neg positive]
  cases candidate : claimCandidate tasks workerClass claimedAt
      itemConcurrency with
  | none =>
      refine ⟨none, tasks, rfl, ?_⟩
      constructor
      · intro key impossible
        cases impossible
      · intro key _
        rfl
      · intro _
        exact not_eligible_of_claimCandidate candidate
  | some claimed =>
      rcases isFirst_of_claimCandidate candidate with ⟨row, isFirst⟩
      refine ⟨some claimed, _, rfl, ?_⟩
      constructor
      · rintro key ⟨⟩
        refine ⟨row, isFirst, ?_⟩
        rw [Table.get_modify_self, isFirst.found, Option.map_some]
      · intro key other
        apply Table.get_modify_of_ne
        rintro rfl
        exact other rfl
      · intro impossible
        cases impossible

end Claim

/-! ## Settlements -/

/-- The writes which end the work on a task. -/
def Write.settles : Write → Bool
  | .heartbeat _ | .resultPayload _ | .progress _ => false
  | _ => true

/-- The owner settles the task, or it is recovered. -/
def Settles (tasks : Table TaskRow) (key : Nat) : Action → Prop
  | .write taskId workerId write =>
      taskId = key ∧ write.settles = true ∧
        ∃ row, tasks.get key = some row ∧ row.workerId = some workerId
  | .recoverStale staleBefore _ =>
      ∃ row, tasks.get key = some row ∧ isStale staleBefore row = true
  | _ => False

/-- A running task which is not settled keeps running. -/
theorem running_values
    {tasks : Table TaskRow} {action : Action} {key : Nat} {row : TaskRow}
    {change : Change} (allowed : Allowed tasks action key change row)
    (notSettled : ¬ Settles tasks key action)
    (enabled : change.enabled row) (running : row.status = .running) :
    (change.values row).status = .running := by
  cases allowed with
  | claim => rfl
  | @write taskId workerId write _ _ found owner isChange =>
      subst isChange
      cases write with
      | heartbeat | resultPayload | progress => exact running
      | succeeded | unavailable | failed | cancelled | failedForRetry
          | blocked | release =>
          exact absurd ⟨rfl, rfl, row, found, owner⟩ notSettled
  | writeClose | cancelClose | recoverClose | cancelRunWaiting =>
      rw [Change.enabled, running] at enabled
      cases enabled
  | writeProgress => exact running
  | requestCancel =>
      simp [Change.values, requestCancelValues, running]
  | flag => exact running
  | retry => exact absurd running enabled
  | recover found stale => exact absurd ⟨row, found, stale⟩ notSettled

theorem running_step
    {tasks tasks' : Table TaskRow} {action : Action} {key : Nat}
    {row : TaskRow} (taken : step tasks action = some tasks')
    (notSettled : ¬ Settles tasks key action)
    (found : tasks.get key = some row) (running : row.status = .running) :
    ∃ row', tasks'.get key = some row' ∧ row'.status = .running := by
  rcases step_cases taken with inserts | rewrites
  · exact ⟨row, inserts.kept found, running⟩
  · rcases rewrites.found found with ⟨row', found', chain⟩
    refine ⟨row', found', ?_⟩
    apply chain.invariant (fun row => row.status = .running) running
    intro change row running enabled allowed
    exact running_values allowed notSettled enabled running

/-- A task which is not settled keeps running. -/
theorem running_steps
    {tasks later : Table TaskRow} {key : Nat} {row : TaskRow}
    (steps : Steps step (fun tasks action => ¬ Settles tasks key action)
      tasks later)
    (found : tasks.get key = some row) (running : row.status = .running) :
    ∃ row', later.get key = some row' ∧ row'.status = .running := by
  apply steps.invariant
    (fun tasks => ∃ row, tasks.get key = some row ∧ row.status = .running)
    ⟨row, found, running⟩
  rintro tasks action next ⟨row, found, running⟩ notSettled taken
  exact running_step taken notSettled found running

/-! ## Running downloads -/

/-- Only network workers take downloads. -/
def OnNetwork (tasks : Table TaskRow) : Prop :=
  ∀ key row, tasks.get key = some row → row.type = .download →
    row.workerClass = .network

/-- A claim has the limit, and only pipelines add downloads. -/
def KeepsLimit (limit : Nat) : Action → Prop
  | .claimNext _ _ _ itemConcurrency => itemConcurrency = some limit
  | .enqueue type _ _ _ _ _ _ => type ≠ .download
  | .createTestTask type _ _ _ _ => type ≠ .download
  | _ => True

theorem onNetwork_step
    {limit : Nat} {tasks tasks' : Table TaskRow} {action : Action}
    (taken : step tasks action = some tasks')
    (keeps : KeepsLimit limit action) (held : OnNetwork tasks) :
    OnNetwork tasks' := by
  intro key row' found' download
  cases found : tasks.get key with
  | some row =>
      rcases step_fixedColumns taken found with ⟨other, isOther, same⟩
      rw [found'] at isOther
      cases isOther
      simp only [fixedColumns, Prod.mk.injEq] at same
      rw [same.2.2.2.1]
      exact held key row found (same.1.symm.trans download)
  | none =>
      cases isNew : isInsert action with
      | false =>
          have absent := (step_rewrites isNew taken).absent found
          rw [found'] at absent
          cases absent
      | true =>
          cases action with
          | enqueue type targetRefType targetRefId payload workerClass
              maxAttempts runId =>
              cases taken
              have isRow := Table.eq_of_get_insert found found'
              subst isRow
              exact absurd download keeps
          | createTestTask type payload workerClass priority maxAttempts =>
              cases taken
              have isRow := Table.eq_of_get_insert found found'
              subst isRow
              exact absurd download keeps
          | enqueuePipeline targetId runId workId maxAttempts =>
              cases taken
              have isStep := ((enqueuePipeline_extends tasks targetId runId
                workId maxAttempts).new found found').step
              rw [download] at isStep
              simpa [pipelineSteps] using isStep
          | _ => cases isNew

/-- The keys of the running downloads. -/
theorem runningDownloads_le
    {tasks : Table TaskRow} {keys : List Nat}
    (listed : ∀ key row, tasks.get key = some row → row.type = .download →
      row.status = .running → key ∈ keys) :
    runningDownloads tasks ≤ keys.length := by
  apply Table.count_le_of_keys
  intro key row found condition
  rw [Bool.and_eq_true, beq_iff_eq, beq_iff_eq] at condition
  exact listed key row found condition.1 condition.2

/-- A download which runs after a step ran before, or has been claimed. -/
theorem running_before_step
    {tasks tasks' : Table TaskRow} {action : Action} {key : Nat}
    {row : TaskRow} (taken : step tasks action = some tasks')
    (found : tasks'.get key = some row) (running : row.status = .running) :
    (∃ old, tasks.get key = some old ∧ old.type = row.type ∧
        old.status = .running) ∨
      ∃ workerClass workerId claimedAt itemConcurrency,
        action = .claimNext workerClass workerId claimedAt itemConcurrency ∧
        TaskRepository.claimNext tasks workerClass workerId claimedAt
          itemConcurrency = .ok (some key, tasks') := by
  rcases step_cases taken with inserts | rewrites
  · cases old : tasks.get key with
    | none =>
        have fresh := (inserts.new old found).1
        rw [fresh.status] at running
        cases running
    | some oldRow =>
        have kept := inserts.kept old
        rw [found] at kept
        cases kept
        exact Or.inl ⟨_, rfl, rfl, running⟩
  · rcases rewrites.origin found with ⟨old, isOld, chain⟩
    have sameType : row.type = old.type := by
      have columns := fixedColumns_of_chain chain
      simp only [fixedColumns, Prod.mk.injEq] at columns
      exact columns.1
    by_cases claimed : ∃ workerId claimedAt otherRow,
        Allowed tasks action key (.claim workerId claimedAt) otherRow
    · rcases claimed with ⟨workerId, claimedAt, otherRow, allowed⟩
      cases allowed with
      | @write _ _ write _ _ _ _ isChange => cases write <;> cases isChange
      | claim claims =>
          rcases claims_of_step taken with ⟨other, sameClaims⟩
          rw [claims] at sameClaims
          cases sameClaims
          exact Or.inr ⟨_, _, _, _, rfl, claims⟩
    · refine Or.inl ⟨old, isOld, sameType.symm, ?_⟩
      by_contra notRunning
      apply chain.invariant (fun row => row.status ≠ .running) notRunning
        ?_ running
      intro change middle idle enabled allowed isRunning
      rcases Change.running_values enabled isRunning with
        ⟨workerId, claimedAt, rfl⟩ | ⟨wasRunning, -⟩
      · exact claimed ⟨workerId, claimedAt, middle, allowed⟩
      · exact idle wasRunning

/-- A claim fills a free slot, or takes no download. -/
theorem runningDownloads_step
    {limit : Nat} {tasks tasks' : Table TaskRow} {action : Action}
    (taken : step tasks action = some tasks')
    (keeps : KeepsLimit limit action) (network : OnNetwork tasks)
    (held : runningDownloads tasks ≤ limit) :
    runningDownloads tasks' ≤ limit := by
  have before : runningDownloads tasks =
      ((tasks.select fun _ row => row.type == .download &&
        row.status == .running).map Prod.fst).length := by
    rw [List.length_map]
    rfl
  have listed : ∀ key old, tasks.get key = some old →
      old.type = .download → old.status = .running →
      key ∈ (tasks.select fun _ row => row.type == .download &&
        row.status == .running).map Prod.fst := by
    intro key old found download running
    refine List.mem_map.mpr ⟨(key, old), ?_, rfl⟩
    rw [Table.mem_select_iff, Bool.and_eq_true, beq_iff_eq, beq_iff_eq]
    exact ⟨found, download, running⟩
  by_cases claims : ∃ key row workerClass workerId claimedAt,
      action = .claimNext workerClass workerId claimedAt (some limit) ∧
      TaskRepository.claimNext tasks workerClass workerId claimedAt
        (some limit) = .ok (some key, tasks') ∧
      tasks.get key = some row ∧ row.type = .download
  · rcases claims with
      ⟨key, row, workerClass, workerId, claimedAt, rfl, claims, found,
        download⟩
    rcases eligible_of_claimCandidate (claimNext_cases claims).1.symm with
      ⟨other, isOther, meets⟩
    rw [found] at isOther
    cases isOther
    rw [eligible_iff] at meets
    have free := meets.slot limit
      (meets.sameClass.symm.trans (network key row found download)) rfl
      download
    have most := @runningDownloads_le tasks'
      (key :: (tasks.select fun _ row => row.type == .download &&
        row.status == .running).map Prod.fst) ?_
    · rw [List.length_cons, ← before] at most
      omega
    · intro other otherRow isOther isDownload running
      rcases running_before_step taken isOther running with
        ⟨old, isOld, sameType, wasRunning⟩ |
        ⟨_, _, _, _, ⟨⟩, sameClaims⟩
      · exact List.mem_cons_of_mem _ (listed other old isOld
          (sameType.trans isDownload) wasRunning)
      · rw [claims] at sameClaims
        cases sameClaims
        exact List.mem_cons_self
  · refine (@runningDownloads_le tasks' _ ?_).trans (before ▸ held)
    intro other otherRow isOther isDownload running
    rcases running_before_step taken isOther running with
      ⟨old, isOld, sameType, wasRunning⟩ |
      ⟨workerClass, workerId, claimedAt, itemConcurrency, rfl, isClaim⟩
    · exact listed other old isOld (sameType.trans isDownload) wasRunning
    · exfalso
      apply claims
      cases keeps
      rcases eligible_of_claimCandidate
        (claimNext_cases isClaim).1.symm with ⟨row, found, -⟩
      refine ⟨other, row, workerClass, workerId, claimedAt, rfl, isClaim,
        found, ?_⟩
      rcases step_fixedColumns taken found with ⟨after, isAfter, same⟩
      rw [isOther] at isAfter
      cases isAfter
      simp only [fixedColumns, Prod.mk.injEq] at same
      exact same.1.symm.trans isDownload

theorem runningDownloads_steps
    {limit : Nat} {first later : Table TaskRow}
    (steps : Steps step (fun _ action => KeepsLimit limit action)
      first later)
    (network : OnNetwork first) (held : runningDownloads first ≤ limit) :
    OnNetwork later ∧ runningDownloads later ≤ limit := by
  apply steps.invariant
    (fun tasks => OnNetwork tasks ∧ runningDownloads tasks ≤ limit)
    ⟨network, held⟩
  rintro tasks action next ⟨network, held⟩ keeps taken
  exact ⟨onNetwork_step taken keeps network,
    runningDownloads_step taken keeps network held⟩

/-! ## Claims over runs -/

/-- Two pipelines wait for one slot. -/
def twoPipelines : Table TaskRow :=
  (enqueuePipeline (enqueuePipeline .empty 1 none "first" 5).2 2 none
    "second" 5).2

end Sluicery.Tasks.Queue
