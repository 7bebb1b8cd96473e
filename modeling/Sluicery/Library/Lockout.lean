import Mathlib

/-!
# Locking after failed attempts

A counter of failed attempts locks when it reaches a limit, and starts again
from zero when the lock has ended.  A chain is a part of a history; its
moments have the counter before each event.
-/

namespace Sluicery.Library.Lockout

universe u

variable {Time : Type u}

/-- How many attempts may fail, and how long a lock lasts from a time. -/
structure Rule (Time : Type u) where
  limit : Int
  ends : Time → Time

/-- The failed attempts, and when the lock ends. -/
structure Counter (Time : Type u) where
  failed : Int := 0
  lockedUntil : Option Time := none
deriving DecidableEq

inductive Event where
  | idle
  | attempt (right : Bool)
  | reset
deriving DecidableEq, Repr

/-- An event, with its time and the counter before it. -/
structure Moment (Time : Type u) where
  counter : Counter Time
  now : Time
  event : Event

namespace Counter

/-- A lock which has ended is lifted. -/
def unlock (counter : Counter Time) : Counter Time :=
  if counter.lockedUntil.isSome then {} else counter

theorem unlock_of_none
    {counter : Counter Time} (notLocked : counter.lockedUntil = none) :
    counter.unlock = counter := by
  rw [unlock, notLocked]
  rfl

/-- An attempt fails. -/
def fail (rule : Rule Time) (now : Time) (counter : Counter Time) :
    Counter Time where
  failed := counter.failed + 1
  lockedUntil :=
    if rule.limit ≤ counter.failed + 1 then some (rule.ends now)
    else counter.lockedUntil

variable [LinearOrder Time]

/-- A lock is in force. -/
def isLocked (counter : Counter Time) (now : Time) : Bool :=
  counter.lockedUntil.any fun lockedUntil => now < lockedUntil

/-- A lock has ended. -/
def isExpired (counter : Counter Time) (now : Time) : Bool :=
  counter.lockedUntil.any fun lockedUntil => lockedUntil ≤ now

/-- Without a lock in force, a lock has ended or there is none. -/
theorem isExpired_or_eq_none
    {counter : Counter Time} {now : Time}
    (notLocked : counter.isLocked now = false) :
    counter.isExpired now = true ∨ counter.lockedUntil = none := by
  rw [isLocked] at notLocked
  rw [isExpired]
  cases isLock : counter.lockedUntil with
  | none => exact Or.inr rfl
  | some lockedUntil =>
      rw [isLock, Option.any_some, decide_eq_false_iff_not, not_lt]
        at notLocked
      exact Or.inl (decide_eq_true notLocked)

theorem not_isLocked_of_isExpired
    {counter : Counter Time} {now : Time}
    (expired : counter.isExpired now = true) :
    counter.isLocked now = false := by
  rw [isExpired] at expired
  rw [isLocked]
  cases isLock : counter.lockedUntil with
  | none => rfl
  | some lockedUntil =>
      rw [isLock, Option.any_some, decide_eq_true_iff] at expired
      exact decide_eq_false (not_lt.2 expired)

theorem unlock_of_isExpired
    {counter : Counter Time} {now : Time}
    (expired : counter.isExpired now = true) :
    counter.unlock = {} := by
  rw [isExpired] at expired
  rw [unlock]
  cases isLock : counter.lockedUntil with
  | none =>
      rw [isLock] at expired
      cases expired
  | some lockedUntil => rfl

end Counter

/-! ## How many failures -/

variable {rule : Rule Time}

/-- So many failures are within the limit. -/
structure Within (rule : Rule Time) (count : Nat) (counter : Counter Time) :
    Prop where
  failed : (count : Int) ≤ counter.failed
  limit : (count : Int) ≤ rule.limit
  locked : counter.lockedUntil.isSome = true ∨ (count : Int) < rule.limit

/-- So many failures have been counted, and the lock is for the last one. -/
structure Exactly (rule : Rule Time) (count : Nat) (counter : Counter Time) :
    Prop where
  failed : counter.failed = count
  limit : (count : Int) ≤ rule.limit
  locked : counter.lockedUntil.isSome = true ↔ (count : Int) = rule.limit

theorem Within.fail {count : Nat} {counter : Counter Time} {now : Time}
    (within : Within rule count counter)
    (notLocked : counter.lockedUntil = none) :
    Within rule (count + 1) (counter.fail rule now) := by
  have failed := within.failed
  have isLess : (count : Int) < rule.limit := by
    rcases within.locked with isLock | isLess
    · rw [notLocked] at isLock
      cases isLock
    · exact isLess
  constructor
  · show ((count + 1 : Nat) : Int) ≤ counter.failed + 1
    omega
  · omega
  · rw [Counter.fail]
    split
    · exact Or.inl rfl
    · exact Or.inr (by omega)

theorem Exactly.fail {count : Nat} {counter : Counter Time} {now : Time}
    (counts : Exactly rule count counter)
    (notLocked : counter.lockedUntil = none) :
    Exactly rule (count + 1) (counter.fail rule now) := by
  have failed := counts.failed
  have limit := counts.limit
  have notLast : (count : Int) ≠ rule.limit := by
    intro isLast
    have isLock := counts.locked.2 isLast
    rw [notLocked] at isLock
    cases isLock
  constructor
  · show counter.failed + 1 = ((count + 1 : Nat) : Int)
    omega
  · omega
  · rw [Counter.fail]
    split
    · exact ⟨fun _ => by omega, fun _ => rfl⟩
    · rw [notLocked]
      exact ⟨nofun, fun isLast => by omega⟩

theorem Exactly.within {count : Nat} {counter : Counter Time}
    (counts : Exactly rule count counter) : Within rule count counter where
  failed := Int.le_of_eq counts.failed.symm
  limit := counts.limit
  locked := by
    rcases Int.lt_or_eq_of_le counts.limit with isLess | isLast
    · exact Or.inr isLess
    · exact Or.inl (counts.locked.2 isLast)

theorem exactly_zero (positive : 1 ≤ rule.limit) :
    Exactly rule 0 ({} : Counter Time) := by
  constructor
  · rfl
  · exact Int.le_trans (by decide) positive
  · constructor
    · nofun
    · intro isZero
      rw [← isZero] at positive
      cases positive

variable [LinearOrder Time]

/-! ## Moments -/

namespace Moment

/-- The counter after an event. -/
def after (rule : Rule Time) (moment : Moment Time) : Counter Time :=
  match moment.event with
  | .idle => moment.counter
  | .reset => {}
  | .attempt right =>
      if moment.counter.isLocked moment.now then moment.counter
      else if right then {}
      else moment.counter.unlock.fail rule moment.now

/-- The event is an attempt. -/
def attempts (moment : Moment Time) : Bool :=
  match moment.event with
  | .attempt _ => true
  | _ => false

/-- An attempt is verified and fails. -/
def fails (moment : Moment Time) : Bool :=
  !moment.counter.isLocked moment.now && moment.event == .attempt false

/-- The event is a reset, or an attempt which succeeds. -/
def resets (moment : Moment Time) : Bool :=
  moment.event == .reset ||
    (!moment.counter.isLocked moment.now && moment.event == .attempt true)

/-- An attempt finds a lock which has ended. -/
def expires (moment : Moment Time) : Bool :=
  moment.attempts && moment.counter.isExpired moment.now

end Moment

/-- The moments follow one another from a counter to a counter. -/
def Chain (rule : Rule Time) (start finish : Counter Time) :
    List (Moment Time) → Prop
  | [] => start = finish
  | moment :: rest =>
      moment.counter = start ∧ Chain rule (moment.after rule) finish rest

/-! ## Chains -/

section Chains

variable {rule : Rule Time} {start finish : Counter Time}
  {moment : Moment Time} {first second : List (Moment Time)}

theorem chain_append :
    Chain rule start finish (first ++ second) ↔
      ∃ middle, Chain rule start middle first ∧
        Chain rule middle finish second := by
  induction first generalizing start with
  | nil =>
      constructor
      · exact fun chain => ⟨start, rfl, chain⟩
      · rintro ⟨middle, rfl, chain⟩
        exact chain
  | cons moment rest induction =>
      rw [List.cons_append, Chain, induction]
      constructor
      · rintro ⟨same, middle, left, right⟩
        exact ⟨middle, ⟨same, left⟩, right⟩
      · rintro ⟨middle, ⟨same, left⟩, right⟩
        exact ⟨same, middle, left, right⟩

/-- What every moment preserves holds after a chain. -/
theorem Chain.counted
    (holds : Nat → Counter Time → Prop)
    (chain : Chain rule start finish first) (count : Nat)
    (initially : holds count start)
    (preserved : ∀ moment ∈ first, ∀ before, holds before moment.counter →
      holds (before + if moment.fails then 1 else 0) (moment.after rule)) :
    holds (count + first.countP Moment.fails) finish := by
  induction first generalizing start count with
  | nil =>
      rw [show start = finish from chain] at initially
      exact initially
  | cons moment rest induction =>
      rcases chain with ⟨rfl, chain⟩
      have now := preserved moment List.mem_cons_self count initially
      have later := induction chain _ now fun other member =>
        preserved other (List.mem_cons_of_mem _ member)
      rw [List.countP_cons, ← Nat.add_assoc, Nat.add_right_comm]
      exact later

theorem after_failed (notNegative : 0 ≤ moment.counter.failed) :
    0 ≤ (moment.after rule).failed := by
  rw [Moment.after]
  split
  · exact notNegative
  · exact Int.le_refl 0
  · split
    · exact notNegative
    · split
      · exact Int.le_refl 0
      · have unlocked : 0 ≤ moment.counter.unlock.failed := by
          rw [Counter.unlock]
          split
          · exact Int.le_refl 0
          · exact notNegative
        exact Int.add_nonneg unlocked (by decide)

theorem after_of_refused
    (isRefused : moment.counter.isLocked moment.now = true)
    (notReset : moment.event ≠ .reset) :
    moment.after rule = moment.counter := by
  rw [Moment.after]
  cases isEvent : moment.event with
  | idle => rfl
  | reset => exact absurd isEvent notReset
  | attempt right =>
      simp only [isRefused, if_true]

theorem after_of_resets (resets : moment.resets = true) :
    moment.after rule = {} := by
  rcases moment with ⟨counter, now, event⟩
  cases event with
  | idle => simp [Moment.resets] at resets
  | reset => rfl
  | attempt right => simp_all [Moment.resets, Moment.after]

/-- Without a reset, a moment is idle, refused or a failure. -/
theorem idle_or_fails
    (rule : Rule Time) (noReset : moment.resets = false) :
    (moment.fails = false ∧ moment.after rule = moment.counter) ∨
      (moment.fails = true ∧ moment.counter.isLocked moment.now = false ∧
        moment.attempts = true ∧
        moment.after rule = moment.counter.unlock.fail rule moment.now) := by
  rcases moment with ⟨counter, now, event⟩
  cases event with
  | idle => exact Or.inl ⟨Bool.and_false _, rfl⟩
  | reset => cases noReset
  | attempt right =>
      cases isLocked : counter.isLocked now with
      | true =>
          simp [Moment.fails, Moment.after, isLocked]
      | false =>
          cases right with
          | true =>
              simp [Moment.resets, isLocked] at noReset
          | false =>
              simp [Moment.fails, Moment.after, Moment.attempts, isLocked]

/-- An attempt which finds no lock. -/
theorem lockedUntil_of_attempts
    (attempts : moment.attempts = true)
    (notLocked : moment.counter.isLocked moment.now = false)
    (noExpiry : moment.expires = false) :
    moment.counter.lockedUntil = none := by
  rcases Counter.isExpired_or_eq_none notLocked with expired | isNone
  · rw [Moment.expires, attempts, expired] at noExpiry
    cases noExpiry
  · exact isNone

/-- An attempt after a lock has not been refused. -/
theorem fails_of_expires
    (rule : Rule Time) (expires : moment.expires = true)
    (noReset : moment.resets = false) :
    moment.fails = true ∧ moment.after rule =
      (({} : Counter Time).fail rule moment.now) := by
  rw [Moment.expires, Bool.and_eq_true] at expires
  rcases expires with ⟨attempts, expired⟩
  rcases idle_or_fails rule noReset with
    ⟨notFails, -⟩ | ⟨fails, -, -, after⟩
  · rcases moment with ⟨counter, now, event⟩
    cases event with
    | idle => cases attempts
    | reset => cases attempts
    | attempt right =>
        have notLocked := Counter.not_isLocked_of_isExpired expired
        cases right <;>
          simp_all [Moment.fails, Moment.resets]
  · rw [Counter.unlock_of_isExpired expired] at after
    exact ⟨fails, after⟩

/-! ## Parts of a history -/

/-- Without a reset, the failures are within the limit. -/
theorem Within.after {count : Nat}
    (within : Within rule count moment.counter)
    (noReset : moment.resets = false)
    (noExpiry : moment.expires = false) :
    Within rule (count + if moment.fails then 1 else 0)
      (moment.after rule) := by
  rcases idle_or_fails rule noReset with
    ⟨notFails, after⟩ | ⟨fails, notLocked, attempts, after⟩
  · rw [after, notFails]
    exact within
  · have isNone := lockedUntil_of_attempts attempts notLocked noExpiry
    rw [after, fails, Counter.unlock_of_none isNone]
    exact within.fail isNone

/-- Without a reset, the failures are counted exactly. -/
theorem Exactly.after {count : Nat}
    (counts : Exactly rule count moment.counter)
    (noReset : moment.resets = false)
    (noExpiry : moment.expires = false) :
    Exactly rule (count + if moment.fails then 1 else 0)
      (moment.after rule) := by
  rcases idle_or_fails rule noReset with
    ⟨notFails, after⟩ | ⟨fails, notLocked, attempts, after⟩
  · rw [after, notFails]
    exact counts
  · have isNone := lockedUntil_of_attempts attempts notLocked noExpiry
    rw [after, fails, Counter.unlock_of_none isNone]
    exact counts.fail isNone

/-- At most so many attempts fail, from any counter on. -/
theorem Chain.within
    (positive : 1 ≤ rule.limit) (notNegative : 0 ≤ start.failed)
    (chain : Chain rule start finish first)
    (noReset : ∀ moment ∈ first, moment.resets = false)
    (noExpiry : ∀ moment ∈ first.tail, moment.expires = false) :
    Within rule (first.countP Moment.fails) finish := by
  have initially : Within rule 0 start := by
    constructor
    · exact notNegative
    · exact Int.le_trans (by decide) positive
    · exact Or.inr (Int.lt_of_lt_of_le (by decide) positive)
  cases first with
  | nil =>
      rw [show start = finish from chain] at initially
      exact initially
  | cons moment rest =>
      rcases chain with ⟨rfl, chain⟩
      have isFirst := noReset moment List.mem_cons_self
      have began : Within rule (if moment.fails then 1 else 0)
          (moment.after rule) := by
        cases expiry : moment.expires with
        | true =>
            rcases fails_of_expires rule expiry isFirst with
              ⟨fails, after⟩
            rw [fails, after]
            exact ((exactly_zero positive).fail rfl).within
        | false =>
            have within := initially.after isFirst expiry
            rw [Nat.zero_add] at within
            exact within
      rw [List.countP_cons, Nat.add_comm]
      exact chain.counted (Within rule) _ began fun other member _ within =>
        within.after (noReset other (List.mem_cons_of_mem _ member))
          (noExpiry other member)

/-- After a reset the failures are counted from zero. -/
theorem Chain.exactly
    (positive : 1 ≤ rule.limit)
    (chain : Chain rule {} finish first)
    (noReset : ∀ moment ∈ first, moment.resets = false)
    (noExpiry : ∀ moment ∈ first.tail, moment.expires = false) :
    Exactly rule (first.countP Moment.fails) finish := by
  have noExpiry : ∀ moment ∈ first, moment.expires = false := by
    cases first with
    | nil => exact nofun
    | cons moment rest =>
        rintro other (_ | ⟨_, member⟩)
        · rw [Moment.expires, chain.1]
          exact Bool.and_false _
        · exact noExpiry other member
  have counts := chain.counted (Exactly rule) 0 (exactly_zero positive)
    fun other member _ counts =>
      counts.after (noReset other member) (noExpiry other member)
  rw [Nat.zero_add] at counts
  exact counts

/-- After a lock has ended they are counted from zero, too. -/
theorem Chain.exactly_of_expires
    (positive : 1 ≤ rule.limit)
    (chain : Chain rule start finish (moment :: first))
    (expires : moment.expires = true)
    (noReset : ∀ other ∈ moment :: first, other.resets = false)
    (noExpiry : ∀ other ∈ first, other.expires = false) :
    Exactly rule ((moment :: first).countP Moment.fails) finish := by
  rcases chain with ⟨rfl, chain⟩
  rcases fails_of_expires rule expires
    (noReset moment List.mem_cons_self) with ⟨fails, after⟩
  have began : Exactly rule 1 (moment.after rule) := by
    rw [after]
    exact (exactly_zero positive).fail rfl
  rw [List.countP_cons, fails, if_pos rfl, Nat.add_comm]
  exact chain.counted (Exactly rule) 1 began fun other member _ counts =>
    counts.after (noReset other (List.mem_cons_of_mem _ member))
      (noExpiry other member)

/-- A lock in force stays as it is. -/
theorem Chain.locked
    {lockedUntil : Time} (isLock : start.lockedUntil = some lockedUntil)
    (chain : Chain rule start finish first)
    (inForce : ∀ moment ∈ first, moment.now < lockedUntil)
    (noReset : ∀ moment ∈ first, moment.event ≠ .reset) :
    finish = start := by
  induction first with
  | nil => exact Eq.symm chain
  | cons moment rest induction =>
      rcases chain with ⟨same, chain⟩
      have isRefused : moment.counter.isLocked moment.now = true := by
        rw [Counter.isLocked, same, isLock]
        exact decide_eq_true (inForce moment List.mem_cons_self)
      rw [after_of_refused isRefused (noReset moment List.mem_cons_self),
        same] at chain
      exact induction chain
        (fun other member => inForce other (List.mem_cons_of_mem _ member))
        fun other member => noReset other (List.mem_cons_of_mem _ member)

end Chains

end Sluicery.Library.Lockout
