import Mathlib.Data.Int.Order.Basic
import Mathlib.Data.List.Induction
import Sluicery.Library.Lockout
import Sluicery.Web.Sessions

/-!
# Locking the login after failed attempts

The columns `failed_login_attempts` and `locked_until` of the user are a
counter with a lock: a login of any history is an attempt, and a new password
is a reset.
-/

namespace Sluicery.Web.Auth

open Sluicery.Library Sluicery.Library.Lockout Sluicery.Db

/-! ## The counter of the user -/

/-- The limit and the length of a lock. -/
def Limits.rule (limits : Limits) : Rule Time where
  limit := limits.maxLoginAttempts
  ends now := now + limits.lockoutSec

def UserRow.counter (user : UserRow) : Counter Time where
  failed := user.failedLoginAttempts
  lockedUntil := user.lockedUntil

/-- The counter of the single user. -/
def AuthState.counter (state : AuthState) : Counter Time :=
  match state.users.rows.head? with
  | none => {}
  | some (_, user) => user.counter

/-- What an event is for the single user. -/
def Event.forCounter (environment : Environment) (state : AuthState)
    (event : Event) : Lockout.Event :=
  match event, state.users.rows.head? with
  | .login _ username password _, some (_, user) =>
      .attempt (decide (username = user.username ∧
        environment.verifyPassword user.passwordHash password = true))
  | .changePassword userId currentPassword _ _, some (key, user) =>
      if userId = key ∧
          environment.verifyPassword user.passwordHash currentPassword then
        .reset
      else .idle
  | _, _ => .idle

/-- An entry as a moment of the counter. -/
def Entry.moment (environment : Environment) (entry : Entry) :
    Moment Time where
  counter := entry.before.counter
  now := entry.action.clock.now
  event := entry.action.event.forCounter environment entry.before

/-! ## Calls -/

theorem counter_of_users {state after : AuthState}
    (same : after.users = state.users) : after.counter = state.counter := by
  rw [AuthState.counter, AuthState.counter, same]

theorem head?_modify {Row : Type} (table : Table Row) (key : Nat)
    (change : Row → Row) :
    (table.modify key change).rows.head? =
      table.rows.head?.map fun entry =>
        (entry.1, if entry.1 == key then change entry.2 else entry.2) :=
  List.head?_map

/-- The user who is found first has the key. -/
theorem get_of_head? {Row : Type} {table : Table Row} {key : Nat} {row : Row}
    (isFirst : table.rows.head? = some (key, row)) :
    table.get key = some row := by
  rw [Table.get]
  rcases List.head?_eq_some_iff.1 isFirst with ⟨rest, isRows⟩
  rw [isRows, List.find?_cons_of_pos (by simp)]
  rfl

theorem counter_unlock (user : UserRow) :
    (unlock user).counter = user.counter.unlock := by
  have isLock : user.counter.lockedUntil = user.lockedUntil := rfl
  rw [unlock, Counter.unlock, isLock]
  split
  · rfl
  · rfl

/-- The counter after a login. -/
theorem counter_authenticate
    (environment : Environment) (state : AuthState)
    (currentToken username password salt : String) (limits : Limits)
    (clock : Clock) :
    (authenticate environment state currentToken username password salt limits
        clock).2.counter =
      (Moment.mk state.counter clock.now
        (Event.forCounter environment state
          (.login currentToken username password salt))).after
            limits.rule := by
  rw [authenticate]
  cases isFirst : state.users.rows.head? with
  | none =>
      simp only [Event.forCounter, isFirst]
      rfl
  | some entry =>
      rcases entry with ⟨key, user⟩
      have isCounter : state.counter = user.counter := by
        rw [AuthState.counter, isFirst]
      have changed : ∀ (change : UserRow → UserRow),
          AuthState.counter { state with
            users := state.users.modify key change } =
            (change user).counter := by
        intro change
        rw [AuthState.counter, head?_modify, isFirst]
        simp
      simp only [Event.forCounter, isFirst, isCounter, Moment.after]
      split
      · next isLocked =>
          rw [isCounter]
          exact (if_pos isLocked).symm
      · next notLocked =>
          rw [show user.counter.isLocked clock.now = false from
            Bool.eq_false_iff.2 notLocked, if_neg Bool.false_ne_true]
          split
          · next right =>
              rw [if_pos (decide_eq_true right)]
              have created := (creates_createSession environment
                (deleteSession environment
                  { state with
                    users := state.users.modify key fun user =>
                      passLogin environment password salt clock.now
                        (unlock user) } currentToken)
                (some key) limits clock).users
              rw [counter_of_users created]
              exact changed _
          · next wrong =>
              rw [if_neg (by rw [decide_eq_true_iff]; exact wrong)]
              rw [changed, ← counter_unlock]
              rfl

/-- The counter after a change of the password. -/
theorem counter_changePassword
    (environment : Environment) (state : AuthState) (userId : Nat)
    (currentPassword newPassword salt : String) (limits : Limits)
    (now : Time) :
    (changePassword environment state userId currentPassword newPassword
        salt).2.counter =
      (Moment.mk state.counter now
        (Event.forCounter environment state
          (.changePassword userId currentPassword newPassword salt))).after
            limits.rule := by
  rw [changePassword]
  cases isFirst : state.users.rows.head? with
  | none =>
      have isEmpty : state.users.rows = [] := List.head?_eq_none_iff.1 isFirst
      have missing : state.users.get userId = none := by
        rw [Table.get, isEmpty]
        rfl
      simp only [missing, Event.forCounter, isFirst, Moment.after]
  | some entry =>
      rcases entry with ⟨key, user⟩
      have isUser := get_of_head? isFirst
      simp only [Event.forCounter, isFirst]
      by_cases same : userId = key
      · subst same
        simp only [isUser, true_and]
        split
        · simp only [AuthState.counter, head?_modify, isFirst, Option.map_some,
            BEq.rfl, if_true, UserRow.counter, Moment.after]
        · rfl
      · rw [if_neg fun both => same both.1]
        have other : ((key == userId) = true) = False := by
          rw [beq_iff_eq, eq_iff_iff, iff_false]
          exact fun isKey => same isKey.symm
        split
        · rfl
        · split
          · simp only [AuthState.counter, head?_modify, isFirst,
              Option.map_some, other, if_false, Moment.after]
          · rfl

/-- What an event does to the counter. -/
theorem counter_perform
    (environment : Environment) (state : AuthState) (action : Action)
    (outcome : Outcome) :
    (perform environment state action).2.counter =
      (Entry.moment environment ⟨state, action, outcome⟩).after
        action.limits.rule := by
  rcases action with ⟨event, clock, limits⟩
  cases event with
  | ensureInitialUser username password salt =>
      simp only [perform, ensureInitialUser, Entry.moment, Event.forCounter,
        Moment.after]
      split
      · rfl
      · next isFirst =>
          have isEmpty := List.head?_eq_none_iff.1 isFirst
          simp only [AuthState.counter, Table.insert, isEmpty]
          rfl
  | createSession =>
      exact counter_of_users
        (creates_createSession environment state none limits clock).users
  | request cookie =>
      have loads := loads_loadSession environment state cookie clock.now
      show (perform environment state _).2.counter = state.counter
      simp only [perform]
      split
      · exact counter_of_users loads.users
      · exact counter_of_users
          ((creates_createSession environment _ none limits clock).users.trans
            loads.users)
  | login currentToken username password salt =>
      exact counter_authenticate environment state currentToken username
        password salt limits clock
  | logout token => rfl
  | changePassword userId currentPassword newPassword salt =>
      exact counter_changePassword environment state userId currentPassword
        newPassword salt limits clock.now

/-- A login which is refused changes nothing. -/
theorem perform_of_isLocked
    (environment : Environment) {entry : Entry}
    (attempts : (entry.moment environment).attempts = true)
    (isLocked : entry.before.counter.isLocked entry.action.clock.now = true) :
    perform environment entry.before entry.action =
      (.login (.ok { ok := false }), entry.before) := by
  rcases entry with ⟨state, ⟨event, clock, limits⟩, outcome⟩
  cases isFirst : state.users.rows.head? with
  | none =>
      simp only [AuthState.counter, isFirst, Counter.isLocked,
        Option.any_none, Bool.false_eq_true] at isLocked
  | some entry =>
      rcases entry with ⟨key, user⟩
      simp only [AuthState.counter, isFirst] at isLocked
      cases event with
      | login currentToken username password salt =>
          have isRefused : (user.lockedUntil.any fun lockedUntil =>
              decide (clock.now < lockedUntil)) = true := isLocked
          simp only [perform, authenticate, isFirst, isRefused, if_true]
      | changePassword userId currentPassword newPassword salt =>
          simp only [Entry.moment, Event.forCounter, isFirst,
            Moment.attempts] at attempts
          split at attempts
          · next right =>
              split at right
              · cases right
              · cases right
          · cases attempts
      | ensureInitialUser username password salt => cases attempts
      | createSession => cases attempts
      | request cookie => cases attempts
      | logout token => cases attempts

/-! ## Histories -/

theorem execute_concat
    (environment : Environment) (start : AuthState) (actions : List Action)
    (action : Action) :
    execute environment start (actions ++ [action]) =
      let done := execute environment start actions
      let performed := perform environment done.2 action
      (done.1 ++ [⟨done.2, action, performed.1⟩], performed.2) := by
  exact List.foldl_append

theorem execute_actions
    (environment : Environment) (start : AuthState) (actions : List Action) :
    (execute environment start actions).1.map Entry.action = actions := by
  induction actions using List.reverseRecOn with
  | nil => rfl
  | append_singleton rest action induction =>
      rw [execute_concat, List.map_append, induction]
      rfl

/-- The entries of a history are a chain of moments. -/
theorem chain_execute
    (environment : Environment) (start : AuthState) {limits : Limits}
    (actions : List Action)
    (constant : ∀ action ∈ actions, action.limits = limits) :
    Chain limits.rule start.counter
      (execute environment start actions).2.counter
      ((execute environment start actions).1.map
        (Entry.moment environment)) := by
  induction actions using List.reverseRecOn with
  | nil => rfl
  | append_singleton rest action induction =>
      have before := induction fun other member =>
        constant other (List.mem_append_left _ member)
      have isLimits := constant action (List.mem_append_right _ (by simp))
      rw [execute_concat, List.map_append, chain_append]
      have performed := counter_perform environment
        (execute environment start rest).2 action
        (perform environment (execute environment start rest).2 action).1
      rw [isLimits] at performed
      exact ⟨_, before, rfl, performed.symm⟩

/-- No failed attempts are taken off the counter but by a reset. -/
theorem failed_execute
    (environment : Environment) {start : AuthState}
    (notNegative : 0 ≤ start.counter.failed) (actions : List Action) :
    0 ≤ (execute environment start actions).2.counter.failed := by
  induction actions using List.reverseRecOn with
  | nil => exact notNegative
  | append_singleton rest action induction =>
      rw [execute_concat]
      dsimp only
      rw [counter_perform environment _ action (.loggedOut)]
      exact after_failed induction

/-! ## The lockout -/

/-- A part of a history in which nothing resets the counter. -/
structure WithoutReset (environment : Environment) (part : List Entry) :
    Prop where
  /-- No login of it succeeds, and the password is not changed. -/
  noReset : ∀ entry ∈ part, (entry.moment environment).resets = false
  /-- No lock ends in it; one may have ended before its first login. -/
  noExpiry : ∀ entry ∈ part.tail, (entry.moment environment).expires = false

/-- The counter has just been reset before a part of a history. -/
def StartsAfresh (environment : Environment) (earlier part : List Entry) :
    Prop :=
  (∃ entry, earlier.getLast? = some entry ∧
      (entry.moment environment).resets = true) ∨
    ∃ entry, part.head? = some entry ∧
      (entry.moment environment).expires = true

/-- How many logins of a part fail, without those which are refused. -/
def failures (environment : Environment) (part : List Entry) : Nat :=
  part.countP fun entry => (entry.moment environment).fails

/-- What a history says of the lockout. -/
structure LocksOut (environment : Environment) (limits : Limits)
    (history : List Entry × AuthState) : Prop where
  /-- Between two resets at most so many logins fail. -/
  bounds : ∀ earlier part later, history.1 = earlier ++ part ++ later →
    WithoutReset environment part →
      (failures environment part : Int) ≤ limits.maxLoginAttempts
  /-- While a lock is in force, a login is refused and the lock stays. -/
  refuses : ∀ earlier part entry later lockedUntil,
    history.1 = earlier ++ part ++ entry :: later →
      (∀ first, (part ++ [entry]).head? = some first →
        first.before.counter.lockedUntil = some lockedUntil) →
        (∀ other ∈ part,
          other.action.event.forCounter environment other.before ≠ .reset) →
          entry.action.clock.now < lockedUntil →
            entry.before.counter.lockedUntil = some lockedUntil ∧
              ((entry.moment environment).attempts = true →
                perform environment entry.before entry.action =
                  (.login (.ok { ok := false }), entry.before))
  /-- After a reset the failures are counted from zero, and the last one that
  is allowed locks. -/
  counts : ∀ earlier part, history.1 = earlier ++ part →
    WithoutReset environment part →
      StartsAfresh environment earlier part →
        history.2.counter.failed = failures environment part ∧
          (history.2.counter.lockedUntil.isSome = true ↔
            (failures environment part : Int) = limits.maxLoginAttempts)

section Parts

variable {environment : Environment} {part : List Entry}

theorem failures_eq (environment : Environment) (part : List Entry) :
    failures environment part =
      (part.map (Entry.moment environment)).countP Moment.fails := by
  rw [failures, List.countP_map]
  rfl

theorem WithoutReset.moments
    (withoutReset : WithoutReset environment part) :
    (∀ moment ∈ part.map (Entry.moment environment),
        moment.resets = false) ∧
      ∀ moment ∈ (part.map (Entry.moment environment)).tail,
        moment.expires = false := by
  rw [← List.map_tail]
  constructor
  · intro moment member
    rcases List.mem_map.1 member with ⟨entry, inPart, rfl⟩
    exact withoutReset.noReset entry inPart
  · intro moment member
    rcases List.mem_map.1 member with ⟨entry, inPart, rfl⟩
    exact withoutReset.noExpiry entry inPart

end Parts

/-- Two failures lock for ten seconds. -/
def twoFailures : Limits where
  maxLoginAttempts := 2
  lockoutSec := 10

/-- Two wrong passwords, and the right one while and after they lock. -/
def guesses : List Action :=
  [⟨.login "" "admin" "guess" "", { now := 0 }, twoFailures⟩,
    ⟨.login "" "admin" "guess" "", { now := 1 }, twoFailures⟩,
    ⟨.login "" "admin" "secret" "", { now := 10 }, twoFailures⟩,
    ⟨.login "" "admin" "secret" "", { now := 11 }, twoFailures⟩]

example :
    (execute plainEnvironment (execute plainEnvironment {} firstLogin).2
      guesses).1.map (fun entry => (entry.moment plainEnvironment).resets) =
        [false, false, false, true] := by
  decide

end Sluicery.Web.Auth
