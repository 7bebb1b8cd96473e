import Sluicery.Library.Transition
import Mathlib.Logic.Function.Basic

/-!
# Cancelling external processes

A handler runs external processes one after another, each through a runner,
while the heartbeat thread of its task calls the `cancel` of the handler at
most once.  The flag of a runner is reset when a process starts, and is looked
at whenever the wait for the process times out.  Once a process has started,
the runner comes to its wait loop: an exception on the way there is left out.
-/

namespace Sluicery.Runner

open Sluicery.Library.Transition

/-- What is shared of a `BaseRunner`. -/
structure BaseRunner where
  cancelRequested : Bool := false
  /-- `self._proc is not None`. -/
  hasProc : Bool := false
deriving DecidableEq, Repr

/-- `terminated_by`. -/
inductive TerminatedBy where
  | cancel | absolute | idle
deriving DecidableEq, Repr

/-- Where the handler thread is. -/
inductive Stage where
  /-- Outside of `_run_process`. -/
  | outside
  /-- Behind the reset of the flag, before the process. -/
  | starting (runner : Nat)
  /-- In the wait loop. -/
  | waiting (runner : Nat)
  /-- Behind the wait loop. -/
  | leaving (runner : Nat) (terminatedBy : Option TerminatedBy)
deriving DecidableEq, Repr

/-- The runner whose process is started or running. -/
def Stage.runner : Stage → Option Nat
  | .starting runner | .waiting runner => some runner
  | .outside | .leaving _ _ => none

/-- Where the heartbeat thread is. -/
inductive Heartbeat where
  | beating
  /-- Inside `handler.cancel()`, with the runner that it found. -/
  | calling (reached : Option Nat)
  /-- Behind `handler.cancel()`. -/
  | called
  /-- The loop has ended without a cancel. -/
  | ended
deriving DecidableEq, Repr

/-- The execution of a task. -/
structure Execution where
  runners : Nat → BaseRunner
  /-- The runner which `handler.cancel()` reaches: the one of the handler, or
  of the adapter which it holds. -/
  held : Option Nat
  stage : Stage
  heartbeat : Heartbeat

/-- What `TaskRepository.heartbeat` answers; `failed` is an exception. -/
inductive Answer where
  | cancelRequested (value : Bool)
  | notOwned
  | failed
deriving DecidableEq, Repr

inductive Event where
  /-- The handler assigns its adapter. -/
  | hold (runner : Option Nat)
  /-- `_run_process` begins. -/
  | start (runner : Nat)
  | popen
  | popenRaises
  /-- `proc.wait` answers: the process has ended by itself. -/
  | exits
  /-- `proc.wait` times out; the flag and the clock are looked at. -/
  | look (expired : Option TerminatedBy)
  /-- `self._proc = None`. -/
  | leave
  | beat (answer : Answer)
  /-- `runner.cancel()`. -/
  | cancelRunner
  /-- `heartbeat_stop`. -/
  | stopHeartbeat
deriving DecidableEq, Repr

/-- `_run_process` resets the flag; one runner runs one process at a time. -/
def BaseRunner.start (runner : BaseRunner) : Option BaseRunner :=
  if runner.hasProc then none else some { runner with cancelRequested := false }

/-- `cancel`. -/
def BaseRunner.cancel (runner : BaseRunner) : BaseRunner :=
  { runner with cancelRequested := true }

/-- Why the wait loop terminates the process when the wait has timed out. -/
def BaseRunner.terminatedBy (runner : BaseRunner)
    (expired : Option TerminatedBy) : Option TerminatedBy :=
  if runner.cancelRequested then some .cancel else expired

namespace Execution

def setRunner (execution : Execution) (runner : Nat) (value : BaseRunner) :
    Execution :=
  { execution with
    runners := Function.update execution.runners runner value }

/-- The heartbeat thread after an answer. -/
def afterBeat (execution : Execution) : Answer → Heartbeat
  | .cancelRequested true => .calling execution.held
  | .cancelRequested false | .failed => .beating
  | .notOwned => .ended

/-- The runner which was found gets its flag. -/
def cancelReached (execution : Execution) : Option Nat → Execution
  | none => execution
  | some runner =>
      execution.setRunner runner (execution.runners runner).cancel

/-- A step of the handler thread or of the heartbeat thread. -/
def step (execution : Execution) : Event → Option Execution
  | .hold runner => some { execution with held := runner }
  | .start runner =>
      match execution.stage with
      | .outside =>
          (execution.runners runner).start.map fun started =>
            { execution.setRunner runner started with
              stage := .starting runner }
      | _ => none
  | .popen =>
      match execution.stage with
      | .starting runner =>
          some
            { execution.setRunner runner
                { execution.runners runner with hasProc := true } with
              stage := .waiting runner }
      | _ => none
  | .popenRaises =>
      match execution.stage with
      | .starting _ => some { execution with stage := .outside }
      | _ => none
  | .exits =>
      match execution.stage with
      | .waiting runner =>
          some { execution with stage := .leaving runner none }
      | _ => none
  | .look expired =>
      match execution.stage with
      | .waiting runner =>
          match (execution.runners runner).terminatedBy expired with
          | none => some execution
          | some reason =>
              some { execution with stage := .leaving runner (some reason) }
      | _ => none
  | .leave =>
      match execution.stage with
      | .leaving runner _ =>
          some
            { execution.setRunner runner
                { execution.runners runner with hasProc := false } with
              stage := .outside }
      | _ => none
  | .beat answer =>
      match execution.heartbeat with
      | .beating =>
          some { execution with heartbeat := execution.afterBeat answer }
      | _ => none
  | .cancelRunner =>
      match execution.heartbeat with
      | .calling reached =>
          some { execution.cancelReached reached with heartbeat := .called }
      | _ => none
  | .stopHeartbeat =>
      match execution.heartbeat with
      | .beating => some { execution with heartbeat := .ended }
      | _ => none

/-- A handler has been made for a task. -/
def made (held : Option Nat) : Execution where
  runners _ := {}
  held := held
  stage := .outside
  heartbeat := .beating

/-- A process that is running is terminated, unless it ends before its wait
times out. -/
def Stops (execution : Execution) : Prop :=
  ∀ runner, execution.stage = .waiting runner →
    ∀ expired next, execution.step (.look expired) = some next →
      next.stage = .leaving runner (some .cancel)

/-- The call reaches the runner of the process, and no process starts after
the call. -/
def timely (execution : Execution) : Event → Bool
  | .start _ => execution.heartbeat != .called
  | .cancelRunner =>
      match execution.heartbeat with
      | .calling reached =>
          execution.stage.runner.all fun runner => reached == some runner
      | _ => true
  | _ => true

/-- After the call, the flag of the running process is set. -/
def Flagged (execution : Execution) : Prop :=
  execution.heartbeat = .called →
    ∀ runner, execution.stage.runner = some runner →
      (execution.runners runner).cancelRequested = true

theorem flagged_made (held : Option Nat) : Flagged (made held) := by
  intro called
  cases called

/-- Nothing happens to the flags and to the process. -/
theorem Flagged.of_same
    {execution next : Execution} (flagged : Flagged execution)
    (heartbeat : next.heartbeat = execution.heartbeat)
    (stage : ∀ runner, next.stage.runner = some runner →
      execution.stage.runner = some runner)
    (flags : ∀ runner, (next.runners runner).cancelRequested =
      (execution.runners runner).cancelRequested) : Flagged next := by
  intro called runner isRunner
  rw [flags]
  exact flagged (heartbeat.symm.trans called) runner (stage runner isRunner)

theorem cancelRequested_setRunner
    {execution : Execution} {runner : Nat} {value : BaseRunner}
    (same : value.cancelRequested =
      (execution.runners runner).cancelRequested) (other : Nat) :
    ((execution.setRunner runner value).runners other).cancelRequested =
      (execution.runners other).cancelRequested := by
  by_cases isRunner : other = runner
  · subst isRunner
    simp [setRunner, same]
  · simp [setRunner, isRunner]

theorem flagged_of_not_called
    {execution : Execution} (notCalled : execution.heartbeat ≠ .called) :
    Flagged execution := by
  intro called
  exact absurd called notCalled

/-- The call flags the process when it reaches its runner. -/
theorem flagged_cancelReached
    {execution : Execution} {reached : Option Nat}
    (reaches : execution.stage.runner.all
      (fun runner => reached == some runner) = true) :
    Flagged { execution.cancelReached reached with heartbeat := .called } := by
  intro _ runner isRunner
  have sameStage : (execution.cancelReached reached).stage =
      execution.stage := by
    cases reached <;> rfl
  simp only [sameStage] at isRunner
  rw [isRunner, Option.all_some, beq_iff_eq] at reaches
  subst reaches
  simp [cancelReached, setRunner, BaseRunner.cancel]

/-- A timely step keeps the running process flagged. -/
theorem flagged_of_step
    {execution next : Execution} {event : Event}
    (flagged : Flagged execution)
    (isTimely : execution.timely event = true)
    (taken : execution.step event = some next) : Flagged next := by
  cases event with
  | hold runner =>
      obtain rfl := Option.some.inj taken
      exact flagged
  | start runner =>
      simp only [timely, bne_iff_ne] at isTimely
      simp only [step] at taken
      split at taken
      · rcases Option.map_eq_some_iff.mp taken with ⟨started, -, rfl⟩
        exact flagged_of_not_called isTimely
      · cases taken
  | popen =>
      simp only [step] at taken
      split at taken
      · next runner isStarting =>
          obtain rfl := Option.some.inj taken
          refine flagged.of_same rfl ?_
            (cancelRequested_setRunner rfl)
          intro other isRunner
          rw [isStarting]
          exact isRunner
      · cases taken
  | popenRaises =>
      simp only [step] at taken
      split at taken
      · obtain rfl := Option.some.inj taken
        exact flagged.of_same rfl (fun _ none => nomatch none) fun _ => rfl
      · cases taken
  | exits =>
      simp only [step] at taken
      split at taken
      · obtain rfl := Option.some.inj taken
        exact flagged.of_same rfl (fun _ none => nomatch none) fun _ => rfl
      · cases taken
  | look expired =>
      simp only [step] at taken
      split at taken
      · split at taken
        · obtain rfl := Option.some.inj taken
          exact flagged
        · obtain rfl := Option.some.inj taken
          exact flagged.of_same rfl (fun _ none => nomatch none) fun _ => rfl
      · cases taken
  | leave =>
      simp only [step] at taken
      split at taken
      · obtain rfl := Option.some.inj taken
        exact flagged.of_same rfl (fun _ none => nomatch none)
          (cancelRequested_setRunner rfl)
      · cases taken
  | beat answer =>
      simp only [step] at taken
      split at taken
      · obtain rfl := Option.some.inj taken
        refine flagged_of_not_called ?_
        rcases answer with ⟨_ | _⟩ | _ | _ <;> simp [afterBeat]
      · cases taken
  | cancelRunner =>
      simp only [step] at taken
      split at taken
      · next reached isCalling =>
          obtain rfl := Option.some.inj taken
          simp only [timely, isCalling] at isTimely
          exact flagged_cancelReached isTimely
      · cases taken
  | stopHeartbeat =>
      simp only [step] at taken
      split at taken
      · obtain rfl := Option.some.inj taken
        exact flagged_of_not_called (by simp)
      · cases taken

/-- A flagged process is terminated at the next look. -/
theorem stops_of_flagged
    {execution : Execution} (flagged : Flagged execution)
    (called : execution.heartbeat = .called) : Stops execution := by
  intro runner isWaiting expired next taken
  have isFlagged := flagged called runner (by rw [isWaiting]; rfl)
  simp only [step, isWaiting, BaseRunner.terminatedBy, isFlagged, if_true,
    Option.some.injEq] at taken
  rw [← taken]

/-- A timely cancel stops the process that is running. -/
theorem stops_after_cancel
    {held : Option Nat} {execution : Execution}
    (steps : Steps step (fun execution event => execution.timely event = true)
      (made held) execution)
    (called : execution.heartbeat = .called) : Stops execution := by
  refine stops_of_flagged (steps.invariant Flagged (flagged_made held) ?_)
    called
  intro before event after flagged isTimely taken
  exact flagged_of_step flagged isTimely taken

/-- A process is cancelled while it runs. -/
theorem stops_running :
    ∃ execution, execution.stage = .waiting 0 ∧ Stops execution := by
  have steps : Steps step
      (fun execution event => execution.timely event = true)
      (made (some 0)) _ :=
    Steps.of_checked_run timely (fun _ _ isTimely => isTimely)
      [.start 0, .popen, .beat (.cancelRequested true), .cancelRunner] rfl
  exact ⟨_, rfl, stops_after_cancel steps rfl⟩

/-- The call falls between two processes of a publish: the second one starts
with the flag reset, and runs on. -/
theorem not_stops_second_process :
    ∃ execution, Steps step (fun _ _ => True) (made none) execution ∧
      execution.heartbeat = .called ∧ ¬ Stops execution := by
  have steps : Steps step (fun _ _ => True) (made none) _ :=
    Steps.of_run
      [.hold (some 0), .start 0, .popen, .exits, .leave,
        .beat (.cancelRequested true), .cancelRunner, .start 0, .popen] rfl
  refine ⟨_, steps, rfl, ?_⟩
  intro stops
  cases stops 0 rfl none _ rfl

/-! ## Late calls and late starts -/

/-- Without the flag the wait goes on. -/
theorem not_stops_of_waiting
    {execution : Execution} {runner : Nat}
    (isWaiting : execution.stage = .waiting runner)
    (notFlagged : (execution.runners runner).cancelRequested = false) :
    ¬ Stops execution := by
  intro stops
  have goesOn : execution.step (.look none) = some execution := by
    simp [step, isWaiting, BaseRunner.terminatedBy, notFlagged]
  have stopped := stops runner isWaiting none execution goesOn
  rw [isWaiting] at stopped
  cases stopped

/-- A process that starts after the call is not stopped by it. -/
theorem not_stops_of_late_start
    {execution starting waiting : Execution} {runner : Nat}
    (started : execution.step (.start runner) = some starting)
    (running : starting.step .popen = some waiting) :
    ¬ Stops waiting := by
  simp only [step] at started
  split at started
  · rcases Option.map_eq_some_iff.mp started with ⟨reset, isReset, rfl⟩
    simp only [step, Option.some.injEq] at running
    subst running
    refine not_stops_of_waiting rfl ?_
    unfold BaseRunner.start at isReset
    split at isReset
    · cases isReset
    · obtain rfl := Option.some.inj isReset
      simp [setRunner]
  · cases started

/-- A call which does not reach the runner of the process does not stop it. -/
theorem not_stops_of_unreached
    {execution called : Execution} {reached : Option Nat} {runner : Nat}
    (isCalling : execution.heartbeat = .calling reached)
    (isWaiting : execution.stage = .waiting runner)
    (notFlagged : (execution.runners runner).cancelRequested = false)
    (unreached : reached ≠ some runner)
    (cancelled : execution.step .cancelRunner = some called) :
    ¬ Stops called := by
  simp only [step, isCalling, Option.some.injEq] at cancelled
  subst cancelled
  cases reached with
  | none => exact not_stops_of_waiting isWaiting notFlagged
  | some other =>
      have differs : runner ≠ other := fun same => unreached (same ▸ rfl)
      refine not_stops_of_waiting isWaiting ?_
      simpa [cancelReached, setRunner, differs] using notFlagged

end Execution

end Sluicery.Runner
