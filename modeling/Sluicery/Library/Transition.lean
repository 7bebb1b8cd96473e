import Mathlib.Logic.Relation

/-!
# Runs of a step function

A system is a partial step function: `none` says that the action is not
enabled in the state.  `run` executes a list of actions.  `Steps` is the
relation between the first and the last state of a run all of whose steps
meet a condition, which may depend on the state before the step.

An invariant is proved once per step and holds after every run by
`Steps.invariant`.  A run given by its list of actions becomes a `Steps`
fact by evaluation, through `Steps.of_run`.
-/

namespace Sluicery.Library.Transition

universe u v

variable {State : Type u} {Action : Type v}

/-- Execute a list of actions from left to right. -/
def run (step : State → Action → Option State) :
    State → List Action → Option State
  | state, [] => some state
  | state, action :: rest =>
      (step state action).bind fun next => run step next rest

/-- Runs whose every step is allowed in the state it is taken in. -/
inductive Steps
    (step : State → Action → Option State)
    (allowed : State → Action → Prop) (start : State) : State → Prop where
  | refl : Steps step allowed start start
  | tail
      {state next : State} {action : Action}
      (before : Steps step allowed start state)
      (permitted : allowed state action)
      (taken : step state action = some next) :
      Steps step allowed start next

namespace Steps

variable
    {step : State → Action → Option State}
    {allowed : State → Action → Prop}
    {start middle finish : State}

theorem single
    {action : Action}
    (permitted : allowed start action)
    (taken : step start action = some finish) :
    Steps step allowed start finish :=
  .tail .refl permitted taken

theorem trans
    (first : Steps step allowed start middle)
    (second : Steps step allowed middle finish) :
    Steps step allowed start finish := by
  induction second with
  | refl => exact first
  | tail _ permitted taken induction =>
      exact .tail induction permitted taken

/-- A weaker condition allows more runs. -/
theorem weaken
    {permissive : State → Action → Prop}
    (weaker : ∀ state action,
      allowed state action → permissive state action)
    (steps : Steps step allowed start finish) :
    Steps step permissive start finish := by
  induction steps with
  | refl => exact .refl
  | tail _ permitted taken induction =>
      exact .tail induction (weaker _ _ permitted) taken

/-- What every allowed step preserves holds after every allowed run. -/
theorem invariant
    (holds : State → Prop)
    (steps : Steps step allowed start finish)
    (initially : holds start)
    (preserved : ∀ state action next,
      holds state → allowed state action → step state action = some next →
        holds next) :
    holds finish := by
  induction steps with
  | refl => exact initially
  | tail _ permitted taken induction =>
      exact preserved _ _ _ induction permitted taken

/-- A list of actions whose steps pass a boolean check is an allowed run. -/
theorem of_checked_run
    (check : State → Action → Bool)
    (sound : ∀ state action, check state action = true →
      allowed state action)
    (actions : List Action)
    (executed :
      run (fun state action =>
        if check state action then step state action else none)
        start actions = some finish) :
    Steps step allowed start finish := by
  induction actions generalizing start with
  | nil =>
      simp only [run, Option.some.injEq] at executed
      subst executed
      exact .refl
  | cons action rest induction =>
      obtain ⟨next, taken, after⟩ := Option.bind_eq_some_iff.mp executed
      dsimp only at taken
      split at taken
      · next passed =>
          exact (single (sound _ _ passed) taken).trans (induction after)
      · cases taken

/-- A list of actions is a run without any condition. -/
theorem of_run
    (actions : List Action)
    (executed : run step start actions = some finish) :
    Steps step (fun _ _ => True) start finish :=
  of_checked_run (fun _ _ => true) (fun _ _ _ => trivial) actions
    (by simpa using executed)

end Steps

end Sluicery.Library.Transition
