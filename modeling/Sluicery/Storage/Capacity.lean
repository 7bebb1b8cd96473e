import Sluicery.Core.Settings
import Mathlib.Algebra.Order.Ring.Rat

/-!
# Free space

`evaluate_capacity` compares the free space with the thresholds of the
settings, and raises for thresholds which are out of order.
-/

namespace Sluicery.Storage

open Sluicery.Library Sluicery.Core Sluicery.Core.Settings

/-- `CapacityState`. -/
inductive CapacityState where
  | available | warning | blocked | unknown
deriving DecidableEq, Repr

/-- `CapacityResult`. -/
structure CapacityResult where
  state : CapacityState
  freeBytes : Option Int

/-- `evaluate_capacity`, for thresholds as they are stored. -/
def evaluateCapacity (freeBytes : Option Int) (warnBytes stopBytes : Json) :
    Except String CapacityResult :=
  match number warnBytes, number stopBytes with
  | some warn, some stop =>
      if warn < stop ∨ stop < 0 then
        .error "容量閾値は 0 <= stop <= warn となるよう指定してください"
      else
        match freeBytes with
        | none => .ok ⟨.unknown, none⟩
        | some free =>
            if free < stop then .ok ⟨.blocked, freeBytes⟩
            else if free < warn then .ok ⟨.warning, freeBytes⟩
            else .ok ⟨.available, freeBytes⟩
  | _, _ => .error "TypeError"

/-- Thresholds which `evaluate_capacity` takes. -/
def inOrder (warnBytes stopBytes : Json) : Bool :=
  match number warnBytes, number stopBytes with
  | some warn, some stop => stop ≤ warn && 0 ≤ stop
  | _, _ => false

/-- The thresholds alone decide whether it raises. -/
theorem evaluateCapacity_isOk
    (freeBytes : Option Int) (warnBytes stopBytes : Json) :
    (evaluateCapacity freeBytes warnBytes stopBytes).isOk =
      inOrder warnBytes stopBytes := by
  unfold evaluateCapacity inOrder
  split
  · next warn stop =>
      split
      · next disorder =>
          rcases disorder with below | negative
          · simp [Except.isOk, Except.toBool, not_le.mpr below]
          · simp [Except.isOk, Except.toBool, not_le.mpr negative]
      · next ordered =>
          rw [not_or, not_lt, not_lt] at ordered
          simp only [ordered, decide_true, Bool.and_self]
          split
          · rfl
          · split
            · rfl
            · split <;> rfl
  · rfl

end Sluicery.Storage
