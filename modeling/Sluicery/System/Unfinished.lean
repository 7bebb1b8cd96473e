import Sluicery.System.TaskSteps

/-!
# Where unfinished tasks come from

Without a manual retry an ended task stays ended, so a task which is
unfinished after an event was unfinished before, or the event inserted it.
-/

namespace Sluicery.System

open Sluicery.Library Sluicery.Library.Transition
open Sluicery.Db Sluicery.Db.TaskRepository
open Sluicery.Core Sluicery.Tasks Sluicery.Tasks.Handlers

/-- The events which insert tasks. -/
def Event.inserts : Event → Bool
  | .startDiscover .. | .enqueueTarget .. => true
  | _ => false

/-- The task was unfinished before, with the columns which never change. -/
def UnfinishedBefore (tasks : Table TaskRow) (key : Nat) (row' : TaskRow) :
    Prop :=
  ∃ row, tasks.get key = some row ∧ isUnfinished row.status = true ∧
    fixedColumns row' = fixedColumns row

/-- A queue action without a manual retry or an insertion revives no task. -/
theorem unfinishedBefore_of_rewrites
    {tasks tasks' : Table TaskRow} {action : Queue.Action} {key : Nat}
    {row' : TaskRow}
    (notInsert : Queue.isInsert action = false)
    (notRetry : ∀ taskId now, action ≠ .retry taskId now)
    (taken : Queue.step tasks action = some tasks')
    (found' : tasks'.get key = some row')
    (unfinished : isUnfinished row'.status = true) :
    UnfinishedBefore tasks key row' := by
  rcases (Queue.step_rewrites notInsert taken).origin found' with
    ⟨row, found, chain⟩
  refine ⟨row, found, ?_, fixedColumns_of_chain chain⟩
  -- Backwards along the chain: an ended row stays ended.
  by_contra ended
  have stays := chain.invariant
    (fun other => isUnfinished other.status = false) (by simpa using ended)
    fun change other isEnded enabled allowed => by
      by_contra revived
      refine absurd (Change.unfinished_values enabled
        (fun now isRetry => ?_) (Bool.eq_true_of_not_eq_false revived)) ?_
      · subst isRetry
        cases allowed with
        | @write _ _ write _ _ _ _ isChange =>
            cases write <;> cases isChange
        | retry => exact notRetry _ _ rfl
      · rw [isEnded]
        exact Bool.false_ne_true
  rw [unfinished] at stays
  cases stays

theorem unfinishedBefore_of_step
    {environment : Environment} {state state' : State} {action : Action}
    (notInsert : action.event.inserts = false)
    (taken : step environment state action = some state')
    {key : Nat} {row' : TaskRow}
    (found' : state'.db.task.get key = some row')
    (unfinished : isUnfinished row'.status = true) :
    UnfinishedBefore state.db.task key row' := by
  have origin := (task_steps_by taken).invariant
    (fun tasks => ∀ row', tasks.get key = some row' →
      isUnfinished row'.status = true →
        UnfinishedBefore state.db.task key row')
    (fun row found unfinished => ⟨row, found, unfinished, rfl⟩)
    fun tasks queueAction tasks' before caused moved => by
      intro row found unfinished
      have notInserted : Queue.isInsert queueAction = false := by
        cases queueAction with
        | enqueue =>
            obtain ⟨_, _, _, isEvent⟩ := caused.2
            rw [isEvent] at notInsert
            cases notInsert
        | enqueuePipeline =>
            rw [caused.2] at notInsert
            cases notInsert
        | createTestTask => exact caused.1.elim
        | _ => rfl
      have notRetry : ∀ taskId now, queueAction ≠ .retry taskId now := by
        rintro taskId now rfl
        exact caused.1
      rcases unfinishedBefore_of_rewrites notInserted notRetry moved found
          unfinished with ⟨middle, foundMiddle, wasUnfinished, same⟩
      rcases before middle foundMiddle wasUnfinished with
        ⟨first, foundFirst, firstUnfinished, sameFirst⟩
      exact ⟨first, foundFirst, firstUnfinished, same.trans sameFirst⟩
  exact origin row' found' unfinished

end Sluicery.System
