import Sluicery.Core.TargetState

/-!
# Actions on a Target from the web

The user ignores a Target, or sends a failed, blocked or ignored one back to
be downloaded.  Neither action looks at the tasks.
-/

namespace Sluicery.Web

open Sluicery.Library Sluicery.Db Sluicery.Core

/-- The actions of `playlist_target_action`; any other text is an error. -/
inductive TargetAction where
  | ignore
  | retry
deriving DecidableEq, Repr

/-- An ignored Target is pending again, without a transition. -/
def unignore (now : Time) (target : TargetRow) : TargetRow :=
  touchTarget now
    (fun row => { row with status := .pending, lastError := none }) target

/-- `playlist_target_action`: `none` is the answer 404 or an error. -/
def playlistTargetAction (db : Database) (playlistId targetId : Nat)
    (action : TargetAction) (now : Time) : Option Database := do
  let target ← db.target.get targetId
  let item ← db.item.get target.itemId
  if item.playlistId ≠ playlistId then none
  else
    match action, target.status with
    | .ignore, _ =>
        (transitionTarget db.target targetId .ignored none none false
          now).toOption.map fun target => { db with target }
    | .retry, .failed | .retry, .blocked =>
        (transitionTarget db.target targetId .pending none none false
          now).toOption.map fun target => { db with target }
    | .retry, .ignored =>
        some { db with target := db.target.modify targetId (unignore now) }
    | .retry, _ => none

end Sluicery.Web
