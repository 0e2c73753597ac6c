import TaskGrid.Plane.Basic

/-!
The tasks of a session whose outcome was not delivered yet, found by result and by task.
-/

namespace TaskGrid

/-- Takes the outcomes of tasks. `panics` tells whether its callbacks panic once they have taken one. -/
structure Handler where
  name : String
  panics : Bool := false
  deriving DecidableEq, Repr

/-- A result that someone waits for: its task, and who takes the outcome. -/
structure Tracked where
  task : String
  handler : Handler
  deriving DecidableEq, Repr

/-- The results a session waits for, and the result of every task. -/
structure Tracker where
  byResult : Table String Tracked := {}
  resultOfTask : Table String String := {}
  deriving DecidableEq

namespace Tracker

instance : Inhabited Tracker := ⟨{}⟩

def insert (t : Tracker) (task result : String) (handler : Handler) : Tracker where
  byResult := t.byResult.insert result ⟨task, handler⟩
  resultOfTask := t.resultOfTask.insert task result

def resultOf? (t : Tracker) (task : String) : Option String := t.resultOfTask.get? task

def results (t : Tracker) : List String := t.byResult.keys

def size (t : Tracker) : Nat := t.byResult.size

def erase (t : Tracker) (result : String) : Tracker :=
  match t.byResult.get? result with
  | none => t
  | some tracked => ⟨t.byResult.erase result, t.resultOfTask.erase tracked.task⟩

/-- A result whose status is final, with what was tracked for it. Someone else may have claimed it
before; then nothing was. -/
structure Claim where
  result : String
  status : ResultStatus
  tracked : Option Tracked
  deriving DecidableEq, Repr

def claim (t : Tracker) : List (String × ResultStatus) → Tracker × List Claim
  | [] => (t, [])
  | (result, status) :: r =>
    if status.isTerminal then
      let (t', claims) := (t.erase result).claim r
      (t', ⟨result, status, t.byResult.get? result⟩ :: claims)
    else t.claim r

end Tracker
end TaskGrid
