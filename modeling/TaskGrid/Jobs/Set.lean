import TaskGrid.Client.Error
import TaskGrid.Panic

/-!
Sets of jobs that are awaited together. A set counts its jobs that are not over, and keeps the first
failure among them until someone collects it.
-/

namespace TaskGrid

inductive JobOutcome where
  | done
  | failed (e : ClientError)
  | panicked (p : Panic)
  deriving DecidableEq, Repr

def JobOutcome.error? : JobOutcome → Option ClientError
  | .done => none
  | .failed e => some e
  | .panicked p => some (.panicked p.message)

structure JobSet where
  live : Nat := 0
  firstError : Option ClientError := none
  deriving DecidableEq, Repr

namespace JobSet

def enter (s : JobSet) : JobSet := { s with live := s.live + 1 }

def leave (s : JobSet) : JobSet := { s with live := s.live - 1 }

/-- Takes note of how a job ended; only the first failure is kept. -/
def record (s : JobSet) (outcome : JobOutcome) : JobSet :=
  match s.firstError with
  | some _ => s
  | none => { s with firstError := outcome.error? }

def collect? (s : JobSet) : Option (Except ClientError Unit × JobSet) :=
  if s.live = 0 then
    match s.firstError with
    | some e => some (.error e, { s with firstError := none })
    | none => some (.ok (), s)
  else none

end JobSet
end TaskGrid
