import TaskGrid.Text.Numeral
import TaskGrid.Text.Split
import TaskGrid.Worker.Boundary

/-!
A library without services: its contexts are null, and the name of a method says what a call reports and
which status it ends with.
-/

namespace TaskGrid.Library

/-- What a report of a raw call carries. A lost one carries the input, but not the caller's address. -/
inductive RawContent where
  | input
  | text (s : String)
  | null
  | lost
  deriving DecidableEq, Repr

structure RawReport where
  status : CallStatus
  content : RawContent
  deriving DecidableEq, Repr

structure RawPlan where
  status : CallStatus
  reports : List RawReport
  deriving DecidableEq, Repr

namespace RawPlan

def statusOf (cs : List Char) : CallStatus :=
  match Numeral.readSigned? cs with
  | some i => if Int32.minValue.toInt ≤ i ∧ i ≤ Int32.maxValue.toInt then Int32.ofInt i else 1
  | none => 1

def report (s : String) : RawReport :=
  match Text.splitOnce? '=' s with
  | some (status, text) => ⟨statusOf status.toList, .text text⟩
  | none => match s.toList.getLast? with
    | some '!' => ⟨statusOf s.toList.dropLast, .null⟩
    | some '@' => ⟨statusOf s.toList.dropLast, .lost⟩
    | _ => ⟨statusOf s.toList, .input⟩

def ofMethod (method : String) : RawPlan :=
  match Text.splitOnce? ':' method with
  | none => ⟨statusOf method.toList, []⟩
  | some (status, reports) =>
    ⟨statusOf status.toList, ((Text.split ',' reports).filter (· ≠ "")).map report⟩

end RawPlan

def RawReport.toReport (input : Data) (r : RawReport) : Report :=
  match r.content with
  | .input => ⟨true, r.status, input⟩
  | .text s => ⟨true, r.status, .ofOctets (Utf8.encode s)⟩
  | .null => ⟨true, r.status, ⟨none, 5⟩⟩
  | .lost => ⟨false, r.status, input⟩

/-- The entry points. Their world is the list of what happened. -/
def raw : EntryPoints (List String) where
  createService group name events := (none, events ++ ["raw create " ++ group.read ++ "/" ++ name.read])
  destroyService _ events := events ++ ["raw destroy"]
  enterSession _ session events := (none, events ++ ["raw enter " ++ session.read])
  leaveSession _ _ events := events ++ ["raw leave"]
  call _ _ method input callback events :=
    let plan := RawPlan.ofMethod method.read
    (⟨if callback then plan.reports.map (·.toReport input) else [], plan.status⟩, events)

end TaskGrid.Library
