import TaskGrid.Panic
import TaskGrid.Worker.Boundary

/-!
The host of a worker, as a task sees it: the results it expects, and a way to send them.
-/

namespace TaskGrid

inductive ProcessStatus where
  | ok
  | error (message : String)
  deriving DecidableEq, Repr

inductive SendOutcome where
  | sent
  | failed (e : WorkerError)
  | panicked (p : Panic)
  deriving DecidableEq, Repr

/-- The host's side of a task; `τ` is what sending changes. -/
structure TaskHost (τ : Type) where
  expected : List String
  send : (result : String) → (data : Octets) → τ → SendOutcome × τ

/-- What the host and the worker know of a call from its reports so far. -/
structure Hearing (τ : Type) where
  host : τ
  reported : Option ProcessStatus := none
  sendError : Option WorkerError := none

namespace Hearing

def hostPanicked : WorkerError := .other "task handler panicked while sending the result"

def send {τ : Type} (host : TaskHost τ) (data : Octets) (h : Hearing τ) : Hearing τ :=
  match host.expected with
  | [] => { h with sendError := some .noExpectedResult }
  | result :: _ =>
    match host.send result data h.host with
    | (.sent, τ) => { h with host := τ, reported := some .ok }
    | (.failed e, τ) => { h with host := τ, sendError := some e }
    | (.panicked _, τ) => { h with host := τ, sendError := some hostPanicked }

/-- Takes a report. One that lost the caller's address is not heard. -/
def hear {τ : Type} (host : TaskHost τ) (h : Hearing τ) (r : Report) : Hearing τ :=
  if r.addressed then
    if CallStatus.isOk r.status then send host r.data.read h
    else { h with reported := some (.error (Utf8.decodeLossy r.data.read)) }
  else h

def hearAll {τ : Type} (host : TaskHost τ) (reports : List Report) (τ₀ : τ) : Hearing τ :=
  reports.foldl (hear host) ⟨τ₀, none, none⟩

/-- The message of a call that fails without a word. -/
def unknownError : String := "Unknown error in worker, check logs."

/-- The message of a call that succeeds without a word. -/
def noReport : String := "module did not report a result"

def verdict {τ : Type} (h : Hearing τ) (status : CallStatus) : Except WorkerError ProcessStatus :=
  match h.sendError with
  | some e => .error e
  | none =>
    .ok (match h.reported with
      | some (.error message) => .error message
      | some .ok => if CallStatus.isOk status then .ok else .error unknownError
      | none => .error (if CallStatus.isOk status then noReport else unknownError))

end Hearing
end TaskGrid
