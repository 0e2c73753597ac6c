import TaskGrid.Client.Error
import TaskGrid.TaskOptions.Message

/-!
The control plane as its clients see it: results with a life of their own, tasks that produce them, and
the operations of a session.
-/

namespace TaskGrid

/-- Where a result stands in its life. One that is created is still to be produced by its task. -/
inductive ResultStatus where
  | unspecified
  | created
  | completed
  | aborted
  | deleted
  | notFound
  deriving DecidableEq, Repr

namespace ResultStatus

def ofInt : Int → ResultStatus
  | 1 => .created
  | 2 => .completed
  | 3 => .aborted
  | 4 => .deleted
  | 127 => .notFound
  | _ => .unspecified

def name : ResultStatus → String
  | .unspecified => "Unspecified"
  | .created => "Created"
  | .completed => "Completed"
  | .aborted => "Aborted"
  | .deleted => "Deleted"
  | .notFound => "NotFound"

def ofName (name : String) : ResultStatus :=
  ([created, completed, aborted, deleted, notFound].find? (·.name = name)).getD .unspecified

def isTerminal : ResultStatus → Bool
  | .completed | .aborted | .deleted | .notFound => true
  | .unspecified | .created => false

end ResultStatus

structure ResultInfo where
  id : String
  name : String
  ownerTask : String
  status : ResultStatus
  deriving DecidableEq, Repr

def ResultInfo.ofMessage : Wire.Message.resultRaw.Value → ResultInfo
  | (_, name, owner, status, id, ()) => ⟨id, name, owner, .ofInt (Int32.toInt status)⟩

/-- The outcome of a task: a task that has not ended yet has no error either. -/
inductive TaskOutput where
  | ok
  | error (details : String)
  deriving DecidableEq, Repr

def TaskOutput.ofMessage : Wire.Message.output.Value → TaskOutput
  | (some (.inr (.inl (details, ()))), ()) => .error details
  | _ => .ok

structure TaskSubmission where
  payload : Octets
  outputs : List String
  dependencies : List String
  deriving DecidableEq, Repr

structure SubmittedTask where
  id : String
  outputs : List String
  deriving DecidableEq, Repr

def SubmittedTask.ofMessage : Wire.Message.taskInfo.Value → SubmittedTask
  | (id, outputs, _, _, ()) => ⟨id, outputs⟩

/-- A call that changes a state, whether or not it succeeds. -/
abbrev Call (σ α : Type) := σ → Except ClientError α × σ

/-- The operations of a control plane whose state is a `σ`, and a source of names that no one else
uses. New results have the order of their names. -/
structure ControlPlane (σ : Type) where
  createSession : TaskOptions → (partitions : List String) → Call σ String
  cancelSession : (session : String) → Call σ Unit
  closeSession : (session : String) → Call σ Unit
  purgeSession : (session : String) → Call σ Unit
  createResults : (session : String) → (names : List String) → Call σ (List String)
  submitTasks : (session : String) → Option TaskOptions → List TaskSubmission →
    Call σ (List SubmittedTask)
  resultStatuses : (session : String) → (results : List String) →
    Call σ (List (String × ResultStatus))
  downloadResult : (session result : String) → Call σ Octets
  taskResults : (tasks : List String) → Call σ (Table String (List String))
  deleteResults : (session : String) → (results : List String) → Call σ Unit
  freshName : σ → String × σ

def freshNames {σ : Type} (freshName : σ → String × σ) : Nat → σ → List String × σ
  | 0, w => ([], w)
  | n + 1, w =>
    let (name, w) := freshName w
    let (names, w) := freshNames freshName n w
    (name :: names, w)

end TaskGrid
