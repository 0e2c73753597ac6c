import TaskGrid.Plane.Basic

/-!
Calls on a control plane as values, for scenarios that list them.
-/

namespace TaskGrid

inductive PlaneRequest where
  | createSession (options : TaskOptions) (partitions : List String)
  | cancelSession (session : String)
  | closeSession (session : String)
  | purgeSession (session : String)
  | createResults (session : String) (names : List String)
  | submitTasks (session : String) (options : Option TaskOptions) (tasks : List TaskSubmission)
  | resultStatuses (session : String) (results : List String)
  | downloadResult (session result : String)
  | taskResults (tasks : List String)
  | deleteResults (session : String) (results : List String)

inductive PlaneReply where
  | done
  | id (id : String)
  | ids (ids : List String)
  | tasks (tasks : List SubmittedTask)
  | statuses (statuses : List (String × ResultStatus))
  | data (data : Octets)
  | results (results : Table String (List String))

def Call.reply {σ α : Type} (call : Call σ α) (f : α → PlaneReply) : Call σ PlaneReply := fun w =>
  let (answer, w) := call w
  (answer.map f, w)

def ControlPlane.perform {σ : Type} (plane : ControlPlane σ) : PlaneRequest → Call σ PlaneReply
  | .createSession options partitions => (plane.createSession options partitions).reply .id
  | .cancelSession session => (plane.cancelSession session).reply fun _ => .done
  | .closeSession session => (plane.closeSession session).reply fun _ => .done
  | .purgeSession session => (plane.purgeSession session).reply fun _ => .done
  | .createResults session names => (plane.createResults session names).reply .ids
  | .submitTasks session options tasks => (plane.submitTasks session options tasks).reply .tasks
  | .resultStatuses session results => (plane.resultStatuses session results).reply .statuses
  | .downloadResult session result => (plane.downloadResult session result).reply .data
  | .taskResults tasks => (plane.taskResults tasks).reply .results
  | .deleteResults session results => (plane.deleteResults session results).reply fun _ => .done

end TaskGrid
