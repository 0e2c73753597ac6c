import TaskGrid.Plane.Memory

/-!
A control plane that answers some calls from a script and hands all others to the plane behind it.
-/

namespace TaskGrid

structure Script where
  sessions : List (Except ClientError String) := []
  results : List (Except ClientError (List String)) := []
  submissions : List (Except ClientError (List SubmittedTask)) := []
  statuses : List (Except ClientError (List (String × ResultStatus))) := []
  downloads : List (Except ClientError Octets) := []
  taskResults : List (Except ClientError (Table String (List String))) := []

structure Scripted (σ : Type) where
  base : σ
  script : Script := {}
  answered : List (PlaneCall × String) := []
  names : List String := []

namespace Scripted

variable {σ α : Type}

def handOn (call : Call σ α) : Call (Scripted σ) α := fun w =>
  let (answer, base) := call w.base
  (answer, { w with base })

/-- Answers a call from its queue, or hands it on if the queue is empty. -/
def answer (call : PlaneCall) (target : String) (queue : Script → List (Except ClientError α))
    (rest : Script → List (Except ClientError α) → Script) (otherwise : Call σ α) :
    Call (Scripted σ) α := fun w =>
  match queue w.script with
  | [] => handOn otherwise w
  | a :: r =>
    (a, { w with script := rest w.script r, answered := w.answered ++ [(call, target)] })

def plane (base : ControlPlane σ) : ControlPlane (Scripted σ) where
  createSession options partitions :=
    answer .createSession "" Script.sessions (fun s r => { s with sessions := r })
      (base.createSession options partitions)
  cancelSession session := handOn (base.cancelSession session)
  closeSession session := handOn (base.closeSession session)
  purgeSession session := handOn (base.purgeSession session)
  createResults session names w :=
    answer .createResults session Script.results (fun s r => { s with results := r })
      (base.createResults session names) { w with names := w.names ++ names }
  submitTasks session options tasks :=
    answer .submitTasks session Script.submissions (fun s r => { s with submissions := r })
      (base.submitTasks session options tasks)
  resultStatuses session results :=
    answer .resultStatuses session Script.statuses (fun s r => { s with statuses := r })
      (base.resultStatuses session results)
  downloadResult session result :=
    answer .downloadResult result Script.downloads (fun s r => { s with downloads := r })
      (base.downloadResult session result)
  taskResults tasks :=
    answer .taskResults "" Script.taskResults (fun s r => { s with taskResults := r })
      (base.taskResults tasks)
  deleteResults session results := handOn (base.deleteResults session results)
  freshName w :=
    let (name, base) := base.freshName w.base
    (name, { w with base })

end Scripted
end TaskGrid
