import TaskGrid.Plane.Request
import TaskGrid.Proofs.Plane.Memory

/-! The records that a control plane in memory keeps of its calls, apart from everything else. A call that
no failure is scripted for does the same whatever the records are, and adds itself to them; a call that
meets a failure does nothing else. -/
namespace TaskGrid

namespace PlaneRequest

/-- The kind that a request is logged as, and that failures are scripted for. -/
def kind : PlaneRequest → PlaneCall
  | .createSession .. => .createSession
  | .cancelSession _ => .cancelSession
  | .closeSession _ => .closeSession
  | .purgeSession _ => .purgeSession
  | .createResults .. => .createResults
  | .submitTasks .. => .submitTasks
  | .resultStatuses .. => .resultStatuses
  | .downloadResult .. => .downloadResult
  | .taskResults _ => .taskResults
  | .deleteResults .. => .deleteResults

def target : PlaneRequest → String
  | .createSession .. | .taskResults _ => ""
  | .cancelSession session | .closeSession session | .purgeSession session
  | .createResults session _ | .submitTasks session .. | .resultStatuses session _
  | .deleteResults session _ => session
  | .downloadResult _ result => result

/-- The size that is noted of a request; only status requests have one. -/
def statusBatch : PlaneRequest → List Nat
  | .resultStatuses _ results => [results.length]
  | _ => []

end PlaneRequest

namespace MemoryPlane

structure Records where
  calls : List (PlaneCall × String) := []
  statusBatchSizes : List Nat := []
  failures : PlaneCall → List ClientError := fun _ => []

def Records.noting (r : Records) (request : PlaneRequest) : Records :=
  { r with
    calls := r.calls ++ [(request.kind, request.target)]
    statusBatchSizes := r.statusBatchSizes ++ request.statusBatch }

def Records.consuming (r : Records) (kind : PlaneCall) : Records :=
  { r with failures := fun c => if c = kind then (r.failures c).tail else r.failures c }

def records (p : MemoryPlane) : Records := ⟨p.calls, p.statusBatchSizes, p.failures⟩

def withRecords (p : MemoryPlane) (r : Records) : MemoryPlane :=
  { p with calls := r.calls, statusBatchSizes := r.statusBatchSizes, failures := r.failures }

/-- The plane without any records: nothing was logged, and no failure is scripted. -/
def bare (p : MemoryPlane) : MemoryPlane := p.withRecords {}

@[simp] theorem bare_withRecords (p : MemoryPlane) (r : Records) : (p.withRecords r).bare = p.bare := rfl

/-! ### Effects that have nothing to do with records -/

variable {α : Type}

/-- An effect that does not look at the records and leaves them alone. -/
def Blind (effect : Call MemoryPlane α) : Prop :=
  ∀ p r, effect (p.withRecords r) = ((effect p).1, (effect p).2.withRecords r)

theorem addResults_withRecords (n : Nat) (p : MemoryPlane) (r : Records) :
    addResults n (p.withRecords r) = ((addResults n p).1.withRecords r, (addResults n p).2) := by
  induction n generalizing p with
  | zero => rfl
  | succ n ih =>
    have h : (p.withRecords r).addResult = (p.addResult.1.withRecords r, p.addResult.2) := rfl
    simp only [addResults, h, ih]

theorem addTasks_withRecords (session : String) (options : Option TaskOptions)
    (tasks : List TaskSubmission) (p : MemoryPlane) (r : Records) :
    addTasks session options tasks (p.withRecords r) =
      ((addTasks session options tasks p).1.withRecords r, (addTasks session options tasks p).2) := by
  induction tasks generalizing p with
  | nil => rfl
  | cons t rest ih =>
    have h : addTask session options (p.withRecords r) t =
        ((addTask session options p t).1.withRecords r, (addTask session options p t).2) := rfl
    simp only [addTasks, h, ih]

theorem pollResult_withRecords (p : MemoryPlane) (id : String) (r : Records) :
    (p.withRecords r).pollResult id = ((p.pollResult id).1.withRecords r, (p.pollResult id).2) := by
  have h : (p.withRecords r).results = p.results := rfl
  simp only [pollResult, h]
  split <;> rfl

theorem pollResults_withRecords (ids : List String) (p : MemoryPlane) (r : Records) :
    pollResults ids (p.withRecords r) = ((pollResults ids p).1.withRecords r, (pollResults ids p).2) := by
  induction ids generalizing p with
  | nil => rfl
  | cons id rest ih => simp only [pollResults, pollResult_withRecords, ih]

theorem foldl_deleteResult_withRecords (ids : List String) (p : MemoryPlane) (r : Records) :
    ids.foldl deleteResult (p.withRecords r) = (ids.foldl deleteResult p).withRecords r :=
  List.foldl_hom (fun q : MemoryPlane => q.withRecords r) fun _ _ => rfl

/-! ### What a call does -/

/-- A call that is kept in the records as a request: a scripted failure is all that it does, and without one
it does what it does on a plane without records. -/
structure Recorded (request : PlaneRequest) (call : Call MemoryPlane α) : Prop where
  met : ∀ {p : MemoryPlane} {e rest}, p.failures request.kind = e :: rest →
    call p = (.error e, p.withRecords ((p.records.noting request).consuming request.kind))
  served : ∀ {p : MemoryPlane}, p.failures request.kind = [] →
    call p = ((call p.bare).1, (call p.bare).2.withRecords (p.records.noting request))

def measured (p : MemoryPlane) (request : PlaneRequest) : MemoryPlane :=
  { p with statusBatchSizes := p.statusBatchSizes ++ request.statusBatch }

theorem Recorded.of_blind {request : PlaneRequest} {call effect : Call MemoryPlane α}
    (h : Blind effect)
    (hcall : ∀ p, call p = recorded request.kind request.target effect (p.measured request)) :
    Recorded request call where
  met {p e rest} he := by
    have he : (p.measured request).failures request.kind = e :: rest := he
    rw [hcall, recorded_of_cons _ _ he]
    rfl
  served {p} hp := by
    have hserved (q : MemoryPlane) (hq : q.failures request.kind = []) :
        call q = ((effect q).1, (effect q).2.withRecords (q.records.noting request)) := by
      have hq : (q.measured request).failures request.kind = [] := hq
      rw [hcall, recorded_of_nil _ _ hq]
      exact h q (q.records.noting request)
    rw [hserved p hp, hserved p.bare rfl, bare, h p]
    rfl

theorem Recorded.reply {request : PlaneRequest} {call : Call MemoryPlane α} (h : Recorded request call)
    (f : α → PlaneReply) : Recorded request (call.reply f) where
  met he := by simp only [Call.reply, h.met he, Except.map]
  served hp := by rw [Call.reply, h.served hp]; rfl

/-- All requests but those for statuses are logged before anything else is done. -/
theorem Recorded.of_blind_of_nil {request : PlaneRequest} {effect : Call MemoryPlane α}
    (h : Blind effect) (hbatch : request.statusBatch = []) :
    Recorded request (recorded request.kind request.target effect) :=
  .of_blind h fun p => by rw [measured, hbatch, List.append_nil]

theorem recorded_perform (request : PlaneRequest) : Recorded request (plane.perform request) := by
  cases request with
  | createSession options partitions =>
    exact Recorded.reply (.of_blind_of_nil (fun _ _ => rfl) rfl) .id
  | cancelSession session => exact Recorded.reply (.of_blind_of_nil (fun _ _ => rfl) rfl) _
  | closeSession session => exact Recorded.reply (.of_blind_of_nil (fun _ _ => rfl) rfl) _
  | purgeSession session => exact Recorded.reply (.of_blind_of_nil (fun _ _ => rfl) rfl) _
  | createResults session names =>
    refine Recorded.reply (.of_blind_of_nil (fun p r => ?_) rfl) .ids
    simp only [addResults_withRecords]
  | submitTasks session options tasks =>
    refine Recorded.reply (.of_blind_of_nil (fun p r => ?_) rfl) .tasks
    let q : MemoryPlane := { p with submitBatchSizes := p.submitBatchSizes ++ [tasks.length] }
    exact congrArg (fun w => (Except.ok w.2, w.1)) (addTasks_withRecords session options tasks q r)
  | resultStatuses session ids =>
    refine Recorded.reply (.of_blind (fun p r => ?_) fun p => rfl) .statuses
    simp only [pollResults_withRecords]
  | downloadResult session id =>
    refine Recorded.reply (.of_blind_of_nil (fun p r => ?_) rfl) .data
    have h : (p.withRecords r).results = p.results := rfl
    simp only [h]
    split <;> rfl
  | taskResults ids => exact Recorded.reply (.of_blind_of_nil (fun _ _ => rfl) rfl) .results
  | deleteResults session ids =>
    refine Recorded.reply (.of_blind_of_nil (fun p r => ?_) rfl) _
    rw [foldl_deleteResult_withRecords]

end MemoryPlane
end TaskGrid
