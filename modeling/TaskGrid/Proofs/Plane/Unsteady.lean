import TaskGrid.Proofs.Plane.Submission

/-! A control plane in memory on which others script failures while it is used, and the tasks that requests
become on a plane that takes them all. -/
namespace TaskGrid

/-- A plane in memory, with the failures that are scripted before the next call to it, before the one after
that, and so on. -/
structure UnsteadyPlane where
  base : MemoryPlane
  arrivals : List (List (PlaneCall × ClientError)) := []

namespace UnsteadyPlane
open MemoryPlane

variable {α : Type}

def arrive (u : UnsteadyPlane) : UnsteadyPlane where
  base := (u.arrivals.headD []).foldl (fun p a => p.failNext a.1 a.2) u.base
  arrivals := u.arrivals.tail

def pass (call : Call MemoryPlane α) : Call UnsteadyPlane α := fun u =>
  let u := u.arrive
  let (answer, base) := call u.base
  (answer, { u with base })

def plane : ControlPlane UnsteadyPlane where
  createSession options partitions := pass (MemoryPlane.createSession options partitions)
  cancelSession session := pass (sessionCall .cancelSession session)
  closeSession session := pass (sessionCall .closeSession session)
  purgeSession session := pass (sessionCall .purgeSession session)
  createResults session names := pass (MemoryPlane.createResults session names)
  submitTasks session options tasks := pass (MemoryPlane.submitTasks session options tasks)
  resultStatuses session results := pass (MemoryPlane.resultStatuses session results)
  downloadResult session result := pass (MemoryPlane.downloadResult session result)
  taskResults tasks := pass (MemoryPlane.taskResults tasks)
  deleteResults session results := pass (MemoryPlane.deleteResults session results)
  freshName u :=
    let (name, base) := MemoryPlane.freshName u.base
    (name, { u with base })

def ofKind (call : PlaneCall) (scripted : List (PlaneCall × ClientError)) : List ClientError :=
  (scripted.filter (·.1 = call)).map Prod.snd

@[simp] theorem ofKind_append (call : PlaneCall) (a b : List (PlaneCall × ClientError)) :
    ofKind call (a ++ b) = ofKind call a ++ ofKind call b := by
  simp [ofKind]

/-- The failures of a kind that are scripted once `n` calls were reached, if none was met. -/
def scripted (u : UnsteadyPlane) (n : Nat) (call : PlaneCall) : List ClientError :=
  u.base.failures call ++ ofKind call (u.arrivals.take n).flatten

/-- What call number `n` from now meets, if it is of this kind and no call before it met a failure. -/
def failure? (u : UnsteadyPlane) (n : Nat) (call : PlaneCall) : Option ClientError :=
  (u.scripted (n + 1) call).head?

theorem foldl_failNext (l : List (PlaneCall × ClientError)) (p : MemoryPlane) :
    l.foldl (fun p a => p.failNext a.1 a.2) p =
      { p with failures := fun call => p.failures call ++ ofKind call l } := by
  induction l generalizing p with
  | nil => simp [ofKind]
  | cons a r ih =>
    rw [List.foldl_cons, ih]
    simp only [failNext]
    congr 1
    funext call
    by_cases h : call = a.1
    · simp [ofKind, h]
    · simp [ofKind, h, Ne.symm h]

/-- A call finds what was scripted by then. -/
theorem base_arrive (u : UnsteadyPlane) :
    u.arrive.base = { u.base with failures := u.scripted 1 } := by
  have hf : (fun call => u.base.failures call ++ ofKind call (u.arrivals.headD [])) =
      u.scripted 1 := by
    funext call
    cases h : u.arrivals <;> simp [scripted, h]
  rw [arrive, foldl_failNext, hf]

theorem failures_arrive (u : UnsteadyPlane) (call : PlaneCall) :
    u.arrive.base.failures call = u.scripted 1 call := by
  rw [base_arrive]

/-- A script that was carried along for some calls goes on as before. -/
theorem scripted_of_drop {u u' : UnsteadyPlane} {m : Nat} (harr : u'.arrivals = u.arrivals.drop m)
    (hf : ∀ call, u'.base.failures call = u.scripted m call) (n : Nat) (call : PlaneCall) :
    u'.scripted n call = u.scripted (m + n) call := by
  rw [scripted, hf, harr, scripted, scripted, List.append_assoc, ← ofKind_append,
    ← List.flatten_append, ← List.take_add]

end UnsteadyPlane

namespace Payload

def bytes (request : Payload) : Octets := request.encode.toOption.getD []

def writeError? (request : Payload) : Option ClientError :=
  match request.encode with
  | .error flaw => some flaw.toGrid.toClient
  | .ok _ => none

theorem encode_of_writeError? {request : Payload} (h : request.writeError? = none) :
    request.encode = .ok request.bytes := by
  unfold writeError? at h
  unfold bytes
  split at h
  · cases h
  · next he => rw [he]; rfl

end Payload

namespace Taken
open MemoryPlane

/-- The tasks that requests become after the first `m` tasks and the first `n` results. -/
def following : (m n : Nat) → List Payload → List Taken
  | _, _, [] => []
  | m, n, request :: r =>
    ⟨taskId (m + 1), resultId (n + 1), request, request.bytes⟩ :: following (m + 1) (n + 1) r

theorem following_append (m n : Nat) (a b : List Payload) :
    following m n (a ++ b) = following m n a ++ following (m + a.length) (n + a.length) b := by
  induction a generalizing m n with
  | nil => rfl
  | cons request r ih =>
    rw [List.cons_append, following, ih, following, List.cons_append, List.length_cons,
      show m + (r.length + 1) = m + 1 + r.length by omega,
      show n + (r.length + 1) = n + 1 + r.length by omega]

@[simp] theorem map_request_following (m n : Nat) (requests : List Payload) :
    (following m n requests).map Taken.request = requests := by
  induction requests generalizing m n with
  | nil => rfl
  | cons request r ih => rw [following, List.map_cons, ih]

@[simp] theorem length_following (m n : Nat) (requests : List Payload) :
    (following m n requests).length = requests.length := by
  rw [← List.length_map Taken.request, map_request_following]

theorem numbered_following (m n : Nat) (requests : List Payload) :
    Numbered m (following m n requests) := by
  induction requests generalizing m n with
  | nil => simp [following, Numbered]
  | cons request r ih => exact numbered_cons.mpr ⟨rfl, ih (m + 1) (n + 1)⟩

theorem map_result_following (m n : Nat) (requests : List Payload) :
    (following m n requests).map Taken.result =
      (List.range' (n + 1) requests.length).map resultId := by
  induction requests generalizing m n with
  | nil => rfl
  | cons request r ih =>
    rw [following, List.map_cons, ih, List.length_cons, List.range'_succ, List.map_cons]

theorem encode_following {m n : Nat} {requests : List Payload}
    (h : requests.findSome? Payload.writeError? = none) :
    ∀ t ∈ following m n requests, t.request.encode = .ok t.bytes := by
  induction requests generalizing m n with
  | nil => simp [following]
  | cons request r ih =>
    rw [List.findSome?_eq_none_iff, List.forall_mem_cons] at h
    rw [following, List.forall_mem_cons]
    exact ⟨Payload.encode_of_writeError? h.1, ih (List.findSome?_eq_none_iff.mpr h.2)⟩

end Taken

namespace MemoryPlane

/-- The tasks that requests become if the plane takes them all: their ids and those of their results go on
counting. -/
def prospects (p : MemoryPlane) (requests : List Payload) : List Taken :=
  Taken.following p.submitted.length p.resultCount requests

theorem nodup_prospects (p : MemoryPlane) (requests : List Payload) :
    ((p.prospects requests).map Taken.result).Nodup := by
  rw [prospects, Taken.map_result_following]
  exact List.pairwise_map.mpr ((List.nodup_range' 1).imp fun h e => h (resultId_inj.mp e))

end MemoryPlane
end TaskGrid
