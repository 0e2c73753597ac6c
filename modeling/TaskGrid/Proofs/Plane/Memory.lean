import TaskGrid.Plane.Memory
import TaskGrid.Proofs.Session.Handover

/-! What each call does to a control plane in memory: how scripted failures are taken, what a poll and a
download tell, and what both leave as it is. -/
namespace TaskGrid

/-- A stored result but for the count of its polls. -/
def StoredResult.unpolled (r : StoredResult) : StoredResult := { r with polls := 0 }

@[simp] theorem StoredResult.unpolled_poll (r : StoredResult) : r.poll.1.unpolled = r.unpolled := by
  unfold poll
  split <;> rfl

namespace MemoryPlane

def resultId (n : Nat) : String := s!"r{n}"

def taskId (n : Nat) : String := s!"t{n}"

theorem repr_injective {m n : Nat} (h : m.repr = n.repr) : m = n := by
  have hd : Nat.toDigits 10 m = Nat.toDigits 10 n := by
    rw [← Nat.toList_repr, h, Nat.toList_repr]
  rw [← Nat.ofDigitChars_toDigits (b := 10) (n := m) (by decide) (by decide), hd,
    Nat.ofDigitChars_toDigits (by decide) (by decide)]

theorem resultId_inj {m n : Nat} : resultId m = resultId n ↔ m = n := by
  refine ⟨fun h => ?_, fun h => h ▸ rfl⟩
  have h : "r" ++ m.repr = "r" ++ n.repr := h
  exact repr_injective (by simpa [← String.toList_inj] using h)

theorem taskId_inj {m n : Nat} : taskId m = taskId n ↔ m = n := by
  refine ⟨fun h => ?_, fun h => h ▸ rfl⟩
  have h : "t" ++ m.repr = "t" ++ n.repr := h
  exact repr_injective (by simpa [← String.toList_inj] using h)

/-- What is stored of a result; of one that is not there, nothing. -/
def result (p : MemoryPlane) (id : String) : StoredResult := (p.results.get? id).getD {}

theorem get?_of_owner {p : MemoryPlane} {id task : String} (h : (p.result id).owner = some task) :
    p.results.get? id = some (p.result id) := by
  unfold result at h ⊢
  cases hr : p.results.get? id with
  | none => rw [hr] at h; cases h
  | some r => rfl

def logged (p : MemoryPlane) (call : PlaneCall) (target : String) : MemoryPlane :=
  { p with calls := p.calls ++ [(call, target)] }

def failed (p : MemoryPlane) (call : PlaneCall) (target : String) : MemoryPlane :=
  { p.logged call target with
    failures := fun c => if c = call then (p.failures c).tail else p.failures c }

variable {α : Type} {p p' : MemoryPlane} {call : PlaneCall}

theorem recorded_of_nil (target : String) (effect : Call MemoryPlane α) (h : p.failures call = []) :
    recorded call target effect p = effect (p.logged call target) := by
  simp [recorded, record, logged, h]

theorem recorded_of_cons (target : String) (effect : Call MemoryPlane α) {e : ClientError}
    {rest : List ClientError} (h : p.failures call = e :: rest) :
    recorded call target effect p = (.error e, p.failed call target) := by
  simp only [recorded, record, h, failed, logged]
  congr 2
  funext c
  split
  · next hc => rw [hc, h]; rfl
  · rfl

theorem failures_failed_self (p : MemoryPlane) (call : PlaneCall) (target : String) :
    (p.failed call target).failures call = (p.failures call).tail := if_pos rfl

theorem failures_failed_of_ne (p : MemoryPlane) {call c : PlaneCall} (target : String) (h : c ≠ call) :
    (p.failed call target).failures c = p.failures c := if_neg h

/-! ### Polls -/

/-- What a poll would report of a result. -/
def statusOf (p : MemoryPlane) (id : String) : ResultStatus := (p.pollResult id).2

theorem statusOf_of_owner {id task : String} (h : (p.result id).owner = some task) :
    p.statusOf id = (p.result id).poll.2 := by
  simp [statusOf, pollResult, get?_of_owner h]

theorem statusOf_congr {id : String} (h : p'.results.get? id = p.results.get? id) :
    p'.statusOf id = p.statusOf id := by
  simp only [statusOf, pollResult, h]
  split <;> rfl

theorem get?_pollResult (p : MemoryPlane) (id id' : String) :
    (p.pollResult id).1.results.get? id' =
      if id' = id then (p.results.get? id').map fun r => r.poll.1 else p.results.get? id' := by
  unfold pollResult
  split
  · next h => split <;> simp [*]
  · next r h =>
    simp only [Table.get?_insert, eq_comm (a := id)]
    split <;> simp [*]

theorem pollResult_frame (p : MemoryPlane) (id : String) :
    (p.pollResult id).1 = { p with results := (p.pollResult id).1.results } := by
  unfold pollResult
  split <;> rfl

theorem pollResults_frame (ids : List String) (p : MemoryPlane) :
    (pollResults ids p).1 = { p with results := (pollResults ids p).1.results } := by
  induction ids generalizing p with
  | nil => rfl
  | cons id r ih =>
    simp only [pollResults]
    rw [ih, pollResult_frame]

/-- Each of several results is polled as if it were alone. -/
theorem result_pollResults {ids : List String} (h : ids.Nodup) (p : MemoryPlane) (id : String) :
    (pollResults ids p).1.result id = if id ∈ ids then (p.result id).poll.1 else p.result id := by
  induction ids generalizing p with
  | nil => rfl
  | cons a r ih =>
    obtain ⟨ha, hr⟩ := List.nodup_cons.mp h
    have hg : (p.pollResult a).1.result id = if id = a then (p.result id).poll.1 else p.result id := by
      unfold result
      rw [get?_pollResult]
      split
      · cases p.results.get? id <;> rfl
      · rfl
    simp only [pollResults, ih hr, List.mem_cons, hg]
    by_cases hid : id = a
    · simp [hid, ha]
    · simp [hid]

theorem pollResults_statuses {ids : List String} (h : ids.Nodup) (p : MemoryPlane) :
    (pollResults ids p).2 = ids.map fun id => (id, p.statusOf id) := by
  induction ids generalizing p with
  | nil => rfl
  | cons a r ih =>
    obtain ⟨ha, hr⟩ := List.nodup_cons.mp h
    simp only [pollResults, ih hr, List.map_cons]
    refine congrArg _ (List.map_congr_left fun id hid => ?_)
    have hne : id ≠ a := fun e => ha (e ▸ hid)
    rw [statusOf_congr]
    rw [get?_pollResult, if_neg hne]

def requested (p : MemoryPlane) (session : String) (count : Nat) : MemoryPlane :=
  { p.logged .resultStatuses session with statusBatchSizes := p.statusBatchSizes ++ [count] }

theorem resultStatuses_of_nil (session : String) (ids : List String)
    (h : p.failures .resultStatuses = []) :
    resultStatuses session ids p =
      (.ok (pollResults ids (p.requested session ids.length)).2,
        (pollResults ids (p.requested session ids.length)).1) := by
  let p1 : MemoryPlane := { p with statusBatchSizes := p.statusBatchSizes ++ [ids.length] }
  have h1 : p1.failures .resultStatuses = [] := h
  exact recorded_of_nil session _ h1

def refused (p : MemoryPlane) (session : String) (count : Nat) : MemoryPlane :=
  { p.failed .resultStatuses session with statusBatchSizes := p.statusBatchSizes ++ [count] }

theorem resultStatuses_of_cons (session : String) (ids : List String) {e : ClientError}
    {rest : List ClientError} (h : p.failures .resultStatuses = e :: rest) :
    resultStatuses session ids p = (.error e, p.refused session ids.length) := by
  let p1 : MemoryPlane := { p with statusBatchSizes := p.statusBatchSizes ++ [ids.length] }
  have h1 : p1.failures .resultStatuses = e :: rest := h
  exact recorded_of_cons session _ h1

/-! ### Downloads -/

/-- The data of a result, or why there is none, when no failure is scripted. -/
def fetch (p : MemoryPlane) (id : String) : Except ClientError Octets :=
  match p.results.get? id with
  | none => .error (.rpc ⟨.notFound, "result " ++ id⟩)
  | some r => r.data id

theorem downloadResult_of_nil (session id : String) (h : p.failures .downloadResult = []) :
    downloadResult session id p = (p.fetch id,
      { p.logged .downloadResult id with
        downloads := p.downloads.insert id (p.downloadCount id + 1) }) := by
  unfold downloadResult
  rw [recorded_of_nil _ _ h]
  unfold fetch
  simp only [logged, downloadCount]
  split <;> simp [*]

/-! ### What waiting leaves as it is -/

/-- The plane but for its logs, the counts of polls, and scripted failures that were taken. -/
structure Undisturbed (p p' : MemoryPlane) : Prop where
  responder : p'.responder = p.responder
  pollDelay : p'.pollDelay = p.pollDelay
  resultCount : p'.resultCount = p.resultCount
  tasks : p'.tasks = p.tasks
  submitted : p'.submitted = p.submitted
  deleted : p'.deleted = p.deleted
  failures : ∀ call, p'.failures call <:+ p.failures call
  results : ∀ id, (p'.result id).unpolled = (p.result id).unpolled

theorem Undisturbed.refl (p : MemoryPlane) : Undisturbed p p := by
  constructor
  case failures => exact fun call => List.suffix_refl _
  all_goals intros; rfl

theorem Undisturbed.trans {a b c : MemoryPlane} (h : Undisturbed a b) (h' : Undisturbed b c) :
    Undisturbed a c where
  responder := h'.responder.trans h.responder
  pollDelay := h'.pollDelay.trans h.pollDelay
  resultCount := h'.resultCount.trans h.resultCount
  tasks := h'.tasks.trans h.tasks
  submitted := h'.submitted.trans h.submitted
  deleted := h'.deleted.trans h.deleted
  failures call := (h'.failures call).trans (h.failures call)
  results id := (h'.results id).trans (h.results id)

theorem Undisturbed.failures_nil (h : Undisturbed p p') (hn : p.failures call = []) :
    p'.failures call = [] := by
  have := h.failures call
  rw [hn] at this
  exact List.suffix_nil.mp this

theorem Undisturbed.owner (h : Undisturbed p p') (id : String) :
    (p'.result id).owner = (p.result id).owner := (StoredResult.mk.inj (h.results id)).1

theorem Undisturbed.payload (h : Undisturbed p p') (id : String) :
    (p'.result id).payload = (p.result id).payload := (StoredResult.mk.inj (h.results id)).2.1

theorem Undisturbed.fate (h : Undisturbed p p') (id : String) :
    (p'.result id).fate = (p.result id).fate := (StoredResult.mk.inj (h.results id)).2.2.1

theorem Undisturbed.delay (h : Undisturbed p p') (id : String) :
    (p'.result id).delay = (p.result id).delay := (StoredResult.mk.inj (h.results id)).2.2.2.2

theorem undisturbed_failed (p : MemoryPlane) (call : PlaneCall) (target : String) :
    Undisturbed p (p.failed call target) := by
  constructor <;> intros <;> try rfl
  simp only [failed]
  split
  · exact List.tail_suffix _
  · exact List.suffix_refl _

theorem undisturbed_pollResult (p : MemoryPlane) (id : String) : Undisturbed p (p.pollResult id).1 := by
  have hf := pollResult_frame p id
  constructor
  case results =>
    intro id'
    unfold result
    rw [get?_pollResult]
    split
    · cases p.results.get? id' <;> simp
    · rfl
  all_goals rw [hf]
  exact fun _ => List.suffix_refl _

theorem undisturbed_pollResults (ids : List String) (p : MemoryPlane) :
    Undisturbed p (pollResults ids p).1 := by
  induction ids generalizing p with
  | nil => exact .refl p
  | cons id r ih => exact (undisturbed_pollResult p id).trans (ih _)

theorem undisturbed_resultStatuses (session : String) (ids : List String) (p : MemoryPlane) :
    Undisturbed p (resultStatuses session ids p).2 := by
  cases h : p.failures .resultStatuses with
  | nil =>
    rw [resultStatuses_of_nil session ids h]
    exact Undisturbed.trans (b := p.requested session ids.length)
      ⟨rfl, rfl, rfl, rfl, rfl, rfl, fun _ => List.suffix_refl _, fun _ => rfl⟩
      (undisturbed_pollResults _ _)
  | cons e rest =>
    rw [resultStatuses_of_cons session ids h]
    have u := undisturbed_failed p .resultStatuses session
    exact ⟨u.responder, u.pollDelay, u.resultCount, u.tasks, u.submitted, u.deleted, u.failures,
      u.results⟩

theorem undisturbed_downloadResult (session id : String) (p : MemoryPlane) :
    Undisturbed p (downloadResult session id p).2 := by
  cases h : p.failures .downloadResult with
  | nil =>
    rw [downloadResult_of_nil session id h]
    exact ⟨rfl, rfl, rfl, rfl, rfl, rfl, fun _ => List.suffix_refl _, fun _ => rfl⟩
  | cons e rest =>
    unfold downloadResult
    rw [recorded_of_cons _ _ h]
    exact undisturbed_failed p .downloadResult id

theorem keeps_undisturbed : Session.Keeps plane Undisturbed where
  refl := .refl
  trans := .trans
  statuses := undisturbed_resultStatuses
  download := undisturbed_downloadResult

end MemoryPlane
end TaskGrid
