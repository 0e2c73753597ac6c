import TaskGrid.Proofs.Payload.RoundTrip
import TaskGrid.Proofs.Plane.Memory

/-! How a control plane in memory makes results and takes tasks: ids count up, and a result takes the
task that is to produce it without losing a fate that was set before. -/
namespace TaskGrid

/-- A task that was taken: its id, its one result, and the request it came from. -/
structure Taken where
  task : String
  result : String
  request : Payload
  bytes : Octets

namespace Taken

def submission (t : Taken) : TaskSubmission := ⟨t.bytes, [t.result], t.request.dependencies⟩

def record (session : String) (options : Option TaskOptions) (t : Taken) : SubmittedRecord :=
  ⟨session, t.task, options, t.submission⟩

/-- Tasks whose ids go on counting after the first `n`. -/
def Numbered (n : Nat) (taken : List Taken) : Prop :=
  ∀ k t, taken[k]? = some t → t.task = MemoryPlane.taskId (n + k + 1)

theorem numbered_cons {n : Nat} {t : Taken} {r : List Taken} :
    Numbered n (t :: r) ↔ t.task = MemoryPlane.taskId (n + 1) ∧ Numbered (n + 1) r := by
  constructor
  · refine fun h => ⟨h 0 t rfl, fun k u hu => ?_⟩
    have := h (k + 1) u hu
    rwa [show n + (k + 1) + 1 = n + 1 + k + 1 by omega] at this
  · rintro ⟨ht, hr⟩ (_ | k) u hu
    · cases hu
      exact ht
    · rw [hr k u hu, show n + (k + 1) + 1 = n + 1 + k + 1 by omega]

theorem Numbered.append {n : Nat} {a b : List Taken} (ha : Numbered n a)
    (hb : Numbered (n + a.length) b) : Numbered n (a ++ b) := by
  induction a generalizing n with
  | nil => simpa using hb
  | cons t r ih =>
    obtain ⟨ht, hr⟩ := numbered_cons.mp ha
    refine numbered_cons.mpr ⟨ht, ih hr ?_⟩
    rwa [List.length_cons, show n + (r.length + 1) = n + 1 + r.length by omega] at hb

theorem Numbered.map_task {n : Nat} {taken : List Taken} (h : Numbered n taken) :
    taken.map task = (List.range' (n + 1) taken.length).map MemoryPlane.taskId := by
  induction taken generalizing n with
  | nil => rfl
  | cons t r ih =>
    obtain ⟨ht, hr⟩ := numbered_cons.mp h
    simp [List.range'_succ, ht, ih hr]

theorem Numbered.exists_task_eq {n : Nat} {taken : List Taken} (h : Numbered n taken) {t : Taken}
    (ht : t ∈ taken) : ∃ k, n < k ∧ k ≤ n + taken.length ∧ t.task = MemoryPlane.taskId k := by
  obtain ⟨k, hk⟩ := List.mem_iff_getElem?.mp ht
  have hlt := (List.getElem?_eq_some_iff.mp hk).1
  exact ⟨n + k + 1, by omega, by omega, h k t hk⟩

theorem Numbered.nodup_task {n : Nat} {taken : List Taken} (h : Numbered n taken) :
    (taken.map task).Nodup := by
  rw [h.map_task]
  exact List.pairwise_map.mpr ((List.nodup_range' 1).imp fun h e => h (MemoryPlane.taskId_inj.mp e))

end Taken

namespace MemoryPlane

/-- The fate that the plane has for a task without one of its own. -/
def answerTo (p : MemoryPlane) (request : Payload) : Fate :=
  match p.responder with
  | some responder => responder request
  | none => .echo

theorem respond_eq (p : MemoryPlane) {request : Payload} {bytes : Octets}
    (h : request.encode = .ok bytes) : p.respond bytes = p.answerTo request := by
  unfold respond answerTo
  rw [Payload.decode_of_encode h]
  cases p.responder <;> rfl

theorem freshNames_eq (n : Nat) (p : MemoryPlane) :
    (freshNames freshName n p).1.length = n ∧
      (freshNames freshName n p).2 = { p with nameCount := p.nameCount + n } := by
  induction n generalizing p with
  | zero => exact ⟨rfl, rfl⟩
  | succ n ih =>
    obtain ⟨hl, hp⟩ := ih (freshName p).2
    simp only [freshNames, List.length_cons, hl, hp]
    refine ⟨trivial, ?_⟩
    simp only [freshName, Nat.add_assoc, Nat.add_comm 1 n]

/-! ### New results -/

theorem addResults_ids (n : Nat) (p : MemoryPlane) :
    (addResults n p).2 = (List.range' (p.resultCount + 1) n).map resultId := by
  induction n generalizing p with
  | zero => rfl
  | succ n ih =>
    simp only [addResults, ih, List.range'_succ, List.map_cons]
    rfl

theorem addResults_frame (n : Nat) (p : MemoryPlane) :
    (addResults n p).1 = { p with
      results := (addResults n p).1.results
      resultCount := p.resultCount + n } := by
  induction n generalizing p with
  | zero => rfl
  | succ n ih =>
    simp only [addResults]
    rw [ih]
    simp only [addResult, Nat.add_assoc, Nat.add_comm 1 n]

/-- A new result has nothing stored that was not there before. -/
theorem result_addResults (n : Nat) (p : MemoryPlane) (id : String) :
    (addResults n p).1.result id = p.result id := by
  induction n generalizing p with
  | zero => rfl
  | succ n ih =>
    have h : p.addResult.1.results = p.results.insert p.addResult.2 (p.result p.addResult.2) := rfl
    simp only [addResults, ih]
    unfold result
    rw [h, Table.get?_insert]
    split
    · next e => rw [← e]; rfl
    · rfl

theorem mem_addResults {n : Nat} {p : MemoryPlane} {id : String} (h : id ∈ (addResults n p).2) :
    ∃ k, p.resultCount < k ∧ k ≤ p.resultCount + n ∧ id = resultId k := by
  rw [addResults_ids] at h
  obtain ⟨k, hk, rfl⟩ := List.mem_map.mp h
  rw [List.mem_range'_1] at hk
  exact ⟨k, by omega, by omega, rfl⟩

theorem nodup_addResults (n : Nat) (p : MemoryPlane) : (addResults n p).2.Nodup := by
  rw [addResults_ids]
  exact List.pairwise_map.mpr ((List.nodup_range' 1).imp fun h e => h (resultId_inj.mp e))

theorem createResults_of_nil {p : MemoryPlane} (session : String) (names : List String)
    (h : p.failures .createResults = []) :
    createResults session names p =
      (.ok (addResults names.length (p.logged .createResults session)).2,
        (addResults names.length (p.logged .createResults session)).1) :=
  recorded_of_nil session _ h

theorem createResults_of_cons {p : MemoryPlane} (session : String) (names : List String)
    {e : ClientError} {rest : List ClientError} (h : p.failures .createResults = e :: rest) :
    createResults session names p = (.error e, p.failed .createResults session) :=
  recorded_of_cons session _ h

/-! ### New tasks -/

def owned (p : MemoryPlane) (t : Taken) : StoredResult :=
  (p.result t.result).submitted t.task t.bytes p.pollDelay (p.answerTo t.request)

theorem addTask_eq (session : String) (options : Option TaskOptions) {p : MemoryPlane} {t : Taken}
    (htask : t.task = taskId (p.submitted.length + 1)) (henc : t.request.encode = .ok t.bytes) :
    addTask session options p t.submission =
      ({ p with
          results := p.results.insert t.result (p.owned t)
          tasks := p.tasks.insert t.task [t.result]
          submitted := p.submitted ++ [t.record session options] },
        ⟨t.task, [t.result]⟩) := by
  have hid : s!"t{p.submitted.length + 1}" = t.task := htask.symm
  simp only [addTask, hid, Taken.submission, List.foldl_cons, List.foldl_nil, assign,
    respond_eq p henc]
  rfl

def offered (p : MemoryPlane) (session : String) (count : Nat) : MemoryPlane :=
  { p.logged .submitTasks session with submitBatchSizes := p.submitBatchSizes ++ [count] }

variable (session : String) (options : Option TaskOptions)

theorem submitTasks_of_nil {p : MemoryPlane} (tasks : List TaskSubmission)
    (h : p.failures .submitTasks = []) :
    submitTasks session options tasks p =
      (.ok (addTasks session options tasks (p.offered session tasks.length)).2,
        (addTasks session options tasks (p.offered session tasks.length)).1) :=
  recorded_of_nil session _ h

theorem submitTasks_of_cons {p : MemoryPlane} (tasks : List TaskSubmission) {e : ClientError}
    {rest : List ClientError} (h : p.failures .submitTasks = e :: rest) :
    submitTasks session options tasks p = (.error e, p.failed .submitTasks session) :=
  recorded_of_cons session _ h

/-- Tasks that are taken one after the other, when no two share a result. -/
structure AddsTasks (taken : List Taken) (p p' : MemoryPlane) : Prop where
  frame : p' = { p with results := p'.results, tasks := p'.tasks, submitted := p'.submitted }
  submitted : p'.submitted = p.submitted ++ taken.map (Taken.record session options)
  stored : ∀ t ∈ taken, p'.result t.result = p.owned t
  others : ∀ id, id ∉ taken.map Taken.result → p'.result id = p.result id
  tasks : ∀ task outputs, p'.tasks.get? task = some outputs →
    p.tasks.get? task = some outputs ∨ ∃ t ∈ taken, outputs = [t.result]

theorem addTasks_eq (taken : List Taken) {p : MemoryPlane}
    (hnum : Taken.Numbered p.submitted.length taken)
    (henc : ∀ t ∈ taken, t.request.encode = .ok t.bytes) (hd : (taken.map Taken.result).Nodup) :
    (addTasks session options (taken.map Taken.submission) p).2 =
        taken.map (fun t => ⟨t.task, [t.result]⟩) ∧
      AddsTasks session options taken p
        (addTasks session options (taken.map Taken.submission) p).1 := by
  induction taken generalizing p with
  | nil => exact ⟨rfl, rfl, by simp [addTasks], by simp, fun _ _ => rfl, fun _ _ h => .inl h⟩
  | cons t r ih =>
    obtain ⟨ht, hr⟩ := Taken.numbered_cons.mp hnum
    obtain ⟨het, her⟩ := List.forall_mem_cons.mp henc
    obtain ⟨hdt, hdr⟩ := List.nodup_cons.mp hd
    have ha := addTask_eq session options ht het
    simp only [List.map_cons, addTasks, ha]
    let p1 : MemoryPlane := { p with
      results := p.results.insert t.result (p.owned t)
      tasks := p.tasks.insert t.task [t.result]
      submitted := p.submitted ++ [t.record session options] }
    have hlen : p1.submitted.length = p.submitted.length + 1 := by simp [p1]
    have hget (id : String) : p1.result id = if t.result = id then p.owned t else p.result id := by
      simp only [p1, result, Table.get?_insert]
      split <;> rfl
    have howned (u : Taken) (hu : u ∈ r) : p1.owned u = p.owned u := by
      have hne : t.result ≠ u.result := fun e => hdt (e ▸ List.mem_map.mpr ⟨u, hu, rfl⟩)
      simp only [owned, hget, if_neg hne]
      rfl
    obtain ⟨hs, h⟩ := ih (p := p1) (hlen ▸ hr) her hdr
    refine ⟨by rw [hs], ?_⟩
    constructor
    case frame => rw [h.frame]
    case submitted => rw [h.submitted]; simp [p1]
    case stored =>
      rintro u (_ | ⟨_, hu⟩)
      · rw [h.others _ hdt, hget, if_pos rfl]
      · rw [h.stored u hu, howned u hu]
    case others =>
      intro id hid
      simp only [List.map_cons, List.mem_cons, not_or] at hid
      rw [h.others _ hid.2, hget, if_neg (Ne.symm hid.1)]
    case tasks =>
      intro task outputs ho
      rcases h.tasks task outputs ho with ho | ⟨u, hu, rfl⟩
      · simp only [p1, Table.get?_insert] at ho
        split at ho
        · cases ho
          exact .inr ⟨t, by simp, rfl⟩
        · exact .inl ho
      · exact .inr ⟨u, by simp [hu], rfl⟩

end MemoryPlane
end TaskGrid
