import Mathlib.Data.List.Nodup
import TaskGrid.Proofs.Plane.Growth
import TaskGrid.Proofs.Plane.Submission
import TaskGrid.Proofs.Session.Frames

/-! Which results a control plane in memory knows its tasks by. It knows the tasks that it took, each by the one
result that it is to produce, and no result belongs to two of them. -/
namespace TaskGrid

namespace Table
variable {κ α : Type} [DecidableEq κ]

def select (t : Table κ α) (keys : List κ) : Table κ α :=
  .ofList (keys.filterMap fun k => (t.get? k).map fun v => (k, v))

theorem get?_select (t : Table κ α) (keys : List κ) (k : κ) :
    (t.select keys).get? k = if k ∈ keys then t.get? k else none := by
  have hall (s : Table κ α) : (s.insertAll (keys.filterMap fun k => (t.get? k).map fun v => (k, v))).get? k =
      (if k ∈ keys then t.get? k else none).or (s.get? k) := by
    induction keys generalizing s with
    | nil => rfl
    | cons a r ih =>
      cases ha : t.get? a with
      | none =>
        rw [List.filterMap_cons_none (by rw [ha]; rfl), ih]
        by_cases hk : k = a
        · simp [hk, ha]
        · simp [hk]
      | some v =>
        rw [List.filterMap_cons_some (b := (a, v)) (by rw [ha]; rfl), insertAll, List.foldl_cons, ← insertAll, ih,
          get?_insert]
        by_cases hk : k = a
        · by_cases hr : a ∈ r <;> simp [hk, ha, hr]
        · simp [hk, Ne.symm hk]
  rw [select, ofList, hall]
  exact Option.or_none

theorem entries_select_perm (t : Table κ α) (keys : List κ) :
    (t.select keys).entries.Perm (t.entries.filter fun e => e.1 ∈ keys) := by
  have hnodup (s : Table κ α) : s.entries.Nodup := List.Nodup.of_map Prod.fst s.distinct
  rw [List.perm_ext_iff_of_nodup (hnodup _) ((hnodup t).filter _)]
  rintro ⟨k, v⟩
  rw [← get?_eq_some_iff, get?_select, List.mem_filter, ← get?_eq_some_iff, decide_eq_true_eq]
  by_cases hk : k ∈ keys
  · simp [hk]
  · simp [hk]

end Table

def SubmittedRecord.entry (r : SubmittedRecord) : String × List String := (r.task, r.submission.outputs)

namespace MemoryPlane

variable {p p' p'' : MemoryPlane}

/-- The tasks that are taken between two states become known, with their results, and no others do. -/
def Enrols (p p' : MemoryPlane) : Prop := ∃ records, p'.submitted = p.submitted ++ records ∧
  p'.tasks = p.tasks.insertAll (records.map SubmittedRecord.entry)

theorem enrols_of_eq (hs : p'.submitted = p.submitted) (ht : p'.tasks = p.tasks) : Enrols p p' :=
  ⟨[], hs.trans (List.append_nil _).symm, ht⟩

theorem Enrols.refl (p : MemoryPlane) : Enrols p p := enrols_of_eq rfl rfl

theorem Enrols.trans (h : Enrols p p') (h' : Enrols p' p'') : Enrols p p'' := by
  obtain ⟨records, hsubmitted, htasks⟩ := h
  obtain ⟨records', hsubmitted', htasks'⟩ := h'
  refine ⟨records ++ records', ?_, ?_⟩
  · rw [hsubmitted', hsubmitted, List.append_assoc]
  · rw [htasks', htasks, List.map_append]
    exact (List.foldl_append ..).symm

theorem Undisturbed.enrols (h : Undisturbed p p') : Enrols p p' := enrols_of_eq h.submitted h.tasks

theorem enrols_recorded {α : Type} (call : PlaneCall) (target : String) {effect : Call MemoryPlane α}
    (h : ∀ q, Enrols q (effect q).2) (p : MemoryPlane) : Enrols p (recorded call target effect p).2 := by
  cases hf : p.failures call with
  | nil =>
    rw [recorded_of_nil target effect hf]
    exact (undisturbed_logged p call target).enrols.trans (h _)
  | cons e rest =>
    rw [recorded_of_cons target effect hf]
    exact (undisturbed_failed p call target).enrols

theorem enrols_addResults (n : Nat) (p : MemoryPlane) : Enrols p (addResults n p).1 := by
  have hframe := addResults_frame n p
  apply enrols_of_eq
  · rw [hframe]
  · rw [hframe]

theorem enrols_addTasks (session : String) (options : Option TaskOptions) (tasks : List TaskSubmission)
    (p : MemoryPlane) : Enrols p (addTasks session options tasks p).1 := by
  induction tasks generalizing p with
  | nil => exact .refl p
  | cons t r ih =>
    have hone : Enrols p (addTask session options p t).1 := ⟨[⟨session, _, options, t⟩], rfl, rfl⟩
    exact hone.trans (ih _)

theorem enrols_deleteResults (ids : List String) (p : MemoryPlane) : Enrols p (ids.foldl deleteResult p) := by
  induction ids generalizing p with
  | nil => exact .refl p
  | cons id r ih =>
    have hone : Enrols p (p.deleteResult id) := enrols_of_eq rfl rfl
    exact hone.trans (ih _)

/-- Whatever is asked of the plane, the tasks that it takes become known. -/
theorem frames_enrols : Session.Frames plane Enrols where
  refl := .refl
  trans := .trans
  statuses session ids p := (undisturbed_resultStatuses session ids p).enrols
  download session id p := (undisturbed_downloadResult session id p).enrols
  opening options partitions p := (undisturbed_createSession options partitions p).enrols
  cancelling session p := (undisturbed_sessionCall .cancelSession session p).enrols
  closing session p := (undisturbed_sessionCall .closeSession session p).enrols
  purging session p := (undisturbed_sessionCall .purgeSession session p).enrols
  making session names p :=
    enrols_recorded .createResults session (fun q => enrols_addResults names.length q) p
  submitting session options tasks p :=
    enrols_recorded .submitTasks session (fun _ => enrols_addTasks session options tasks _) p
  listing tasks p := (undisturbed_taskResults tasks p).enrols
  deleting session ids p := enrols_recorded .deleteResults session (enrols_deleteResults ids) p
  naming _ := enrols_of_eq rfl rfl

/-- The tasks that are known are those that were taken. Each has one result, and results that have a task are
theirs. -/
structure Enrolled (p : MemoryPlane) : Prop where
  known : p.tasks = .ofList (p.submitted.map SubmittedRecord.entry)
  distinct : (p.submitted.map SubmittedRecord.task).Nodup
  single : ∀ r ∈ p.submitted, ∃ id, r.submission.outputs = [id] ∧ (p.result id).owner = some r.task
  owned : ∀ {id task}, (p.result id).owner = some task →
    ∃ r ∈ p.submitted, r.task = task ∧ r.submission.outputs = [id]

def resultsOf (p : MemoryPlane) (tasks : List String) : List String :=
  (p.submitted.filter fun r => r.task ∈ tasks).flatMap fun r => r.submission.outputs

theorem enrolled_start (pollDelay : Nat) : Enrolled { pollDelay } where
  known := rfl
  distinct := List.nodup_nil
  single r hr := by cases hr
  owned h := by cases h

/-- Tasks may be taken as long as each has a result of its own. -/
theorem Enrolled.extend (h : p.Enrolled) (grows : Grows p p') (enrols : Enrols p p')
    {records : List SubmittedRecord} (submitted : p'.submitted = p.submitted ++ records)
    (distinct : (p'.submitted.map SubmittedRecord.task).Nodup)
    (single : ∀ r ∈ records, ∃ id, r.submission.outputs = [id] ∧ (p'.result id).owner = some r.task)
    (owned : ∀ {id task}, (p'.result id).owner = some task → (p.result id).owner = some task ∨
      ∃ r ∈ records, r.task = task ∧ r.submission.outputs = [id]) : p'.Enrolled where
  known := by
    obtain ⟨records', hsubmitted, htasks⟩ := enrols
    obtain rfl : records' = records := List.append_cancel_left (hsubmitted.symm.trans submitted)
    rw [htasks, h.known, submitted, List.map_append]
    exact (List.foldl_append ..).symm
  distinct := distinct
  single := by
    rw [submitted, List.forall_mem_append]
    refine ⟨fun r hr => ?_, single⟩
    obtain ⟨id, hid, howner⟩ := h.single r hr
    exact ⟨id, hid, grows.owner howner⟩
  owned {id task} ho := by
    rw [submitted]
    rcases owned ho with ho | ⟨r, hr, hentry⟩
    · obtain ⟨r, hr, hentry⟩ := h.owned ho
      exact ⟨r, List.mem_append_left _ hr, hentry⟩
    · exact ⟨r, List.mem_append_right _ hr, hentry⟩

theorem Enrolled.of_grows (h : p.Enrolled) (grows : Grows p p') (enrols : Enrols p p')
    (submitted : p'.submitted = p.submitted) : p'.Enrolled := by
  refine h.extend grows enrols (submitted.trans (List.append_nil _).symm) (submitted ▸ h.distinct) ?_ ?_
  · intro r hr
    cases hr
  · intro id task ho
    rcases grows.fresh ho with ho | ⟨-, n, hlt, hle, -⟩
    · exact .inl ho
    · rw [submitted] at hle
      omega

/-- No two results have the same task. -/
theorem Enrolled.eq_of_owner (h : p.Enrolled) {id id' task : String} (ho : (p.result id).owner = some task)
    (ho' : (p.result id').owner = some task) : id' = id := by
  obtain ⟨r, hr, htask, hid⟩ := h.owned ho
  obtain ⟨r', hr', htask', hid'⟩ := h.owned ho'
  obtain rfl := List.inj_on_of_nodup_map h.distinct hr hr' (htask.trans htask'.symm)
  rw [hid] at hid'
  exact (List.singleton_inj.mp hid').symm

theorem Enrolled.isSome_owner (h : p.Enrolled) {tasks : List String} :
    ∀ id ∈ p.resultsOf tasks, (p.result id).owner.isSome := by
  intro id hid
  obtain ⟨r, hr, hid⟩ := List.mem_flatMap.mp hid
  obtain ⟨id', houtputs, ho⟩ := h.single r (List.mem_filter.mp hr).1
  rw [houtputs] at hid
  rw [List.mem_singleton.mp hid, ho]
  rfl

/-- No result is expected twice. -/
theorem Enrolled.nodup_resultsOf (h : p.Enrolled) (tasks : List String) : (p.resultsOf tasks).Nodup := by
  rw [resultsOf, List.nodup_flatMap]
  constructor
  · intro r hr
    obtain ⟨id, houtputs, -⟩ := h.single r (List.mem_filter.mp hr).1
    rw [houtputs]
    exact List.nodup_singleton id
  · have hpairs : (p.submitted.filter fun r => r.task ∈ tasks).Pairwise fun r r' => r.task ≠ r'.task :=
      (List.pairwise_map.mp h.distinct).filter _
    refine hpairs.imp_of_mem fun {r r'} hr hr' hne => ?_
    obtain ⟨id, houtputs, ho⟩ := h.single r (List.mem_filter.mp hr).1
    obtain ⟨id', houtputs', ho'⟩ := h.single r' (List.mem_filter.mp hr').1
    simp only [Function.onFun, houtputs, houtputs', List.disjoint_singleton, List.mem_singleton]
    rintro rfl
    exact hne (Option.some.inj (ho.symm.trans ho'))

/-- The results that the plane answers with are those that are expected of the tasks it knows. -/
theorem Enrolled.values_select_perm (h : p.Enrolled) (tasks : List String) :
    (p.tasks.select tasks).values.flatten.Perm (p.resultsOf tasks) := by
  have hkeys : ((p.submitted.map SubmittedRecord.entry).map Prod.fst).Nodup := by
    rw [List.map_map]
    exact h.distinct
  have hentries : p.tasks.entries = p.submitted.map SubmittedRecord.entry := by
    rw [h.known, Table.entries_ofList hkeys]
  have hperm := ((p.tasks.entries_select_perm tasks).map Prod.snd).flatten
  rw [hentries, List.filter_map, List.map_map] at hperm
  exact hperm

end MemoryPlane
end TaskGrid
