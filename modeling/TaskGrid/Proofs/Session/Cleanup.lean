import TaskGrid.Proofs.Plane.Growth
import TaskGrid.Session.Basic

/-! A cleanup marks results as deleted and changes nothing else that is kept of them, also when it fails
between two requests. -/
namespace TaskGrid
namespace MemoryPlane

/-- Results marked as deleted, and nothing else but logs and failures that were taken. -/
structure Cleans (ids : List String) (p p' : MemoryPlane) : Prop where
  count : p'.resultCount = p.resultCount
  submitted : p'.submitted = p.submitted
  tasks : p'.tasks = p.tasks
  log : p'.deleted = p.deleted ++ ids
  results : ∀ id, p'.result id =
    if id ∈ ids then { p.result id with fate := some .deleted } else p.result id

variable {p p' p'' : MemoryPlane} {ids ids' : List String}

theorem Cleans.owner (h : Cleans ids p p') (id : String) :
    (p'.result id).owner = (p.result id).owner := by
  rw [h.results]
  split <;> rfl

theorem Cleans.grows (h : Cleans ids p p') : Grows p p' := by
  refine .of_owner_eq h.count h.submitted h.tasks h.owner fun id => ?_
  rw [h.results]
  split <;> rfl

theorem Cleans.deletes (h : Cleans ids p p') : Deletes ids p p' where
  log := h.log
  fates _ := by
    rw [h.results]
    split <;> rfl

theorem Cleans.trans (h : Cleans ids p p') (h' : Cleans ids' p' p'') :
    Cleans (ids ++ ids') p p'' where
  count := h'.count.trans h.count
  submitted := h'.submitted.trans h.submitted
  tasks := h'.tasks.trans h.tasks
  log := by rw [h'.log, h.log, List.append_assoc]
  results id := by
    rw [h'.results, h.results]
    by_cases h1 : id ∈ ids <;> by_cases h2 : id ∈ ids' <;> simp [h1, h2]

theorem cleans_nil (p : MemoryPlane) : Cleans [] p p :=
  ⟨rfl, rfl, rfl, (List.append_nil _).symm, fun _ => rfl⟩

theorem cleans_logged (p : MemoryPlane) (call : PlaneCall) (target : String) :
    Cleans [] p (p.logged call target) := ⟨rfl, rfl, rfl, (List.append_nil _).symm, fun _ => rfl⟩

theorem cleans_failed (p : MemoryPlane) (call : PlaneCall) (target : String) :
    Cleans [] p (p.failed call target) := ⟨rfl, rfl, rfl, (List.append_nil _).symm, fun _ => rfl⟩

theorem cleans_deleteResult {id : String} (h : (p.result id).owner.isSome) :
    Cleans [id] p (p.deleteResult id) := by
  obtain ⟨task, ht⟩ := Option.isSome_iff_exists.mp h
  refine ⟨rfl, rfl, rfl, rfl, fun id' => ?_⟩
  have hs := get?_of_owner ht
  simp only [deleteResult, hs, List.mem_singleton]
  by_cases e : id' = id
  · rw [if_pos e, e]
    simp [result]
  · rw [if_neg e]
    simp [result, Ne.symm e]

theorem cleans_foldl (h : ∀ id ∈ ids, (p.result id).owner.isSome) :
    Cleans ids p (ids.foldl deleteResult p) := by
  induction ids generalizing p with
  | nil => exact cleans_nil p
  | cons id r ih =>
    obtain ⟨hid, hr⟩ := List.forall_mem_cons.mp h
    have hc := cleans_deleteResult hid
    exact hc.trans (ih fun i hi => hc.owner i ▸ hr i hi)

theorem exists_cleans_deleteResults (session : String) (h : ∀ id ∈ ids, (p.result id).owner.isSome) :
    ∃ ids', Cleans ids' p (deleteResults session ids p).2 := by
  unfold deleteResults
  cases hf : p.failures .deleteResults with
  | nil =>
    rw [recorded_of_nil session _ hf]
    exact ⟨ids, (cleans_logged p _ session).trans (cleans_foldl h)⟩
  | cons e rest =>
    rw [recorded_of_cons session _ hf]
    exact ⟨[], cleans_failed p _ session⟩

end MemoryPlane

namespace Session
open MemoryPlane

theorem exists_cleans_deleteBatches (session : String) {p : MemoryPlane} (batches : List (List String))
    (h : ∀ id ∈ batches.flatten, (p.result id).owner.isSome) :
    ∃ ids, Cleans ids p (deleteBatches plane session batches p).2 := by
  induction batches generalizing p with
  | nil => exact ⟨[], cleans_nil p⟩
  | cons batch r ih =>
    simp only [List.flatten_cons, List.forall_mem_append] at h
    obtain ⟨ids, hb⟩ := exists_cleans_deleteResults session h.1
    rw [deleteBatches]
    simp only [plane]
    generalize deleteResults session batch p = reply at hb
    obtain ⟨_ | _, p'⟩ := reply
    · exact ⟨ids, hb⟩
    · obtain ⟨ids', hr⟩ := ih (p := p') fun id hid => hb.owner id ▸ h.2 id hid
      exact ⟨ids ++ ids', hb.trans hr⟩

/-- A cleanup asks which results the tasks have, and then deletes results of theirs. -/
theorem exists_cleanup (s : Session) (visit : Visit) (tasks : List String) {p : MemoryPlane}
    (hp : p.Sound) : ∃ ids p', Undisturbed p p' ∧ Cleans ids p' (s.cleanup plane visit tasks p).2 := by
  unfold cleanup
  split
  · exact ⟨[], p, .refl p, cleans_nil p⟩
  · have hu := undisturbed_taskResults tasks p
    have hr := @exists_of_taskResults tasks p
    simp only [plane]
    generalize taskResults tasks p = reply at hu hr
    obtain ⟨_ | results, p'⟩ := reply
    · exact ⟨[], p', hu, cleans_nil p'⟩
    · have ho : ∀ id ∈ (chunks cleanupBatchSize (visit.arrange results.values).flatten).flatten,
          (p'.result id).owner.isSome := by
        intro id hid
        rw [flatten_chunks] at hid
        obtain ⟨outputs, hm, hid⟩ := List.mem_flatten.mp hid
        obtain ⟨task, ht⟩ := hr rfl (visit.mem_arrange.mp hm)
        exact hu.owner id ▸ hp.produced ht id hid
      obtain ⟨ids, hc⟩ := exists_cleans_deleteBatches s.id _ ho
      exact ⟨ids, p', hu, hc⟩

end Session
end TaskGrid
