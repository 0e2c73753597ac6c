import TaskGrid.Proofs.Plane.Enrolment
import TaskGrid.Proofs.Plane.Unsteady
import TaskGrid.Proofs.Session.Cleanup

/-! What a cleanup asks of a control plane in memory on which failures may be scripted at any time: one lookup, and
then one request for each batch, up to the first that fails. -/
namespace TaskGrid

/-- A control plane, and the requests for deletion that were sent to it: their sessions and their results. -/
structure Noted (σ : Type) where
  plane : σ
  deletions : List (String × List String) := []

def Noted.pass {σ α : Type} (call : Call σ α) : Call (Noted σ) α := fun w =>
  let (answer, plane) := call w.plane
  (answer, { w with plane })

/-- A control plane on which requests for deletion are noted, also those that fail. -/
def ControlPlane.noting {σ : Type} (plane : ControlPlane σ) : ControlPlane (Noted σ) where
  createSession options partitions := Noted.pass (plane.createSession options partitions)
  cancelSession session := Noted.pass (plane.cancelSession session)
  closeSession session := Noted.pass (plane.closeSession session)
  purgeSession session := Noted.pass (plane.purgeSession session)
  createResults session names := Noted.pass (plane.createResults session names)
  submitTasks session options tasks := Noted.pass (plane.submitTasks session options tasks)
  resultStatuses session results := Noted.pass (plane.resultStatuses session results)
  downloadResult session result := Noted.pass (plane.downloadResult session result)
  taskResults tasks := Noted.pass (plane.taskResults tasks)
  deleteResults session results := fun w =>
    Noted.pass (plane.deleteResults session results) { w with deletions := w.deletions ++ [(session, results)] }
  freshName w :=
    let (name, plane) := plane.freshName w.plane
    (name, { w with plane })

namespace Session

section
variable {σ τ : Type} {plane : ControlPlane σ} {plane' : ControlPlane τ} {R : σ → τ → Prop} {w : σ} {w' : τ}

/-- Two control planes that answer the calls of a cleanup alike. -/
structure Mirrors (plane : ControlPlane σ) (plane' : ControlPlane τ) (R : σ → τ → Prop) : Prop where
  listing : ∀ tasks {w w'}, R w w' → (plane.taskResults tasks w).1 = (plane'.taskResults tasks w').1 ∧
    R (plane.taskResults tasks w).2 (plane'.taskResults tasks w').2
  deleting : ∀ session results {w w'}, R w w' →
    (plane.deleteResults session results w).1 = (plane'.deleteResults session results w').1 ∧
      R (plane.deleteResults session results w).2 (plane'.deleteResults session results w').2

theorem Mirrors.deleteBatches (m : Mirrors plane plane' R) (session : String) (batches : List (List String))
    (h : R w w') : (deleteBatches plane session batches w).1 = (deleteBatches plane' session batches w').1 ∧
      R (deleteBatches plane session batches w).2 (deleteBatches plane' session batches w').2 := by
  induction batches generalizing w w' with
  | nil => exact ⟨rfl, h⟩
  | cons batch r ih =>
    obtain ⟨hanswer, hrest⟩ := m.deleting session batch h
    simp only [Session.deleteBatches]
    generalize plane.deleteResults session batch w = reply at hanswer hrest
    generalize plane'.deleteResults session batch w' = reply' at hanswer hrest
    obtain ⟨answer, w₁⟩ := reply
    obtain ⟨answer', w₁'⟩ := reply'
    obtain rfl : answer = answer' := hanswer
    cases answer with
    | error e => exact ⟨rfl, hrest⟩
    | ok => exact ih hrest

theorem Mirrors.cleanup (m : Mirrors plane plane' R) (s : Session) (visit : Visit) (tasks : List String)
    (h : R w w') : (s.cleanup plane visit tasks w).1 = (s.cleanup plane' visit tasks w').1 ∧
      R (s.cleanup plane visit tasks w).2 (s.cleanup plane' visit tasks w').2 := by
  unfold Session.cleanup
  by_cases htasks : tasks = []
  · rw [if_pos htasks, if_pos htasks]
    exact ⟨rfl, h⟩
  · rw [if_neg htasks, if_neg htasks]
    obtain ⟨hanswer, hrest⟩ := m.listing tasks h
    generalize plane.taskResults tasks w = reply at hanswer hrest
    generalize plane'.taskResults tasks w' = reply' at hanswer hrest
    obtain ⟨answer, w₁⟩ := reply
    obtain ⟨answer', w₁'⟩ := reply'
    obtain rfl : answer = answer' := hanswer
    cases answer with
    | error e => exact ⟨rfl, hrest⟩
    | ok results => exact m.deleteBatches s.id _ hrest

theorem mirrors_noting (plane : ControlPlane σ) : Mirrors plane.noting plane fun w w' => w.plane = w' where
  listing tasks w w' h := by
    subst h
    exact ⟨rfl, rfl⟩
  deleting session results w w' h := by
    subst h
    exact ⟨rfl, rfl⟩

theorem mirrors_steady :
    Mirrors UnsteadyPlane.plane MemoryPlane.plane fun u p => u = ⟨p, []⟩ where
  listing tasks u p h := by
    subst h
    exact ⟨rfl, rfl⟩
  deleting session results u p h := by
    subst h
    exact ⟨rfl, rfl⟩

end
end Session

namespace UnsteadyPlane
open MemoryPlane

variable {u u' u'' : UnsteadyPlane} {ids ids' : List String} {n n' : Nat} {e : ClientError}

/-- Calls that met no failure and deleted the data of results. -/
structure Clears (n : Nat) (ids : List String) (u u' : UnsteadyPlane) : Prop where
  cleans : Cleans ids u.base u'.base
  arrivals : u'.arrivals = u.arrivals.drop n
  failures : ∀ call, u'.base.failures call = u.scripted n call

theorem clears_nil (u : UnsteadyPlane) : Clears 0 [] u u where
  cleans := cleans_nil u.base
  arrivals := rfl
  failures _ := (List.append_nil _).symm

theorem Clears.scripted (h : Clears n ids u u') (k : Nat) (call : PlaneCall) :
    u'.scripted k call = u.scripted (n + k) call := scripted_of_drop h.arrivals h.failures k call

theorem Clears.failure? (h : Clears n ids u u') (k : Nat) (call : PlaneCall) :
    u'.failure? k call = u.failure? (n + k) call := by
  rw [UnsteadyPlane.failure?, h.scripted]
  rfl

theorem Clears.trans (h : Clears n ids u u') (h' : Clears n' ids' u' u'') : Clears (n + n') (ids ++ ids') u u'' where
  cleans := h.cleans.trans h'.cleans
  arrivals := by rw [h'.arrivals, h.arrivals, List.drop_drop]
  failures call := by rw [h'.failures, h.scripted]

theorem cleans_arrive (u : UnsteadyPlane) : Cleans [] u.base u.arrive.base := by
  rw [base_arrive]
  exact ⟨rfl, rfl, rfl, (List.append_nil _).symm, fun _ => rfl⟩

section
variable {α : Type} {call : PlaneCall} {effect : Call MemoryPlane α} (target : String)

theorem exists_pass_of_some (effect : Call MemoryPlane α) (h : u.failure? 0 call = some e) :
    ∃ u', pass (recorded call target effect) u = (.error e, u') ∧ Cleans [] u.base u'.base := by
  obtain ⟨rest, hs⟩ := List.head?_eq_some_iff.mp h
  have hf := (failures_arrive u call).trans hs
  refine ⟨⟨u.arrive.base.failed call target, u.arrivals.tail⟩, ?_, ?_⟩
  · simp only [pass, recorded_of_cons _ _ hf]
    rfl
  · exact (cleans_arrive u).trans (cleans_failed _ _ _)

theorem exists_pass_of_none {p : MemoryPlane} {answer : α} (h : u.failure? 0 call = none)
    (heffect : effect (u.arrive.base.logged call target) = (.ok answer, p))
    (hcleans : Cleans ids (u.arrive.base.logged call target) p)
    (hfailures : p.failures = u.arrive.base.failures) :
    ∃ u', pass (recorded call target effect) u = (.ok answer, u') ∧ Clears 1 ids u u' := by
  have hf := (failures_arrive u call).trans (List.head?_eq_none_iff.mp h)
  refine ⟨⟨p, u.arrivals.tail⟩, ?_, ?_⟩
  · simp only [pass, recorded_of_nil _ _ hf, heffect]
    rfl
  · constructor
    case cleans => exact ((cleans_arrive u).trans (cleans_logged _ _ _)).trans hcleans
    case arrivals => exact List.drop_one.symm
    case failures =>
      intro call
      rw [hfailures]
      exact failures_arrive u call

end

theorem exists_taskResults_of_some (tasks : List String) (h : u.failure? 0 .taskResults = some e) :
    ∃ u', plane.taskResults tasks u = (.error e, u') ∧ Cleans [] u.base u'.base :=
  exists_pass_of_some "" _ h

theorem exists_taskResults_of_none (tasks : List String) (h : u.failure? 0 .taskResults = none) :
    ∃ u', plane.taskResults tasks u = (.ok (u.base.tasks.select tasks), u') ∧ Clears 1 [] u u' := by
  have htasks : u.arrive.base.tasks = u.base.tasks := (cleans_arrive u).tasks
  rw [← htasks]
  exact exists_pass_of_none "" h rfl (cleans_nil _) rfl

theorem exists_deleteResults_of_some (session : String) (ids : List String)
    (h : u.failure? 0 .deleteResults = some e) :
    ∃ u', plane.deleteResults session ids u = (.error e, u') ∧ Cleans [] u.base u'.base :=
  exists_pass_of_some session _ h

theorem failures_foldl_deleteResult (ids : List String) (p : MemoryPlane) :
    (ids.foldl deleteResult p).failures = p.failures := by
  induction ids generalizing p with
  | nil => rfl
  | cons id r ih => exact ih (p.deleteResult id)

theorem exists_deleteResults_of_none (session : String) (ho : ∀ id ∈ ids, (u.base.result id).owner.isSome)
    (h : u.failure? 0 .deleteResults = none) :
    ∃ u', plane.deleteResults session ids u = (.ok (), u') ∧ Clears 1 ids u u' := by
  have hc := (cleans_arrive u).trans (cleans_logged u.arrive.base .deleteResults session)
  have ho' : ∀ id ∈ ids, ((u.arrive.base.logged .deleteResults session).result id).owner.isSome := by
    intro id hid
    rw [hc.owner]
    exact ho id hid
  exact exists_pass_of_none session h rfl (cleans_foldl ho') (failures_foldl_deleteResult ids _)

end UnsteadyPlane

namespace Session
open MemoryPlane

variable {u : UnsteadyPlane} {batches : List (List String)} {e : ClientError} {j : Nat}

section
variable {σ : Type} {plane : ControlPlane σ} {session : String} {batch : List String} {w w' : σ}
  {log : List (String × List String)}

theorem deleteBatches_noting_of_error (h : plane.deleteResults session batch w = (.error e, w')) :
    deleteBatches plane.noting session (batch :: batches) ⟨w, log⟩ =
      (.error e, ⟨w', log ++ [(session, batch)]⟩) := by
  simp only [deleteBatches, ControlPlane.noting, Noted.pass, h]

theorem deleteBatches_noting_of_ok (h : plane.deleteResults session batch w = (.ok (), w')) :
    deleteBatches plane.noting session (batch :: batches) ⟨w, log⟩ =
      deleteBatches plane.noting session batches ⟨w', log ++ [(session, batch)]⟩ := by
  simp only [deleteBatches, ControlPlane.noting, Noted.pass, h]

end

/-- Batches of which no request fails: the data of all their results is deleted. -/
theorem deleteBatches_of_none (session : String) (log : List (String × List String))
    (ho : ∀ id ∈ batches.flatten, (u.base.result id).owner.isSome)
    (h : ∀ j < batches.length, u.failure? j .deleteResults = none) :
    ∃ u', deleteBatches UnsteadyPlane.plane.noting session batches ⟨u, log⟩ =
        (.ok (), ⟨u', log ++ batches.map fun batch => (session, batch)⟩) ∧
      u.Clears batches.length batches.flatten u' := by
  induction batches generalizing u log with
  | nil => exact ⟨u, by simp [deleteBatches], u.clears_nil⟩
  | cons batch r ih =>
    simp only [List.flatten_cons, List.forall_mem_append] at ho
    obtain ⟨u₁, hbatch, hc⟩ := UnsteadyPlane.exists_deleteResults_of_none session ho.1
      (h 0 (by simp))
    -- the failures that later requests may meet are counted on from this one
    obtain ⟨u₂, hrest, hc'⟩ := ih (u := u₁) (log ++ [(session, batch)])
      (fun id hid => hc.cleans.owner id ▸ ho.2 id hid) fun j hj => by
        rw [hc.failure?, Nat.add_comm]
        exact h (j + 1) (by simpa using hj)
    refine ⟨u₂, ?_, ?_⟩
    · rw [deleteBatches_noting_of_ok hbatch, hrest, List.map_cons, List.append_assoc, List.singleton_append]
    · rw [List.length_cons, Nat.add_comm]
      exact hc.trans hc'

/-- The first request that fails: the batches before it are deleted, and none after it is asked for. -/
theorem deleteBatches_of_some (session : String) (log : List (String × List String))
    (ho : ∀ id ∈ batches.flatten, (u.base.result id).owner.isSome) (hj : j < batches.length)
    (hbefore : ∀ k < j, u.failure? k .deleteResults = none) (h : u.failure? j .deleteResults = some e) :
    ∃ u', deleteBatches UnsteadyPlane.plane.noting session batches ⟨u, log⟩ =
        (.error e, ⟨u', log ++ (batches.take (j + 1)).map fun batch => (session, batch)⟩) ∧
      Cleans (batches.take j).flatten u.base u'.base := by
  induction batches generalizing u log j with
  | nil => cases hj
  | cons batch r ih =>
    simp only [List.flatten_cons, List.forall_mem_append] at ho
    cases j with
    | zero =>
      obtain ⟨u', hbatch, hc⟩ := UnsteadyPlane.exists_deleteResults_of_some session batch h
      exact ⟨u', deleteBatches_noting_of_error hbatch, hc⟩
    | succ j =>
      obtain ⟨u₁, hbatch, hc⟩ := UnsteadyPlane.exists_deleteResults_of_none session ho.1
        (hbefore 0 (Nat.succ_pos j))
      obtain ⟨u₂, hrest, hc'⟩ := ih (u := u₁) (log ++ [(session, batch)])
        (fun id hid => hc.cleans.owner id ▸ ho.2 id hid) (Nat.lt_of_succ_lt_succ hj)
        (fun k hk => by
          rw [hc.failure?, Nat.add_comm]
          exact hbefore (k + 1) (Nat.succ_lt_succ hk))
        (by rw [hc.failure?, Nat.add_comm]; exact h)
      refine ⟨u₂, ?_, hc.cleans.trans hc'⟩
      rw [deleteBatches_noting_of_ok hbatch, hrest, List.take_succ_cons, List.map_cons, List.append_assoc,
        List.singleton_append]

/-- The batches of a cleanup: the results of the tasks that the plane knows. -/
def cleanupBatches (visit : Visit) (p : MemoryPlane) (tasks : List String) : List (List String) :=
  chunks cleanupBatchSize (visit.arrange (p.tasks.select tasks).values).flatten

theorem flatten_cleanupBatches_perm (visit : Visit) {p : MemoryPlane} (h : p.Enrolled) (tasks : List String) :
    (cleanupBatches visit p tasks).flatten.Perm (p.resultsOf tasks) := by
  rw [cleanupBatches, flatten_chunks]
  exact (visit.perm _).flatten.trans (h.values_select_perm tasks)

theorem map_length_cleanupBatches (visit : Visit) {p : MemoryPlane} (h : p.Enrolled) (tasks : List String) :
    (cleanupBatches visit p tasks).map List.length =
      List.replicate ((p.resultsOf tasks).length / 500) 500 ++
        if (p.resultsOf tasks).length % 500 = 0 then [] else [(p.resultsOf tasks).length % 500] := by
  have hlength := (flatten_cleanupBatches_perm visit h tasks).length_eq
  rw [cleanupBatches, flatten_chunks] at hlength
  rw [← hlength]
  exact map_length_chunks (by decide) _

/-- Every result that is to be deleted has a task. -/
theorem owner_of_mem_batches (visit : Visit) {p : MemoryPlane} (h : p.Enrolled) (tasks : List String) :
    ∀ id ∈ (cleanupBatches visit p tasks).flatten, (p.result id).owner.isSome := by
  intro id hid
  exact h.isSome_owner id ((flatten_cleanupBatches_perm visit h tasks).mem_iff.mp hid)

theorem length_cleanupBatches (visit : Visit) {p : MemoryPlane} (h : p.Enrolled) (tasks : List String) :
    (cleanupBatches visit p tasks).length = ((p.resultsOf tasks).length + 499) / 500 := by
  have hlength := congrArg List.length (map_length_cleanupBatches visit h tasks)
  rw [List.length_map, List.length_append, List.length_replicate] at hlength
  split at hlength
  · rw [List.length_nil] at hlength
    omega
  · rw [List.length_singleton] at hlength
    omega

/-- What a cleanup leaves behind that asked for the first `sent` of its batches, `done` of which were deleted. It
changes nothing of the session and calls no handler. -/
structure Cleaned (s : Session) (batches : List (List String)) (sent done : Nat) (p : MemoryPlane)
    (r : Performed (Noted UnsteadyPlane)) : Prop where
  session : r.session = s
  claims : r.claims = []
  deliveries : r.deliveries = []
  sent : r.plane.deletions = (batches.take sent).map fun batch => (s.id, batch)
  cleans : Cleans (batches.take done).flatten p r.plane.plane.base

section
variable {tasks : List String} (s : Session) (limit : Nat) (visits : Nat → Visit)

theorem perform_cleanup_of_nil (w : Noted UnsteadyPlane) :
    s.perform UnsteadyPlane.plane.noting limit visits w (.cleanup []) = ⟨.ok .done, [], [], s, w⟩ := rfl

/-- The lookup fails: nothing is asked for after it. -/
theorem perform_cleanup_of_lookup (htasks : tasks ≠ []) (h : u.failure? 0 .taskResults = some e) :
    let r := s.perform UnsteadyPlane.plane.noting limit visits ⟨u, []⟩ (.cleanup tasks)
    r.answer = .error e ∧ s.Cleaned (cleanupBatches (visits 0) u.base tasks) 0 0 u.base r := by
  obtain ⟨u', hlookup, hc⟩ := UnsteadyPlane.exists_taskResults_of_some tasks h
  have hr : s.cleanup UnsteadyPlane.plane.noting (visits 0) tasks ⟨u, []⟩ = (.error e, ⟨u', []⟩) := by
    simp only [cleanup, if_neg htasks, ControlPlane.noting, Noted.pass, hlookup]
  simp only [perform, unchanged, hr]
  exact ⟨rfl, rfl, rfl, rfl, rfl, hc⟩

/-- After the lookup there is a request for each batch. -/
theorem exists_cleanup_eq (visit : Visit) (htasks : tasks ≠ []) (h : u.failure? 0 .taskResults = none) :
    ∃ u', u.Clears 1 [] u' ∧ s.cleanup UnsteadyPlane.plane.noting visit tasks ⟨u, []⟩ =
      deleteBatches UnsteadyPlane.plane.noting s.id (cleanupBatches visit u.base tasks) ⟨u', []⟩ := by
  obtain ⟨u', hlookup, hc⟩ := UnsteadyPlane.exists_taskResults_of_none tasks h
  refine ⟨u', hc, ?_⟩
  simp only [cleanup, if_neg htasks]
  simp only [ControlPlane.noting, Noted.pass, hlookup]
  rfl

theorem perform_cleanup_of_none (hp : u.base.Enrolled) (htasks : tasks ≠ [])
    (hlookup : u.failure? 0 .taskResults = none)
    (h : ∀ j < (cleanupBatches (visits 0) u.base tasks).length, u.failure? (j + 1) .deleteResults = none) :
    let batches := cleanupBatches (visits 0) u.base tasks
    let r := s.perform UnsteadyPlane.plane.noting limit visits ⟨u, []⟩ (.cleanup tasks)
    r.answer = .ok .done ∧ s.Cleaned batches batches.length batches.length u.base r := by
  obtain ⟨u₁, hc, hcleanup⟩ := exists_cleanup_eq s (visits 0) htasks hlookup
  have ho := owner_of_mem_batches (visits 0) hp tasks
  generalize cleanupBatches (visits 0) u.base tasks = batches at h hcleanup ho
  obtain ⟨u₂, hdelete, hc'⟩ := deleteBatches_of_none (u := u₁) s.id []
    (fun id hid => hc.cleans.owner id ▸ ho id hid) fun j hj => by
      rw [hc.failure?, Nat.add_comm]
      exact h j hj
  intro batches r
  simp only [r, perform, unchanged, hcleanup, hdelete]
  refine ⟨rfl, rfl, rfl, rfl, ?_, ?_⟩
  · rw [List.take_length, List.nil_append]
  · rw [List.take_length]
    exact hc.cleans.trans hc'.cleans

/-- The request for batch `j` fails: those before it have taken effect, and it is the last that is sent. -/
theorem perform_cleanup_of_some (hp : u.base.Enrolled) (htasks : tasks ≠ [])
    (hlookup : u.failure? 0 .taskResults = none) (hj : j < (cleanupBatches (visits 0) u.base tasks).length)
    (hbefore : ∀ k < j, u.failure? (k + 1) .deleteResults = none)
    (h : u.failure? (j + 1) .deleteResults = some e) :
    let r := s.perform UnsteadyPlane.plane.noting limit visits ⟨u, []⟩ (.cleanup tasks)
    r.answer = .error e ∧ s.Cleaned (cleanupBatches (visits 0) u.base tasks) (j + 1) j u.base r := by
  obtain ⟨u₁, hc, hcleanup⟩ := exists_cleanup_eq s (visits 0) htasks hlookup
  have ho := owner_of_mem_batches (visits 0) hp tasks
  generalize cleanupBatches (visits 0) u.base tasks = batches at hj hcleanup ho
  have hshift (k : Nat) : u₁.failure? k .deleteResults = u.failure? (k + 1) .deleteResults := by
    rw [hc.failure?, Nat.add_comm]
  obtain ⟨u₂, hdelete, hc'⟩ := deleteBatches_of_some (u := u₁) s.id []
    (fun id hid => hc.cleans.owner id ▸ ho id hid) hj (fun k hk => (hshift k).trans (hbefore k hk))
    ((hshift j).trans h)
  intro r
  simp only [r, perform, unchanged, hcleanup, hdelete]
  exact ⟨rfl, rfl, rfl, rfl, by rw [List.nil_append], hc.cleans.trans hc'⟩

/-- However a cleanup ends, it deletes some of its batches and touches nothing else. -/
theorem exists_cleaned (hp : u.base.Enrolled) (tasks : List String) :
    ∃ sent done, s.Cleaned (cleanupBatches (visits 0) u.base tasks) sent done u.base
      (s.perform UnsteadyPlane.plane.noting limit visits ⟨u, []⟩ (.cleanup tasks)) := by
  by_cases htasks : tasks = []
  · subst htasks
    exact ⟨0, 0, rfl, rfl, rfl, rfl, cleans_nil u.base⟩
  · cases hlookup : u.failure? 0 .taskResults with
    | some e => exact ⟨0, 0, (perform_cleanup_of_lookup s limit visits htasks hlookup).2⟩
    | none =>
      by_cases hfails : ∃ j, j < (cleanupBatches (visits 0) u.base tasks).length ∧
          u.failure? (j + 1) .deleteResults ≠ none
      · obtain ⟨hj, hsome⟩ := Nat.find_spec hfails
        obtain ⟨e, he⟩ := Option.ne_none_iff_exists'.mp hsome
        have hbefore : ∀ k < Nat.find hfails, u.failure? (k + 1) .deleteResults = none := by
          intro k hk
          by_contra hk'
          exact Nat.find_min hfails hk ⟨hk.trans hj, hk'⟩
        exact ⟨_, _, (perform_cleanup_of_some s limit visits hp htasks hlookup hj hbefore he).2⟩
      · simp only [not_exists, not_and, not_not] at hfails
        exact ⟨_, _, (perform_cleanup_of_none s limit visits hp htasks hlookup hfails).2⟩

end
end Session
end TaskGrid
