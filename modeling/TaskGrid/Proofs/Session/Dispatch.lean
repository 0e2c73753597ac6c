import TaskGrid.Proofs.Plane.Memory

/-! What handlers are told of results that a plane in memory keeps: the fate of each result decides it, and
a result whose data was deleted is not downloaded. -/
namespace TaskGrid

/-- What the handler of a task is told of the fate of its result. Of a fate that the plane does not know,
or that never comes, it is told nothing. -/
def Fate.told (fate : Fate) (task result : String) (payload : Octets) : Option Outcome :=
  match fate with
  | .echo => some (.response payload)
  | .completed data => some (.response data)
  | .aborted details => some (.failure (.task task details))
  | .abortedWithData _ =>
    some (.failure (.internal s!"result {result} is aborted but its data is available"))
  | .deleted => some (.failure (.internal s!"data of result {result} was deleted"))
  | .notFound | .pending => none

namespace MemoryPlane

/-- The callback that a tracked result calls for, as its fate stands. -/
def delivery? (p : MemoryPlane) (e : String × Tracked) : Option Delivery :=
  ((p.result e.1).settled.told e.2.task e.1 (p.result e.1).payload).map fun outcome =>
    ⟨e.2.handler, e.2.task, outcome⟩

def fails (p : MemoryPlane) (e : String × Tracked) : Bool :=
  (p.delivery? e).any fun d => !Session.succeeded d.handler d.outcome

/-- A claim of a tracked result that has met its fate. -/
structure Met (p : MemoryPlane) (c : Tracker.Claim) : Prop where
  final : c.status.isTerminal
  status : c.status = (p.result c.result).settled.status
  tracked : ∃ t, c.tracked = some t ∧ (p.result c.result).owner = some t.task

/-- What downloads leave as it is. -/
structure Fetches (p p' : MemoryPlane) : Prop where
  results : ∀ id, p'.result id = p.result id
  sizes : p'.statusBatchSizes = p.statusBatchSizes
  failures : ∀ call, call ≠ .downloadResult → p'.failures call = p.failures call

variable {p p' : MemoryPlane} {session : String}

theorem fetches_downloadResult (session id : String) (p : MemoryPlane) :
    Fetches p (downloadResult session id p).2 := by
  cases h : p.failures .downloadResult with
  | nil =>
    rw [downloadResult_of_nil session id h]
    exact ⟨fun _ => rfl, rfl, fun _ _ => rfl⟩
  | cons e rest =>
    unfold downloadResult
    rw [recorded_of_cons _ _ h]
    exact ⟨fun _ => rfl, rfl, fun call hc => failures_failed_of_ne p id hc⟩

theorem fetched_fetches : Session.Fetched plane Fetches where
  refl _ := ⟨fun _ => rfl, rfl, fun _ _ => rfl⟩
  trans h h' := ⟨fun id => (h'.results id).trans (h.results id), h'.sizes.trans h.sizes,
    fun call hc => (h'.failures call hc).trans (h.failures call hc)⟩
  download := fetches_downloadResult

theorem Fetches.delivery? (h : Fetches p p') : p'.delivery? = p.delivery? := by
  funext e
  simp only [MemoryPlane.delivery?, h.results]

theorem Fetches.met (h : Fetches p p') {c : Tracker.Claim} (hc : p.Met c) : p'.Met c := by
  refine ⟨hc.final, ?_, ?_⟩ <;> rw [h.results]
  · exact hc.status
  · exact hc.tracked

theorem downloadResult_eq (session : String) {id task : String}
    (h : p.failures .downloadResult = []) (ho : (p.result id).owner = some task) :
    (downloadResult session id p).1 = (p.result id).data id := by
  rw [downloadResult_of_nil session id h, fetch, get?_of_owner ho]

/-- The outcome of a result is the one its fate stands for. -/
theorem outcome?_eq (session : String) {id task : String} (h : p.failures .downloadResult = [])
    (ho : (p.result id).owner = some task)
    (ht : (p.result id).settled.status.isTerminal) :
    (Session.outcome? plane session id (p.result id).settled.status p).1 =
      (p.result id).settled.told task id (p.result id).payload := by
  have hdata := downloadResult_eq session h ho
  unfold Session.outcome?
  simp only [plane]
  generalize downloadResult session id p = reply at hdata
  obtain ⟨answer, p'⟩ := reply
  simp only [StoredResult.data, ho, Option.getD_some] at hdata
  cases hf : (p.result id).settled <;> simp only [hf] at hdata ht ⊢ <;> subst hdata <;> try rfl
  cases ht

/-- Claims are dispatched in their order, each as its fate stands. -/
theorem dispatchAll_eq (claims : List Tracker.Claim) (h : p.failures .downloadResult = [])
    (hm : ∀ c ∈ claims, p.Met c) :
    (Session.dispatchAll plane session claims p).1 =
        (claims.filterMap Tracker.Claim.held?).filterMap p.delivery? ∧
      (Session.dispatchAll plane session claims p).2.1 =
        (claims.filterMap Tracker.Claim.held?).any p.fails := by
  induction claims generalizing p with
  | nil => exact ⟨rfl, rfl⟩
  | cons c r ih =>
    obtain ⟨hc, hr⟩ := List.forall_mem_cons.mp hm
    obtain ⟨result, status, tracked⟩ := c
    obtain ⟨hterm, hs, t, ht, ho⟩ := hc
    simp only at hterm ho hs ht
    subst hs ht
    have hout := outcome?_eq session h ho hterm
    have hfetch := fetched_fetches.outcome? session result (p.result result).settled.status p
    have hnil := (keeps_undisturbed.outcome? session result
      (p.result result).settled.status p).failures_nil h
    simp only [Session.dispatchAll, Session.dispatch]
    generalize Session.outcome? plane session result (p.result result).settled.status p = o
      at hout hfetch hnil
    obtain ⟨o, p1⟩ := o
    obtain ⟨hd, hfail⟩ := ih hnil fun c hc => hfetch.met (hr c hc)
    have hfails : p1.fails = p.fails := by
      funext e
      simp only [fails, hfetch.delivery?]
    simp only at hout
    have hdel : p.delivery? (result, t) = o.map fun outcome => ⟨t.handler, t.task, outcome⟩ := by
      simp only [MemoryPlane.delivery?, ← hout]
    have hheld : (⟨result, (p.result result).settled.status, some t⟩ :: r).filterMap
        Tracker.Claim.held? = (result, t) :: r.filterMap Tracker.Claim.held? := rfl
    have hfails1 :
        p.fails (result, t) = o.any fun outcome => !Session.succeeded t.handler outcome := by
      rw [fails, hdel, Option.any_map]
    rw [hheld, List.any_cons, hfails1]
    rw [hfetch.delivery?] at hd
    rw [hfails] at hfail
    cases o with
    | none => simp [hd, hfail, hdel]
    | some outcome => simp [hd, hfail, hdel]

/-- A result that is claimed as deleted, or as unknown, is not downloaded. -/
theorem downloadCount_dispatchAll {id : String} (claims : List Tracker.Claim)
    (hm : ∀ c ∈ claims, c.result = id → c.status = .deleted ∨ c.status = .notFound)
    (h : p.failures .downloadResult = []) :
    (Session.dispatchAll plane session claims p).2.2.downloadCount id = p.downloadCount id := by
  induction claims generalizing p with
  | nil => rfl
  | cons c r ih =>
    obtain ⟨hc, hr⟩ := List.forall_mem_cons.mp hm
    obtain ⟨result, status, _ | t⟩ := c
    · exact ih hr h
    · have hone : (Session.outcome? plane session result status p).2.downloadCount id =
          p.downloadCount id := by
        by_cases hid : result = id
        · rcases hc hid with rfl | rfl <;> rfl
        · have hd : (downloadResult session result p).2.downloadCount id = p.downloadCount id := by
            rw [downloadResult_of_nil session result h]
            simp [downloadCount, hid]
          unfold Session.outcome?
          simp only [plane]
          generalize downloadResult session result p = reply at hd
          obtain ⟨_ | _, p'⟩ := reply <;> split <;> first | rfl | exact hd
      have hnil := (keeps_undisturbed.outcome? session result status p).failures_nil h
      simp only [Session.dispatchAll, Session.dispatch]
      generalize Session.outcome? plane session result status p = o at hone hnil
      obtain ⟨_ | o, p'⟩ := o <;> exact (ih hr hnil).trans hone

end MemoryPlane
end TaskGrid
