import TaskGrid.Proofs.Plane.Memory

/-! Status requests for batches of results. Scripted failures meet the first requests; each result of the
others is polled once. -/
namespace TaskGrid
namespace MemoryPlane
open Session (pollBatches)

/-- The results that are polled when some of the first requests fail. -/
def answered (p : MemoryPlane) (batches : List (List String)) : List String :=
  (batches.drop (p.failures .resultStatuses).length).flatten

/-- A request for each batch: results are polled once each, and nothing else is disturbed. -/
structure Polls (batches : List (List String)) (p p' : MemoryPlane) : Prop where
  results : ∀ id, p'.result id =
    if id ∈ p.answered batches then (p.result id).poll.1 else p.result id
  failures : p'.failures .resultStatuses = (p.failures .resultStatuses).drop batches.length
  others : ∀ call, call ≠ .resultStatuses → p'.failures call = p.failures call
  sizes : p'.statusBatchSizes = p.statusBatchSizes ++ batches.map List.length
  downloads : p'.downloads = p.downloads

theorem get?_pollResults_of_not_mem {ids : List String} {id : String} (h : id ∉ ids)
    (p : MemoryPlane) : (pollResults ids p).1.results.get? id = p.results.get? id := by
  induction ids generalizing p with
  | nil => rfl
  | cons a r ih =>
    simp only [List.mem_cons, not_or] at h
    simp only [pollResults]
    rw [ih h.2, get?_pollResult, if_neg h.1]

theorem polls_nil (p : MemoryPlane) : Polls [] p p := by
  constructor <;> simp [answered]

variable {session : String} {batch : List String} {batches : List (List String)} {p : MemoryPlane}

theorem answered_of_nil (h : p.failures .resultStatuses = []) :
    p.answered batches = batches.flatten := by simp [answered, h]

theorem answered_cons_of_nil (h : p.failures .resultStatuses = []) :
    p.answered (batch :: batches) = batch ++ batches.flatten := by simp [answered, h]

theorem flatten_eq_append_answered (p : MemoryPlane) (batches : List (List String)) :
    batches.flatten =
      (batches.take (p.failures .resultStatuses).length).flatten ++ p.answered batches := by
  rw [answered, ← List.flatten_append, List.take_append_drop]

theorem mem_of_mem_answered {id : String} (h : id ∈ p.answered batches) : id ∈ batches.flatten := by
  rw [flatten_eq_append_answered p batches]
  exact List.mem_append_right _ h

theorem nodup_answered (h : batches.flatten.Nodup) : (p.answered batches).Nodup := by
  rw [flatten_eq_append_answered p batches] at h
  exact (List.nodup_append.mp h).2.1

theorem answered_refused {e : ClientError} {rest : List ClientError}
    (h : p.failures .resultStatuses = e :: rest) :
    (p.refused session batch.length).answered batches = p.answered (batch :: batches) := by
  have hf := failures_failed_self p .resultStatuses session
  rw [h, List.tail_cons] at hf
  simp [answered, refused, hf, h]

/-- A request that fails leaves its batch without statuses. -/
theorem polls_cons_failed {e : ClientError} {rest : List ClientError} {p' : MemoryPlane}
    (h : p.failures .resultStatuses = e :: rest)
    (hr : Polls batches (p.refused session batch.length) p') :
    Polls (batch :: batches) p p' := by
  have hf := failures_failed_self p .resultStatuses session
  constructor
  case results =>
    intro id
    have hi := hr.results id
    rw [answered_refused h] at hi
    exact hi
  case failures =>
    have hi := hr.failures
    simp only [refused, hf] at hi
    rw [hi, h, List.length_cons, List.tail_cons, List.drop_succ_cons]
  case others =>
    intro call hc
    exact (hr.others call hc).trans (failures_failed_of_ne p session hc)
  case sizes =>
    rw [hr.sizes]
    simp [refused]
  case downloads => exact hr.downloads

/-- A request that is answered polls its batch. -/
theorem polls_cons_answered {p' : MemoryPlane} (h : p.failures .resultStatuses = [])
    (hn : (batch ++ batches.flatten).Nodup)
    (hr : Polls batches (resultStatuses session batch p).2 p') :
    Polls (batch :: batches) p p' := by
  obtain ⟨hb, -, hd⟩ := List.nodup_append.mp hn
  rw [resultStatuses_of_nil session batch h] at hr
  have hp := pollResults_frame batch (p.requested session batch.length)
  have hres := result_pollResults hb (p.requested session batch.length)
  simp only at hr
  generalize (pollResults batch (p.requested session batch.length)).1 = p1 at hp hres hr
  have hf : p1.failures .resultStatuses = [] := by
    rw [hp]
    exact h
  constructor
  case results =>
    intro id
    have hq : (p.requested session batch.length).result id = p.result id := rfl
    rw [hr.results, hres, hq, answered_of_nil hf, answered_cons_of_nil h]
    by_cases hib : id ∈ batch
    · have hnr : id ∉ batches.flatten := fun hir => hd id hib id hir rfl
      rw [if_neg hnr, if_pos hib, if_pos (List.mem_append_left _ hib)]
    · rw [if_neg hib]
      simp [hib]
  case failures => rw [hr.failures, hf, h]; simp
  case others =>
    intro call hc
    rw [hr.others call hc, hp]
    rfl
  case sizes =>
    rw [hr.sizes, hp]
    simp [requested]
  case downloads =>
    rw [hr.downloads, hp]
    rfl

theorem pollBatches_refused {e : ClientError} {rest : List ClientError}
    (h : p.failures .resultStatuses = e :: rest) (statuses : Table String ResultStatus) :
    pollBatches plane session (batch :: batches) statuses p =
      pollBatches plane session batches statuses (p.refused session batch.length) := by
  simp only [pollBatches, plane, resultStatuses_of_cons session batch h]

theorem pollBatches_answered (h : p.failures .resultStatuses = []) (hn : batch.Nodup)
    (statuses : Table String ResultStatus) :
    pollBatches plane session (batch :: batches) statuses p =
      pollBatches plane session batches
        (statuses.insertAll (batch.map fun id => (id, p.statusOf id)))
        (resultStatuses session batch p).2 := by
  have hlist := pollResults_statuses hn (p.requested session batch.length)
  have hst (id : String) : (p.requested session batch.length).statusOf id = p.statusOf id :=
    statusOf_congr rfl
  simp only [pollBatches, plane, resultStatuses_of_nil session batch h, hlist, hst]

/-- The statuses are those of the polled results, in the order of the requests. -/
theorem pollBatches_polls (session : String) {batches : List (List String)} (p : MemoryPlane)
    {statuses : Table String ResultStatus} (hn : batches.flatten.Nodup)
    (hs : ∀ id ∈ batches.flatten, id ∉ statuses.keys) :
    Polls batches p (pollBatches plane session batches statuses p).2 ∧
      (pollBatches plane session batches statuses p).1.entries =
        statuses.entries ++ (p.answered batches).map fun id => (id, p.statusOf id) := by
  induction batches generalizing p statuses with
  | nil => exact ⟨polls_nil p, by simp [pollBatches, answered]⟩
  | cons batch r ih =>
    rw [List.flatten_cons] at hn hs
    obtain ⟨hb, hnr, hd⟩ := List.nodup_append.mp hn
    cases hf : p.failures .resultStatuses with
    | cons e rest =>
      have hsr : ∀ id ∈ r.flatten, id ∉ statuses.keys :=
        fun id hid => hs id (List.mem_append_right _ hid)
      obtain ⟨hp, he⟩ := ih (p.refused session batch.length) hnr hsr
      have hst (id : String) : (p.refused session batch.length).statusOf id = p.statusOf id :=
        statusOf_congr rfl
      rw [pollBatches_refused hf]
      refine ⟨polls_cons_failed hf hp, ?_⟩
      rw [he, answered_refused hf]
      simp only [hst]
    | nil =>
      have hans := resultStatuses_of_nil session batch hf
      have hkeys : (batch.map fun id => (id, p.statusOf id)).map Prod.fst = batch := by
        simp [Function.comp_def]
      have hent : (statuses.insertAll (batch.map fun id => (id, p.statusOf id))).entries =
          statuses.entries ++ batch.map fun id => (id, p.statusOf id) := by
        apply Table.entries_insertAll
        · rw [hkeys]; exact hb
        · rw [hkeys]; exact fun id hid => hs id (List.mem_append_left _ hid)
      have hsr : ∀ id ∈ r.flatten,
          id ∉ (statuses.insertAll (batch.map fun id => (id, p.statusOf id))).keys := by
        intro id hid
        rw [Table.keys, hent, List.map_append, hkeys, List.mem_append, not_or]
        exact ⟨hs id (List.mem_append_right _ hid), fun hib => hd id hib id hid rfl⟩
      obtain ⟨hp, he⟩ := ih (resultStatuses session batch p).2 hnr hsr
      rw [pollBatches_answered hf hb]
      refine ⟨polls_cons_answered hf hn hp, ?_⟩
      have hf1 : (resultStatuses session batch p).2.failures .resultStatuses = [] :=
        (undisturbed_resultStatuses session batch p).failures_nil hf
      rw [he, hent, answered_of_nil hf1, answered_cons_of_nil hf, List.map_append, List.append_assoc]
      refine congrArg _ (congrArg _ (List.map_congr_left fun id hid => ?_))
      have hnb : id ∉ batch := fun hib => hd id hib id hid rfl
      rw [hans, statusOf_congr (p := p)]
      exact get?_pollResults_of_not_mem hnb _

end MemoryPlane
end TaskGrid
