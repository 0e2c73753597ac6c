import TaskGrid.Proofs.Session.Cleanup
import TaskGrid.Proofs.Session.Submission

/-! A session tracks a result only while the control plane has it produced by the task that is tracked.
No call loosens that tie, on the session that makes it or on another one. -/
namespace TaskGrid
namespace Session
open MemoryPlane

/-- What is tracked is what the plane has: each result with the task that is to produce it. -/
structure Anchored (s : Session) (p : MemoryPlane) : Prop where
  synced : s.tracker.Synced
  owner : ∀ {id entry}, s.tracker.byResult.get? id = some entry →
    (p.result id).owner = some entry.task

variable {s s' : Session} {p p' : MemoryPlane}

theorem anchored_of_empty (h : s.tracker = {}) (p : MemoryPlane) : s.Anchored p := by
  constructor
  · rw [h]
    exact Tracker.synced_empty
  · intro id entry he
    rw [h] at he
    cases he

theorem Anchored.grows (hs : s.Anchored p) (h : Grows p p') : s.Anchored p' where
  synced := hs.synced
  owner he := h.owner (hs.owner he)

theorem Anchored.claim (hs : s.Anchored p) {l : List (String × ResultStatus)}
    (h : s' = { s with tracker := (s.tracker.claim l).1 }) : s'.Anchored p := by
  subst h
  exact ⟨hs.synced.claim l, fun he => hs.owner (Tracker.get?_of_get?_claim he)⟩

theorem Anchored.get?_resultId (hs : s.Anchored p) (hp : p.Sound) {k : Nat}
    (hk : p.resultCount < k) : s.tracker.byResult.get? (resultId k) = none := by
  cases hg : s.tracker.byResult.get? (resultId k) with
  | none => rfl
  | some x =>
    obtain ⟨⟨m, hm, hid⟩, -⟩ := hp.counted (hs.owner hg)
    have hkm : k = m := resultId_inj.mp hid
    omega

/-- Tasks with results that nobody had before come after all that was tracked. -/
theorem Anchored.track (hs : s.Anchored p) (hp : p.Sound) (handler : Handler) {taken : List Taken}
    (hd : (taken.map Taken.result).Nodup) (hn : Taken.Numbered p.submitted.length taken)
    (hfresh : ∀ t ∈ taken, ∃ k, p.resultCount < k ∧ t.result = resultId k) :
    (s.track handler (pairsOf taken)).tracker.Synced ∧
      (s.track handler (pairsOf taken)).tracker.byResult.entries =
        s.tracker.byResult.entries ++ entriesOf handler taken := by
  have hres : ((pairsOf taken).map Prod.snd).Nodup := by
    simpa [pairsOf, Function.comp_def] using hd
  have htask : ((pairsOf taken).map Prod.fst).Nodup := by
    simpa [pairsOf, Function.comp_def] using hn.nodup_task
  have hr : ∀ e ∈ pairsOf taken, s.tracker.byResult.get? e.2 = none := by
    intro e he
    obtain ⟨t, ht, rfl⟩ := List.mem_map.mp he
    obtain ⟨k, hk, hid⟩ := hfresh t ht
    show s.tracker.byResult.get? t.result = none
    rw [hid]
    exact hs.get?_resultId hp hk
  have ht : ∀ e ∈ pairsOf taken, ∀ r x, s.tracker.byResult.get? r = some x → x.task ≠ e.1 := by
    intro e he r x hx e'
    obtain ⟨t, ht, rfl⟩ := List.mem_map.mp he
    obtain ⟨-, n, hle, hid⟩ := hp.counted (hs.owner hx)
    obtain ⟨m, hm, -, hid'⟩ := hn.exists_task_eq ht
    have hnm : n = m := taskId_inj.mp (hid.symm.trans (e'.trans hid'))
    omega
  have hk := hs.synced.track handler hres htask hr ht
  simpa [Session.track, entriesOf, pairsOf, Function.comp_def] using hk

/-! ### Submissions -/

section
variable {handler : Handler} {options : TaskOptions} {taken : List Taken}

theorem Takes.owner_eq_none (h : Takes handler options taken s p s' p') (hp : p.Sound) {t : Taken}
    (ht : t ∈ taken) : (p.result t.result).owner = none := by
  cases ho : (p.result t.result).owner with
  | none => rfl
  | some task =>
    obtain ⟨⟨k, hk, hid⟩, -⟩ := hp.counted ho
    obtain ⟨m, hm, -, hid'⟩ := h.fresh t ht
    have : m = k := resultId_inj.mp (hid'.symm.trans hid)
    omega

theorem Takes.owner_eq (h : Takes handler options taken s p s' p') {t : Taken} (ht : t ∈ taken) :
    (p'.result t.result).owner = some t.task := by
  rw [h.stored t ht]
  rfl

theorem Takes.task_eq (h : Takes handler options taken s p s' p') {t : Taken} (ht : t ∈ taken) :
    ∃ n, p.submitted.length < n ∧ n ≤ p'.submitted.length ∧ t.task = taskId n := by
  obtain ⟨n, hn, hle, e⟩ := h.numbered.exists_task_eq ht
  exact ⟨n, hn, h.length_submitted ▸ hle, e⟩

/-- A result that had a task before is not one of those just made. -/
theorem Takes.result_not_mem_of_owner (h : Takes handler options taken s p s' p') (hp : p.Sound)
    {id : String} (ho : (p.result id).owner.isSome) : id ∉ taken.map Taken.result := by
  intro hm
  obtain ⟨t, ht, rfl⟩ := List.mem_map.mp hm
  rw [h.owner_eq_none hp ht] at ho
  cases ho

theorem Takes.grows (h : Takes handler options taken s p s' p') (hp : p.Sound) : Grows p p' where
  count := h.count
  submitted := h.submitted ▸ List.prefix_append _ _
  owner ho := by rw [h.others _ (h.result_not_mem_of_owner hp (Option.isSome_of_eq_some ho)), ho]
  payload ho := by rw [h.others _ (h.result_not_mem_of_owner hp ho)]
  fresh {id task} ho := by
    by_cases hm : id ∈ taken.map Taken.result
    · obtain ⟨t, ht, rfl⟩ := List.mem_map.mp hm
      obtain ⟨k, -, hk, hid⟩ := h.fresh t ht
      rw [h.owner_eq ht] at ho
      cases ho
      exact .inr ⟨⟨k, hk, hid⟩, h.task_eq ht⟩
    · rw [h.others id hm] at ho
      exact .inl ho
  tasks ho := by
    rcases h.tasks _ _ ho with ho | ⟨t, ht, rfl⟩
    · exact .inl ho
    · right
      intro id hid
      rw [List.mem_singleton.mp hid, h.owner_eq ht]
      rfl

theorem Takes.deletes (h : Takes handler options taken s p s' p') (hp : p.Sound) :
    Deletes [] p p' where
  log := by rw [h.deleted, List.append_nil]
  fates {id} ho := by
    have hid : id ∉ taken.map Taken.result := by
      intro hm
      obtain ⟨t, ht, rfl⟩ := List.mem_map.mp hm
      rw [h.owner_eq ht, h.owner_eq_none hp ht] at ho
      cases ho
    rw [h.others id hid]
    simp

/-- A session tracks the tasks that were taken after those it tracked before. -/
theorem Takes.track (h : Takes handler options taken s p s' p') (hp : p.Sound) (hs : s.Anchored p) :
    s'.tracker.Synced ∧ s'.tracker.byResult.entries =
      s.tracker.byResult.entries ++ entriesOf handler taken := by
  rw [h.session]
  exact hs.track hp handler h.distinct h.numbered fun t ht =>
    (h.fresh t ht).imp fun _ hk => ⟨hk.1, hk.2.2⟩

/-- What is tracked was tracked before, or is a task just taken. -/
theorem Takes.get?_cases (h : Takes handler options taken s p s' p') (hp : p.Sound)
    (hs : s.Anchored p) {id : String} {e : Tracked}
    (he : s'.tracker.byResult.get? id = some e) :
    s.tracker.byResult.get? id = some e ∨
      ∃ t ∈ taken, t.result = id ∧ e = ⟨t.task, handler⟩ := by
  rw [Table.get?_eq_some_iff, (h.track hp hs).2, List.mem_append] at he
  rcases he with he | he
  · exact .inl (Table.get?_eq_some_iff.mpr he)
  · obtain ⟨t, ht, e⟩ := List.mem_map.mp he
    cases e
    exact .inr ⟨t, ht, rfl, rfl⟩

theorem Takes.anchored (h : Takes handler options taken s p s' p') (hp : p.Sound)
    (hs : s.Anchored p) : s'.Anchored p' := by
  refine ⟨(h.track hp hs).1, fun {id entry} he => ?_⟩
  rcases h.get?_cases hp hs he with he | ⟨t, ht, rfl, rfl⟩
  · exact (h.grows hp).owner (hs.owner he)
  · exact h.owner_eq ht

end
end Session
end TaskGrid
