import TaskGrid.Proofs.Session.Remaining

/-! What any number of rounds leaves behind when no request fails, in closed form: who was polled how often
and in how many requests, who is still tracked, and whether the wait has stopped. -/
namespace TaskGrid

/-- How many requests it takes to ask for results, so many at a time. -/
def requestCount (size count : Nat) : Nat := (count + size - 1) / size

namespace StoredResult
variable {r : StoredResult}

theorem countP_lasts_succ (r : StoredResult) (n : Nat) :
    (List.range (n + 1)).countP r.lasts = 1 + (List.range n).countP fun k => r.lasts (k + 1) := by
  rw [List.range_succ_eq_map, List.countP_cons_of_pos r.lasts_zero, List.countP_map, Nat.add_comm]
  rfl

theorem countP_lasts_of_not {n : Nat} (h : ¬ r.lasts 1) :
    (List.range n).countP (fun k => r.lasts (k + 1)) = 0 := by
  rw [List.countP_eq_zero]
  intro k _
  exact not_lasts_succ h k

end StoredResult

namespace Session
open MemoryPlane

variable {behavior : WaitBehavior} {options : WaitOptions} {waiter : Waiter} {s : Session}
  {p : MemoryPlane}

/-- What `n` rounds leave behind. -/
structure Waited (behavior : WaitBehavior) (n : Nat) (waiter : Waiter) (s : Session) (p : MemoryPlane)
    (r : WaitResult MemoryPlane) : Prop where
  stopped : r.stopped.isSome ↔ 1 ≤ n ∧ Stops behavior p (s.awaitedEntries waiter) n
  entries : r.session.tracker.byResult.entries = s.tracker.byResult.entries.filter fun e =>
    decide (e ∉ s.awaitedEntries waiter) || (p.result e.1).lasts n
  results : ∀ id, r.plane.result id =
    if id ∈ s.awaited waiter then
      (p.result id).polled ((List.range n).countP (p.result id).lasts)
    else p.result id
  requests : r.plane.statusBatchSizes.length = p.statusBatchSizes.length +
    ((List.range n).map fun k => requestCount s.waitBatchSize
      ((s.awaitedEntries waiter).countP fun e => (p.result e.1).lasts k)).sum

theorem countP_lasts_zero (p : MemoryPlane) (l : List (String × Tracked)) :
    l.countP (fun e => (p.result e.1).lasts 0) = l.length := by
  rw [List.countP_eq_length]
  exact fun e _ => StoredResult.lasts_zero _

theorem waited_zero (claims : List Tracker.Claim) (deliveries : List Delivery) (w : Waiter) :
    Waited behavior 0 waiter s p ⟨claims, deliveries, none, w, s, p⟩ where
  stopped := by simp
  entries := by
    symm
    apply List.filter_eq_self.mpr
    intro e _
    rw [StoredResult.lasts_zero, Bool.or_true]
  results id := by
    split
    · rfl
    · rfl
  requests := by simp

theorem length_batches (visit : Visit) (hw : s.Awaits waiter) :
    (s.batches visit waiter).length =
      requestCount s.waitBatchSize (s.awaitedEntries waiter).length := by
  have hmax : max s.waitBatchSize 1 = s.waitBatchSize := Nat.max_eq_left s.wait_pos
  rw [batches, length_chunks, hmax, (visit.perm _).length_eq, hw.length_awaitedEntries]
  rfl

variable (behavior options)

theorem waited_round (visit : Visit) (hs : s.Anchored p) (hw : s.Awaits waiter)
    (hst : p.failures .resultStatuses = []) (hd : p.failures .downloadResult = [])
    (ht : options.timeout = none) (hany : behavior.any → waiter.resolved = 0) :
    Waited behavior 1 waiter s p (round plane behavior options visit waiter s p) := by
  by_cases hne : s.awaited waiter = []
  · have hnil : s.awaitedEntries waiter = [] := by
      rw [← List.length_eq_zero_iff, hw.length_awaitedEntries, hne]
      rfl
    have hpos := s.wait_pos
    rw [round_of_nil plane behavior options visit p hne]
    constructor
    · simp [hnil, Stops]
    · simp only [hnil, List.not_mem_nil, not_false_eq_true, decide_true, Bool.true_or]
      exact (List.filter_eq_self.mpr fun _ _ => rfl).symm
    · simp [hne]
    · simp only [List.range_one, List.map_cons, List.map_nil, hnil, List.countP_nil, requestCount,
        List.sum_cons, List.sum_nil, Nat.zero_add, Nat.add_zero]
      rw [Nat.div_eq_of_lt (by omega), Nat.add_zero]
  · obtain ⟨h, hask⟩ := round_rounded behavior options visit hs hw hne
    have hall (id : String) : id ∈ p.answered (s.batches visit waiter) ↔ id ∈ s.awaited waiter :=
      mem_answered_iff visit hst id
    constructor
    case stopped =>
      rw [h.isSome_stopped_iff hs hw hall hd ht hany]
      simp
    case entries =>
      rw [h.entries]
      apply List.filter_congr
      intro e he
      by_cases ha : e ∈ s.awaitedEntries waiter
      · rw [decide_not_mem_due hs hall ha, decide_eq_false (not_not_intro ha), Bool.false_or]
      · have hn : e.1 ∉ (p.answered (s.batches visit waiter)).filter p.due := by
          intro hm
          have hid := (hall _).mp (List.mem_filter.mp hm).1
          exact ha (mem_awaitedEntries.mpr ⟨Table.get?_eq_some_iff.mpr he, hid⟩)
        simp only [decide_eq_true hn, decide_eq_true ha, Bool.true_or]
    case results =>
      intro id
      rw [h.results]
      by_cases hid : id ∈ s.awaited waiter
      · obtain ⟨t, hm⟩ := hw.mem_awaited_iff.mp hid
        have ho := hs.owner (mem_awaitedEntries.mp hm).1
        rw [if_pos ((hall id).mpr hid), if_pos hid, StoredResult.poll_of_owner ho,
          StoredResult.countP_lasts_succ]
        rfl
      · rw [if_neg (mt (hall id).mp hid), if_neg hid]
    case requests =>
      rw [hask.sizes, List.length_append, List.length_map, length_batches visit hw]
      simp [countP_lasts_zero]

variable {behavior options}

/-- What is awaited after a round that did not stop: what lasts. -/
structure GoesOn (time : Nat) (waiter : Waiter) (s : Session) (p : MemoryPlane)
    (r : WaitResult MemoryPlane) : Prop where
  entries : r.session.awaitedEntries (r.waiter.paused time) =
    (s.awaitedEntries waiter).filter fun e => (p.result e.1).lasts 1
  size : r.session.waitBatchSize = s.waitBatchSize
  awaits : r.session.Awaits (r.waiter.paused time)
  results : ∀ e ∈ s.awaitedEntries waiter, r.plane.result e.1 = (p.result e.1).polled 1
  resolved : (∀ e ∈ s.awaitedEntries waiter, (p.result e.1).lasts 1) →
    r.waiter.resolved = waiter.resolved

theorem GoesOn.mem_entries {time : Nat} {r : WaitResult MemoryPlane} (h : GoesOn time waiter s p r)
    (e : String × Tracked) : e ∈ r.session.awaitedEntries (r.waiter.paused time) ↔
      e ∈ s.awaitedEntries waiter ∧ (p.result e.1).lasts 1 := by
  rw [h.entries, List.mem_filter]

theorem GoesOn.lasts_eq {time : Nat} {r : WaitResult MemoryPlane} (h : GoesOn time waiter s p r)
    {e : String × Tracked} (he : e ∈ s.awaitedEntries waiter) (hl : (p.result e.1).lasts 1)
    (k : Nat) : (r.plane.result e.1).lasts k = (p.result e.1).lasts (k + 1) := by
  rw [h.results e he, StoredResult.lasts_polled hl]

theorem GoesOn.mem_awaited {time : Nat} {r : WaitResult MemoryPlane} (h : GoesOn time waiter s p r)
    (hw : s.Awaits waiter) (id : String) : id ∈ r.session.awaited (r.waiter.paused time) ↔
      id ∈ s.awaited waiter ∧ (p.result id).lasts 1 := by
  rw [h.awaits.mem_awaited_iff, hw.mem_awaited_iff]
  simp only [h.mem_entries, exists_and_right]

/-- So many results last `k` rounds more as lasted `k + 1` before. -/
theorem GoesOn.countP_lasts {time : Nat} {r : WaitResult MemoryPlane} (h : GoesOn time waiter s p r)
    (k : Nat) :
    ((r.session.awaitedEntries (r.waiter.paused time)).countP fun e => (r.plane.result e.1).lasts k) =
      (s.awaitedEntries waiter).countP fun e => (p.result e.1).lasts (k + 1) := by
  rw [h.entries, List.countP_filter]
  apply List.countP_congr
  intro e he
  by_cases hl : (p.result e.1).lasts 1
  · simp [hl, h.lasts_eq he hl]
  · have hn := Bool.eq_false_iff.mpr (StoredResult.not_lasts_succ hl k)
    simp [hl, hn]

theorem goesOn_round (visit : Visit) (hs : s.Anchored p) (hw : s.Awaits waiter)
    (hst : p.failures .resultStatuses = []) (hne : s.awaited waiter ≠ []) (time : Nat) :
    GoesOn time waiter s p (round plane behavior options visit waiter s p) := by
  obtain ⟨h, -⟩ := round_rounded behavior options visit hs hw hne
  have hall (id : String) : id ∈ p.answered (s.batches visit waiter) ↔ id ∈ s.awaited waiter :=
    mem_answered_iff visit hst id
  obtain ⟨l, hl⟩ := (hands_round plane behavior options visit waiter s p).session
  constructor
  case entries =>
    refine Eq.trans h.awaitedEntries_eq (List.filter_congr fun e he => ?_)
    exact decide_not_mem_due hs hall he
  case size => rw [hl]
  case awaits => exact (h.awaits hw).paused time
  case results =>
    intro e he
    obtain ⟨hg, hm⟩ := mem_awaitedEntries.mp he
    rw [h.results, if_pos ((hall _).mpr hm), StoredResult.poll_of_owner (hs.owner hg)]
  case resolved =>
    intro hlast
    have hnil : (round plane behavior options visit waiter s p).claims = [] := by
      rw [List.eq_nil_iff_forall_not_mem]
      intro c hc
      have hm := (h.mem_claimed c.result).mp ⟨c, hc, rfl⟩
      obtain ⟨t, ht⟩ := hw.mem_awaited_iff.mp ((hall _).mp (List.mem_filter.mp hm).1)
      exact (mem_due_iff hs hall ht).mp hm (hlast _ ht)
    rw [h.waiter, hnil]
    rfl

/-- A round that goes on, and then `n` more. -/
theorem Waited.succ {n time : Nat} {r r' : WaitResult MemoryPlane} (hw : s.Awaits waiter)
    (h : Waited behavior 1 waiter s p r) (hg : GoesOn time waiter s p r)
    (hgo : ¬ Stops behavior p (s.awaitedEntries waiter) 1) (hf : r.plane.fails = p.fails)
    (h' : Waited behavior n (r.waiter.paused time) r.session r.plane r')
    (claims : List Tracker.Claim) (deliveries : List Delivery) :
    Waited behavior (n + 1) waiter s p { r' with claims, deliveries } where
  stopped := by
    refine h'.stopped.trans ?_
    rw [stops_succ hg.mem_entries hg.results hf hgo]
    constructor
    · exact fun hs => ⟨by omega, hs.2⟩
    · rintro ⟨-, hs⟩
      refine ⟨Nat.one_le_iff_ne_zero.mpr fun h0 => ?_, hs⟩
      subst h0
      exact hgo hs
  entries := by
    refine h'.entries.trans ?_
    rw [h.entries, List.filter_filter]
    apply List.filter_congr
    intro e _
    have hm := hg.mem_entries e
    by_cases he : e ∈ s.awaitedEntries waiter
    · by_cases hl : (p.result e.1).lasts 1
      · simp [hm, he, hl, hg.lasts_eq he hl]
      · have hn := Bool.eq_false_iff.mpr (StoredResult.not_lasts_succ hl n)
        simp [he, hl, hn]
    · simp [hm, he]
  results id := by
    refine (h'.results id).trans ?_
    have hmem := hg.mem_awaited hw id
    by_cases hid : id ∈ s.awaited waiter
    · obtain ⟨t, ht⟩ := hw.mem_awaited_iff.mp hid
      have hr : r.plane.result id = (p.result id).polled 1 := hg.results _ ht
      rw [if_pos hid, StoredResult.countP_lasts_succ, hr]
      by_cases hl : (p.result id).lasts 1
      · have hfun : ((p.result id).polled 1).lasts = fun k => (p.result id).lasts (k + 1) :=
          funext fun k => StoredResult.lasts_polled hl
        rw [if_pos (hmem.mpr ⟨hid, hl⟩), hfun, StoredResult.polled_polled]
      · rw [if_neg fun hh => hl (hmem.mp hh).2, StoredResult.countP_lasts_of_not hl]
    · rw [if_neg fun hh => hid (hmem.mp hh).1, if_neg hid, h.results, if_neg hid]
  requests := by
    refine h'.requests.trans ?_
    have hone := h.requests
    simp only [List.range_one, List.map_cons, List.map_nil, List.sum_cons, List.sum_nil,
      Nat.add_zero] at hone
    rw [hone, List.range_succ_eq_map]
    simp only [hg.countP_lasts, hg.size, List.map_cons, List.map_map, List.sum_cons, Function.comp_def,
      Nat.succ_eq_add_one, Nat.add_assoc]

variable (behavior options)

/-- Any number of rounds up to the one that stops. -/
theorem rounds_waited (n : Nat) (visits : Nat → Visit) (hs : s.Anchored p) (hw : s.Awaits waiter)
    (hst : p.failures .resultStatuses = []) (hd : p.failures .downloadResult = [])
    (ht : options.timeout = none) (hany : behavior.any → waiter.resolved = 0)
    (hgo : ∀ k, 1 ≤ k → k < n → ¬ Stops behavior p (s.awaitedEntries waiter) k) :
    Waited behavior n waiter s p (rounds plane behavior options n visits waiter s p) := by
  induction n generalizing visits waiter s p with
  | zero => exact waited_zero _ _ _
  | succ n ih =>
    have h := waited_round behavior options (visits 0) hs hw hst hd ht hany
    cases hstop : (round plane behavior options (visits 0) waiter s p).stopped with
    | some reason =>
      have hs1 := (h.stopped.mp (by rw [hstop]; rfl)).2
      have hn : n = 0 := by
        rcases Nat.eq_zero_or_pos n with h0 | hpos
        · exact h0
        · exact absurd hs1 (hgo 1 (Nat.le_refl 1) (by omega))
      subst hn
      rw [rounds_of_stopped plane behavior options hstop]
      exact h
    | none =>
      have hno : ¬ Stops behavior p (s.awaitedEntries waiter) 1 := by
        intro hs1
        have := h.stopped.mpr ⟨Nat.le_refl 1, hs1⟩
        rw [hstop] at this
        cases this
      have hne := awaited_ne_nil_of_going plane behavior options hstop
      have hu : Undisturbed p (round plane behavior options (visits 0) waiter s p).plane :=
        keeps_undisturbed.round (visits 0) waiter s p
      have hg : GoesOn options.polling waiter s p
          (round plane behavior options (visits 0) waiter s p) :=
        goesOn_round (visits 0) hs hw hst hne options.polling
      rw [rounds_of_going plane behavior options hstop]
      refine h.succ hw hg hno hu.fails (ih _ (anchored_round behavior options (visits 0) waiter hs)
        hg.awaits (hu.failures_nil hst) (hu.failures_nil hd) ?_ ?_) _ _
      · intro ha
        simp only [Stops, not_or, not_and, not_exists] at hno
        refine (hg.resolved fun e he => ?_).trans (hany ha)
        exact Decidable.not_not.mp (hno.2.1 ha e he)
      · intro k hk hkn
        rw [stops_succ hg.mem_entries hg.results hu.fails hno]
        exact hgo (k + 1) (by omega) (by omega)

end Session
end TaskGrid
