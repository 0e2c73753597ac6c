import TaskGrid.Proofs.Session.Remaining

/-! How a wait gets on when requests fail. The results of a request that fails are left as they are; of the
others those that have met their fate are claimed. A round thus uses up a failure or shortens what is left. -/
namespace TaskGrid
namespace Session
open MemoryPlane

section
variable {σ : Type} (plane : ControlPlane σ)

/-- Requests for the statuses of batches, each with whether it is answered. -/
def requests (session : String) : List (List String) → σ → List (List String × Bool)
  | [], _ => []
  | batch :: r, w =>
    match plane.resultStatuses session batch w with
    | (.ok _, w) => (batch, true) :: requests session r w
    | (.error _, w) => (batch, false) :: requests session r w

theorem map_fst_requests (session : String) (batches : List (List String)) (w : σ) :
    (requests plane session batches w).map Prod.fst = batches := by
  induction batches generalizing w with
  | nil => rfl
  | cons batch r ih =>
    simp only [requests]
    split
    · rw [List.map_cons, ih]
    · rw [List.map_cons, ih]

end

variable {session : String} {p : MemoryPlane}

/-- The scripted failures meet the first requests. -/
theorem requests_eq (session : String) (batches : List (List String)) (p : MemoryPlane) :
    requests plane session batches p =
      (batches.take (p.failures .resultStatuses).length).map (fun batch => (batch, false)) ++
        (batches.drop (p.failures .resultStatuses).length).map fun batch => (batch, true) := by
  induction batches generalizing p with
  | nil => simp [requests]
  | cons batch r ih =>
    cases h : p.failures .resultStatuses with
    | nil =>
      have hnil : (resultStatuses session batch p).2.failures .resultStatuses = [] :=
        (undisturbed_resultStatuses session batch p).failures_nil h
      have hrec : requests plane session (batch :: r) p =
          (batch, true) :: requests plane session r (resultStatuses session batch p).2 := by
        simp only [requests, plane, resultStatuses_of_nil session batch h]
      rw [hrec, ih, hnil]
      simp
    | cons e rest =>
      have hrest : (p.refused session batch.length).failures .resultStatuses = rest := by
        rw [refused, failures_failed_self, h, List.tail_cons]
      have hrec : requests plane session (batch :: r) p =
          (batch, false) :: requests plane session r (p.refused session batch.length) := by
        simp only [requests, plane, resultStatuses_of_cons session batch h]
      rw [hrec, ih, hrest]
      simp

/-- A request is answered just if its results are. -/
theorem mem_answered_of_requests {batches : List (List String)} (hn : batches.flatten.Nodup)
    {batch : List String} {ok : Bool} (hb : (batch, ok) ∈ requests plane session batches p)
    {id : String} (hid : id ∈ batch) : id ∈ p.answered batches ↔ ok = true := by
  rw [requests_eq, List.mem_append] at hb
  have hmem {l : List (List String)} (h : batch ∈ l) : id ∈ l.flatten :=
    List.mem_flatten_of_mem h hid
  rw [flatten_eq_append_answered p batches] at hn
  rcases hb with hb | hb
  · obtain ⟨b, hm, e⟩ := List.mem_map.mp hb
    cases e
    constructor
    · exact fun ha => absurd rfl ((List.nodup_append.mp hn).2.2 id (hmem hm) id ha)
    · intro h
      cases h
  · obtain ⟨b, hm, e⟩ := List.mem_map.mp hb
    cases e
    exact ⟨fun _ => rfl, fun _ => hmem hm⟩

/-! ### What a round reports -/

/-- Claims are reported unless the plane does not know their results. -/
theorem delivered_eq {claims : List Tracker.Claim} (hm : ∀ c ∈ claims, p.Met c) :
    claims.filterMap Tracker.Claim.delivered? =
      ((claims.filterMap Tracker.Claim.held?).filter fun e =>
        decide ((p.result e.1).settled ≠ .notFound)).map Prod.snd := by
  induction claims with
  | nil => rfl
  | cons c r ih =>
    obtain ⟨hc, hr⟩ := List.forall_mem_cons.mp hm
    obtain ⟨t, ht, -⟩ := hc.tracked
    have hheld : c.held? = some (c.result, t) := by rw [Tracker.Claim.held?, ht]; rfl
    have hiff : c.status = .notFound ↔ (p.result c.result).settled = .notFound := by
      rw [hc.status]
      cases (p.result c.result).settled <;> simp [Fate.status]
    rw [List.filterMap_cons_some hheld]
    by_cases hn : c.status = .notFound
    · have hdel : c.delivered? = none := if_pos hn
      rw [List.filterMap_cons_none hdel, ih hr, List.filter_cons_of_neg (by simp [hiff.mp hn])]
    · have hdel : c.delivered? = some t := (if_neg hn).trans ht
      rw [List.filterMap_cons_some hdel, ih hr, List.filter_cons_of_pos (by simp [mt hiff.mpr hn]),
        List.map_cons]

variable {behavior : WaitBehavior} {options : WaitOptions} {waiter : Waiter} {s : Session}
  {answered : List String} {r : WaitResult MemoryPlane}

/-- A tracked result leaves the tracker if it is claimed, and its task is reported to its handler then, once;
otherwise nothing happens to it. -/
theorem Rounded.outcome (h : Rounded behavior options answered waiter s p r) (hh : Hands s r)
    (hs : s.Anchored p) {id : String} {t : Tracked} (hg : s.tracker.byResult.get? id = some t) :
    r.session.tracker.byResult.get? id =
        (if id ∈ answered.filter p.due then none else some t) ∧
      (r.deliveries.filter fun d => d.task = t.task).map Delivery.tracked =
        if id ∈ answered.filter p.due ∧ (p.result id).settled ≠ .notFound then [t] else [] := by
  have hafter : id ∈ r.session.tracker.results ↔ id ∉ answered.filter p.due := by
    rw [Tracker.results, Table.mem_keys_iff]
    constructor
    · rintro ⟨e, he⟩
      exact (h.get?_eq.mp he).2
    · exact fun hn => ⟨t, h.get?_eq.mpr ⟨hg, hn⟩⟩
  constructor
  · split
    · next hc => exact Table.get?_eq_none_iff.mpr fun hr => hafter.mp hr hc
    · next hc => exact h.get?_eq.mpr ⟨hg, hc⟩
  · have hfilter : (r.deliveries.filter fun d => d.task = t.task).map Delivery.tracked =
        (r.deliveries.map Delivery.tracked).filter fun e => e.task = t.task := by
      rw [List.filter_map]
      rfl
    have htask : ((r.claims.filterMap Tracker.Claim.held?).filter fun e => e.2.task = t.task) =
        (r.claims.filterMap Tracker.Claim.held?).filter (·.1 = id) := by
      apply List.filter_congr
      intro e he
      have hm := hh.entries.mem_iff.mpr (List.mem_append_left _ he)
      have hge : s.tracker.byResult.get? e.1 = some e.2 := Table.get?_eq_some_iff.mpr hm
      rw [decide_eq_decide]
      constructor
      · exact fun ht => hs.synced.result_unique hge hg ht
      · intro hid
        rw [hid, hg] at hge
        rw [Option.some.inj hge]
    have hswap (q : String × Tracked → Bool) :
        (((r.claims.filterMap Tracker.Claim.held?).filter q).map Prod.snd).filter
          (fun e => e.task = t.task) =
        (((r.claims.filterMap Tracker.Claim.held?).filter fun e => e.2.task = t.task).filter q).map
          Prod.snd := by
      rw [List.filter_map, List.filter_filter, List.filter_filter]
      simp only [Function.comp_def, Bool.and_comm]
    rw [hfilter, hh.deliveries, delivered_eq h.met, hswap, htask, hh.filter_held, hg]
    by_cases hc : id ∈ answered.filter p.due
    · rw [if_neg fun hr => hafter.mp hr hc]
      by_cases hn : (p.result id).settled = .notFound
      · simp [hn]
      · simp only [Option.map_some, Option.toList_some, hn, ne_eq, not_false_eq_true, decide_true,
          List.filter_cons_of_pos, List.filter_nil, List.map_cons, List.map_nil, hc, and_self, if_true]
    · rw [if_pos (hafter.mpr hc), if_neg fun hr => hc hr.1]
      rfl

variable (behavior options) in
/-- Of a request that fails the results stay tracked and are not reported; of one that is answered those
that have met their fate are claimed and reported. -/
theorem round_requested {visit : Visit} (hs : s.Anchored p) (hw : s.Awaits waiter)
    {batch : List String} {ok : Bool}
    (hb : (batch, ok) ∈ requests plane s.id (s.batches visit waiter) p) {id : String}
    (hid : id ∈ batch) :
    let r := round plane behavior options visit waiter s p
    let final := ok = true ∧ (p.result id).remaining = 0
    ∃ t, s.tracker.byResult.get? id = some t ∧
      r.session.tracker.byResult.get? id = (if final then none else some t) ∧
      (r.deliveries.filter fun d => d.task = t.task).map Delivery.tracked =
        if final ∧ (p.result id).settled ≠ .notFound then [t] else [] := by
  intro r final
  have hbatch : batch ∈ s.batches visit waiter := by
    rw [← map_fst_requests plane s.id (s.batches visit waiter) p]
    exact List.mem_map_of_mem hb
  have hm : id ∈ s.awaited waiter := by
    rw [← visit.mem_arrange, ← flatten_batches]
    exact List.mem_flatten_of_mem hbatch hid
  have hn : (s.batches visit waiter).flatten.Nodup := by
    rw [flatten_batches]
    exact (visit.perm _).nodup_iff.mpr hw.nodup
  obtain ⟨t, hg⟩ := hw.tracked hm
  obtain ⟨h, -⟩ := round_rounded behavior options visit hs hw (List.ne_nil_of_mem hm)
  have hiff : id ∈ (p.answered (s.batches visit waiter)).filter p.due ↔ final := by
    have he : (id, t) ∈ s.awaitedEntries waiter := mem_awaitedEntries.mpr ⟨hg, hm⟩
    have hdue : p.due id = !(p.result id).lasts 1 := hs.due_eq he
    rw [List.mem_filter, mem_answered_of_requests hn hb hid, hdue, Bool.not_eq_true',
      ← Bool.not_eq_true, StoredResult.not_lasts_iff, Nat.cast_one, Order.lt_one_iff]
  have hout := h.outcome (hands_round plane behavior options visit waiter s p) hs hg
  simp only [hiff] at hout
  exact ⟨t, hg, hout⟩

/-! ### What rounds leave to wait for -/

/-- What holds of a wait after any number of rounds. -/
structure Waits (behavior : WaitBehavior) (options : WaitOptions) (waiter : Waiter) (s : Session)
    (p : MemoryPlane) (r : WaitResult MemoryPlane) : Prop where
  anchored : r.session.Anchored r.plane
  awaits : r.session.Awaits r.waiter
  mem_awaited : ∀ id, id ∈ r.session.awaited r.waiter ↔
    id ∈ s.awaited waiter ∧ id ∈ r.session.tracker.results
  undisturbed : Undisturbed p r.plane
  resolved : behavior = {} → options.timeout = none → r.stopped.isSome →
    r.session.awaited r.waiter = []

theorem Rounded.mem_results (h : Rounded behavior options answered waiter s p r) (id : String) :
    id ∈ r.session.tracker.results ↔
      id ∈ s.tracker.results ∧ id ∉ answered.filter p.due := by
  simp only [Tracker.results, Table.mem_keys_iff, h.get?_eq, exists_and_right]

variable (behavior options) in
theorem waits_round (visit : Visit) (hs : s.Anchored p) (hw : s.Awaits waiter) :
    Waits behavior options waiter s p (round plane behavior options visit waiter s p) := by
  by_cases hne : s.awaited waiter = []
  · rw [round_of_nil plane behavior options visit p hne]
    exact ⟨hs, hw, by simp [hne], .refl p, fun _ _ _ => hne⟩
  · obtain ⟨h, -⟩ := round_rounded behavior options visit hs hw hne
    constructor
    case anchored => exact anchored_round behavior options visit waiter hs
    case awaits => exact h.awaits hw
    case mem_awaited =>
      intro id
      rw [h.awaited_eq, List.mem_filter, decide_eq_true_iff, h.mem_results]
      constructor
      · rintro ⟨hm, hn⟩
        obtain ⟨e, he⟩ := hw.tracked hm
        exact ⟨hm, Table.mem_keys_iff.mpr ⟨e, he⟩, hn⟩
      · exact fun hm => ⟨hm.1, hm.2.2⟩
    case undisturbed => exact keeps_undisturbed.round visit waiter s p
    case resolved =>
      intro hall ht hstop
      subst hall
      obtain ⟨failed, hv⟩ := h.stopped
      rw [hv, isSome_verdict ht] at hstop
      simpa using hstop

/-- One more round. -/
theorem Waits.proceed (h : Waits behavior options waiter s p r) (visit : Visit) :
    Waits behavior options waiter s p (proceed plane behavior options visit r) := by
  unfold Session.proceed
  split
  · exact h
  · have hr := waits_round behavior options visit h.anchored h.awaits
    have hh := hands_round plane behavior options visit r.waiter r.session r.plane
    generalize round plane behavior options visit r.waiter r.session r.plane = r' at hr hh
    have hawaited : r'.session.awaited
        (if r'.stopped.isSome then r'.waiter else r'.waiter.paused options.polling) =
          r'.session.awaited r'.waiter := by
      split <;> rfl
    constructor
    case anchored => exact hr.anchored
    case awaits =>
      simp only
      split
      · exact hr.awaits
      · exact hr.awaits.paused options.polling
    case mem_awaited =>
      intro id
      simp only [hawaited, hr.mem_awaited, h.mem_awaited]
      constructor
      · exact fun hm => ⟨hm.1.1, hm.2⟩
      · exact fun hm => ⟨⟨hm.1, hh.mem_results hm.2⟩, hm.2⟩
    case undisturbed => exact h.undisturbed.trans hr.undisturbed
    case resolved =>
      intro hall ht hstop
      simp only [hawaited]
      exact hr.resolved hall ht hstop

variable (behavior options) in
theorem rounds_waits (n : Nat) (visits : Nat → Visit) (hs : s.Anchored p) (hw : s.Awaits waiter) :
    Waits behavior options waiter s p (rounds plane behavior options n visits waiter s p) := by
  induction n with
  | zero =>
    refine ⟨hs, hw, fun id => ?_, .refl p, fun _ _ hstop => by cases hstop⟩
    constructor
    · intro hm
      obtain ⟨e, he⟩ := hw.tracked hm
      exact ⟨hm, Table.mem_keys_iff.mpr ⟨e, he⟩⟩
    · exact fun hm => hm.1
  | succ n ih =>
    rw [rounds_succ]
    exact ih.proceed (visits n)

/-- Whatever is still awaited is asked for, once. -/
theorem Waits.batches_perm (h : Waits behavior options waiter s p r) (hw : s.Awaits waiter)
    (visit : Visit) : (r.session.batches visit r.waiter).flatten.Perm
      (((s.awaitedEntries waiter).map Prod.fst).filter fun id =>
        decide (id ∈ r.session.tracker.results)) := by
  have hn : ((s.awaitedEntries waiter).map Prod.fst).Nodup := hw.map_fst_perm.nodup_iff.mpr hw.nodup
  have hawaited : (r.session.awaited r.waiter).Perm
      (((s.awaitedEntries waiter).map Prod.fst).filter fun id =>
        decide (id ∈ r.session.tracker.results)) := by
    rw [List.perm_ext_iff_of_nodup h.awaits.nodup (hn.sublist List.filter_sublist)]
    intro id
    rw [h.mem_awaited, List.mem_filter, decide_eq_true_iff, hw.map_fst_perm.mem_iff]
  rw [flatten_batches]
  exact (visit.perm _).trans hawaited

/-! ### Every wait comes to an end -/

/-- After a round that goes on, either failures were used up or every awaited result lasts one poll less. -/
theorem Rounded.not_lasts {m : Nat} (h : Rounded behavior options answered waiter s p r)
    (hs : s.Anchored p) (hlast : ∀ e ∈ s.awaitedEntries waiter, ¬ (p.result e.1).lasts (m + 1))
    {e : String × Tracked} (he : e ∈ r.session.awaitedEntries r.waiter) :
    ¬ (r.plane.result e.1).lasts (m + 1) ∧
      (e.1 ∈ answered → ¬ (r.plane.result e.1).lasts m) := by
  rw [h.awaitedEntries_eq, List.mem_filter, decide_eq_true_iff] at he
  obtain ⟨hm, hn⟩ := he
  have ho := hs.owner (mem_awaitedEntries.mp hm).1
  rw [h.results]
  by_cases ha : e.1 ∈ answered
  · have hl : (p.result e.1).lasts 1 := by
      have hdue := hs.due_eq hm
      by_contra hl
      exact hn (List.mem_filter.mpr ⟨ha, by rw [hdue]; simpa using hl⟩)
    rw [if_pos ha, StoredResult.poll_of_owner ho, StoredResult.lasts_polled hl,
      StoredResult.lasts_polled hl]
    exact ⟨mt (StoredResult.lasts_mono (Nat.le_succ _)) (hlast e hm), fun _ => hlast e hm⟩
  · rw [if_neg ha]
    exact ⟨hlast e hm, fun h => absurd h ha⟩

theorem Rounded.isSome_stopped (h : Rounded behavior options answered waiter s p r)
    (ht : options.timeout = none) (hnil : r.session.awaited r.waiter = []) : r.stopped.isSome := by
  obtain ⟨failed, hv⟩ := h.stopped
  rw [hv, isSome_verdict ht]
  exact .inl hnil

theorem batches_ne_nil {visit : Visit} (hne : s.awaited waiter ≠ []) :
    s.batches visit waiter ≠ [] := by
  intro hnil
  have hflat : (s.batches visit waiter).flatten = [] := by rw [hnil, List.flatten_nil]
  rw [flatten_batches, visit.arrange_eq_nil] at hflat
  exact hne hflat

variable (behavior) in
/-- Of a round that goes on, either failures were used up or everything awaited lasts one poll less. -/
theorem round_shortens {m : Nat} {visit : Visit} (hs : s.Anchored p) (hw : s.Awaits waiter)
    (ht : options.timeout = none)
    (hstop : (round plane behavior options visit waiter s p).stopped = none)
    (hlast : ∀ e ∈ s.awaitedEntries waiter, ¬ (p.result e.1).lasts (m + 1)) :
    let r := round plane behavior options visit waiter s p
    ∃ m', (∀ e ∈ r.session.awaitedEntries r.waiter, ¬ (r.plane.result e.1).lasts (m' + 1)) ∧
      m' + (r.plane.failures .resultStatuses).length < m + (p.failures .resultStatuses).length := by
  intro r
  have hne := awaited_ne_nil_of_going plane behavior options hstop
  obtain ⟨h, hask⟩ := round_rounded behavior options visit hs hw hne
  have hbatches : s.batches visit waiter ≠ [] := batches_ne_nil hne
  have hpos := List.length_pos_iff.mpr hbatches
  have hlen := congrArg List.length hask.failures
  rw [List.length_drop] at hlen
  have hshort {e : String × Tracked} (he : e ∈ r.session.awaitedEntries r.waiter) :=
    h.not_lasts hs hlast he
  by_cases hf : p.failures .resultStatuses = []
  · have hpolled {e : String × Tracked} (he : e ∈ r.session.awaitedEntries r.waiter) :
        ¬ (r.plane.result e.1).lasts m := by
      refine (hshort he).2 ?_
      have hm := (mem_awaitedEntries.mp he).2
      rw [h.awaited_eq] at hm
      exact (mem_answered_iff visit hf e.1).mpr (List.mem_filter.mp hm).1
    cases m with
    | zero =>
      have hnil : r.session.awaitedEntries r.waiter = [] := by
        rw [List.eq_nil_iff_forall_not_mem]
        exact fun e he => hpolled he (StoredResult.lasts_zero _)
      have hawaited : r.session.awaited r.waiter = [] := by
        rw [← List.length_eq_zero_iff, ← (h.awaits hw).length_awaitedEntries, hnil]
        rfl
      have hsome := h.isSome_stopped ht hawaited
      rw [hstop] at hsome
      cases hsome
    | succ m =>
      refine ⟨m, fun e he => hpolled he, ?_⟩
      rw [hlen]
      omega
  · have hfailures := List.length_pos_iff.mpr hf
    refine ⟨m, fun e he => (hshort he).1, ?_⟩
    rw [hlen]
    omega

variable (behavior) in
/-- As many rounds as the longest lasting result needs, and one more for each scripted failure, make a
waiter stop. -/
theorem isSome_stopped_rounds {m : Nat} (n : Nat) (visits : Nat → Visit) (hs : s.Anchored p)
    (hw : s.Awaits waiter) (ht : options.timeout = none)
    (hlast : ∀ e ∈ s.awaitedEntries waiter, ¬ (p.result e.1).lasts (m + 1))
    (hn : m + (p.failures .resultStatuses).length < n) :
    (rounds plane behavior options n visits waiter s p).stopped.isSome := by
  induction n generalizing m visits waiter s p with
  | zero => omega
  | succ n ih =>
    cases hstop : (round plane behavior options (visits 0) waiter s p).stopped with
    | some reason =>
      rw [rounds_of_stopped plane behavior options hstop, hstop]
      rfl
    | none =>
      obtain ⟨m', hlast', hless⟩ := round_shortens behavior hs hw ht hstop hlast
      have hr := waits_round behavior options (visits 0) hs hw
      rw [rounds_of_going plane behavior options hstop]
      exact ih (fun i => visits (i + 1)) hr.anchored (hr.awaits.paused options.polling) hlast'
        (by omega)

end Session
end TaskGrid
