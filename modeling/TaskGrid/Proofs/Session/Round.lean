import TaskGrid.Proofs.Plane.Polling
import TaskGrid.Proofs.Session.Custody
import TaskGrid.Proofs.Session.Dispatch

/-! One round of a waiter over a plane in memory, in any order: the results whose requests are answered are
polled once, and those of them that have met their fate leave the tracker, to be delivered. -/
namespace TaskGrid
namespace MemoryPlane

/-- Whether the next poll of a result finds that it has met its fate. -/
def due (p : MemoryPlane) (id : String) : Bool := (p.statusOf id).isTerminal

variable {p p' : MemoryPlane}

theorem status_of_due {id task : String} (ho : (p.result id).owner = some task) (hd : p.due id) :
    p.statusOf id = (p.result id).settled.status := by
  unfold due at hd
  rw [statusOf_of_owner ho] at hd ⊢
  simp only [StoredResult.poll, ho, Option.isNone_some, Bool.false_eq_true, if_false] at hd ⊢
  split at hd
  · cases hd
  · next h =>
    rw [if_neg h]
    rfl

theorem Undisturbed.settled (h : Undisturbed p p') (id : String) :
    (p'.result id).settled = (p.result id).settled := by
  simp only [StoredResult.settled, h.fate]

theorem Undisturbed.delivery? (h : Undisturbed p p') : p'.delivery? = p.delivery? := by
  funext e
  simp only [MemoryPlane.delivery?, h.settled, h.payload]

theorem Undisturbed.fails (h : Undisturbed p p') : p'.fails = p.fails := by
  funext e
  simp only [MemoryPlane.fails, h.delivery?]

theorem Undisturbed.met (h : Undisturbed p p') {c : Tracker.Claim} (hc : p.Met c) : p'.Met c := by
  refine ⟨hc.final, ?_, ?_⟩
  · rw [h.settled]
    exact hc.status
  · rw [h.owner]
    exact hc.tracked

end MemoryPlane

namespace Session
open MemoryPlane

/-- A waiter awaits results that are tracked, each once. -/
structure Awaits (s : Session) (waiter : Waiter) : Prop where
  nodup : (s.awaited waiter).Nodup
  tracked : ∀ {id}, id ∈ s.awaited waiter → ∃ e, s.tracker.byResult.get? id = some e

theorem nodup_eraseDups (l : List String) : l.eraseDups.Nodup := by
  match l with
  | [] => exact List.nodup_nil
  | a :: r =>
    rw [List.eraseDups_cons]
    refine List.nodup_cons.mpr ⟨?_, nodup_eraseDups _⟩
    simp [List.mem_eraseDups]
termination_by l.length
decreasing_by
  have := List.length_filter_le (fun b => !b == a) r
  simp only [List.length_cons]
  omega

theorem awaited_waiter_nil (s : Session) : s.awaited (s.waiter []) = s.tracker.results := rfl

theorem awaited_waiter {tasks : List String} (h : tasks ≠ []) (s : Session) :
    s.awaited (s.waiter tasks) = (tasks.filterMap s.tracker.resultOf?).eraseDups := by
  simp [awaited, waiter, h]

theorem mem_awaited_waiter {s : Session} (h : s.tracker.Synced) {tasks : List String} {id : String} :
    id ∈ s.awaited (s.waiter tasks) ↔
      ∃ e, s.tracker.byResult.get? id = some e ∧ (tasks = [] ∨ e.task ∈ tasks) := by
  by_cases ht : tasks = []
  · subst ht
    rw [awaited_waiter_nil, Tracker.results, Table.mem_keys_iff]
    simp
  · rw [awaited_waiter ht, List.mem_eraseDups, List.mem_filterMap]
    simp only [ht, false_or]
    constructor
    · rintro ⟨task, hm, hr⟩
      obtain ⟨e, he, rfl⟩ := h.tracked hr
      exact ⟨e, he, hm⟩
    · rintro ⟨e, he, hm⟩
      exact ⟨e.task, hm, h.resultOf he⟩

theorem awaits_waiter {s : Session} (h : s.tracker.Synced) (tasks : List String) :
    s.Awaits (s.waiter tasks) where
  nodup := by
    by_cases ht : tasks = []
    · subst ht
      rw [awaited_waiter_nil]
      exact s.tracker.byResult.distinct
    · rw [awaited_waiter ht]
      exact nodup_eraseDups _
  tracked hid := by
    obtain ⟨e, he, -⟩ := (mem_awaited_waiter h).mp hid
    exact ⟨e, he⟩

/-- The batches of a round, and the results of those that are answered. -/
def batches (s : Session) (visit : Visit) (waiter : Waiter) : List (List String) :=
  chunks s.waitBatchSize (visit.arrange (s.awaited waiter))

variable {behavior : WaitBehavior} {options : WaitOptions} {visit : Visit} {waiter : Waiter}
  {s : Session} {p : MemoryPlane}

theorem flatten_batches : (s.batches visit waiter).flatten = visit.arrange (s.awaited waiter) :=
  flatten_chunks _ _

theorem mem_answered_iff (visit : Visit) (hst : p.failures .resultStatuses = []) (id : String) :
    id ∈ p.answered (s.batches visit waiter) ↔ id ∈ s.awaited waiter := by
  rw [answered_of_nil hst, flatten_batches, visit.mem_arrange]

/-- A round over a plane in memory. -/
structure Rounded (behavior : WaitBehavior) (options : WaitOptions) (answered : List String)
    (waiter : Waiter) (s : Session) (p : MemoryPlane) (r : WaitResult MemoryPlane) : Prop where
  results : ∀ id, r.plane.result id =
    if id ∈ answered then (p.result id).poll.1 else p.result id
  claimed : (r.claims.map Tracker.Claim.result).Perm (answered.filter p.due)
  met : ∀ c ∈ r.claims, p.Met c
  held : ∀ c ∈ r.claims, c.tracked = s.tracker.byResult.get? c.result
  entries : r.session.tracker.byResult.entries = s.tracker.byResult.entries.filter fun e =>
    decide (e.1 ∉ answered.filter p.due)
  waiter : r.waiter = settle waiter r.claims
  -- Without failing downloads, every outcome is the one its fate stands for.
  dispatched : p.failures .downloadResult = [] →
    r.deliveries = (r.claims.filterMap Tracker.Claim.held?).filterMap p.delivery? ∧
      r.stopped = r.session.verdict behavior options r.waiter
        ((r.claims.filterMap Tracker.Claim.held?).any p.fails)
  stopped : ∃ failed, r.stopped = r.session.verdict behavior options r.waiter failed
  downloads : p.failures .downloadResult = [] →
    ∀ id, (p.result id).settled = .deleted → r.plane.downloadCount id = p.downloadCount id

/-- What is claimed of results that were polled. -/
theorem claim_polled {answered : List String} {l : List (String × ResultStatus)}
    (ho : ∀ id ∈ answered, ∃ e, s.tracker.byResult.get? id = some e ∧
      (p.result id).owner = some e.task)
    (hn : answered.Nodup) (hl : l.Perm (answered.map fun id => (id, p.statusOf id))) :
    (Tracker.finals l).Perm (answered.filter p.due) ∧
      ∀ c ∈ (s.tracker.claim l).2, p.Met c ∧ c.tracked = s.tracker.byResult.get? c.result := by
  have hkeys : (l.map Prod.fst).Nodup := by
    have hk := hl.map Prod.fst
    rw [List.map_map] at hk
    exact hk.nodup_iff.mpr (by simpa [Function.comp_def] using hn)
  refine ⟨?_, fun c hc => ?_⟩
  · have hf := (hl.filter fun e => e.2.isTerminal).map Prod.fst
    have hdue : p.due = fun id => (p.statusOf id).isTerminal := rfl
    rw [hdue]
    simpa [Tracker.finals, List.filter_map, Function.comp_def] using hf
  · rw [Tracker.claims_eq s.tracker hkeys] at hc
    obtain ⟨e, he, rfl⟩ := List.mem_map.mp hc
    obtain ⟨hel, het⟩ := List.mem_filter.mp he
    obtain ⟨id, hid, rfl⟩ := List.mem_map.mp (hl.mem_iff.mp hel)
    obtain ⟨entry, hg, howner⟩ := ho id hid
    exact ⟨⟨het, status_of_due howner het, entry, hg, howner⟩, rfl⟩

/-- What a round asks of the plane. -/
structure Asks (batches : List (List String)) (p p' : MemoryPlane) : Prop where
  failures : p'.failures .resultStatuses = (p.failures .resultStatuses).drop batches.length
  sizes : p'.statusBatchSizes = p.statusBatchSizes ++ batches.map List.length

variable (behavior options visit) in
theorem round_rounded (hs : s.Anchored p) (hw : s.Awaits waiter) (hne : s.awaited waiter ≠ []) :
    Rounded behavior options (p.answered (s.batches visit waiter)) waiter s p
        (round plane behavior options visit waiter s p) ∧
      Asks (s.batches visit waiter) p (round plane behavior options visit waiter s p).plane := by
  rw [round_of_ne_nil plane behavior options visit p hne]
  have hperm := visit.perm (s.awaited waiter)
  have hnodup : (s.batches visit waiter).flatten.Nodup := by
    rw [flatten_batches]
    exact hperm.nodup_iff.mpr hw.nodup
  have howner : ∀ id ∈ p.answered (s.batches visit waiter),
      ∃ e, s.tracker.byResult.get? id = some e ∧ (p.result id).owner = some e.task := by
    intro id hid
    have hm := mem_of_mem_answered hid
    rw [flatten_batches, visit.mem_arrange] at hm
    obtain ⟨e, he⟩ := hw.tracked hm
    exact ⟨e, he, hs.owner he⟩
  obtain ⟨hp, he⟩ := @pollBatches_polls s.id _ p {} hnodup fun _ _ h => by cases h
  have hu := keeps_undisturbed.pollBatches s.id (s.batches visit waiter) {} p
  have ha : (p.answered (s.batches visit waiter)).Nodup := nodup_answered hnodup
  have hpoll : s.poll plane (visit.arrange (s.awaited waiter)) p =
      pollBatches plane s.id (s.batches visit waiter) {} p := rfl
  rw [hpoll]
  generalize pollBatches plane s.id (s.batches visit waiter) {} p = polled at hp he hu
  obtain ⟨statuses, p1⟩ := polled
  obtain ⟨hres, hfail, hother, hsizes, hdown⟩ := hp
  generalize p.answered (s.batches visit waiter) = answered at *
  simp only at *
  have hl : (visit.arrange statuses.entries).Perm (answered.map fun id => (id, p.statusOf id)) :=
    he ▸ visit.perm statuses.entries
  obtain ⟨hfinals, hmet⟩ := claim_polled howner ha hl
  generalize visit.arrange statuses.entries = l at *
  have hfetch := fetched_fetches.dispatchAll s.id (s.tracker.claim l).2 p1
  have hmet1 : ∀ c ∈ (s.tracker.claim l).2, p1.Met c := fun c hc => hu.met (hmet c hc).1
  have hnil (h : p.failures .downloadResult = []) : p1.failures .downloadResult = [] :=
    hu.failures_nil h
  refine ⟨?_, ?_⟩
  · constructor
    case results => exact fun id => (hfetch.results id).trans (hres id)
    case claimed =>
      rw [Tracker.map_result_claim]
      exact hfinals
    case met => exact fun c hc => (hmet c hc).1
    case held => exact fun c hc => (hmet c hc).2
    case entries =>
      rw [Tracker.entries_claim]
      apply List.filter_congr
      intro e _
      simp only [hfinals.mem_iff]
    case waiter => rfl
    case dispatched =>
      intro h
      obtain ⟨hdel, hfails⟩ := dispatchAll_eq _ (hnil h) hmet1
      rw [hu.delivery?] at hdel
      rw [hu.fails] at hfails
      exact ⟨hdel, by rw [hfails]⟩
    case stopped => exact ⟨_, rfl⟩
    case downloads =>
      intro h id hid
      refine (downloadCount_dispatchAll _ (fun c hc he => ?_) (hnil h)).trans ?_
      · subst he
        rw [(hmet c hc).1.status, hid]
        exact .inl rfl
      · simp only [downloadCount, hdown]
  · constructor
    case failures => exact (hfetch.failures .resultStatuses (by decide)).trans hfail
    case sizes => exact hfetch.sizes.trans hsizes

/-! ### What is awaited after a round -/

section
variable {answered : List String} {r : WaitResult MemoryPlane}

theorem Rounded.mem_claimed (h : Rounded behavior options answered waiter s p r) (id : String) :
    (∃ c ∈ r.claims, c.result = id) ↔ id ∈ answered.filter p.due := by
  rw [← h.claimed.mem_iff, List.mem_map]

theorem Rounded.get?_eq (h : Rounded behavior options answered waiter s p r) {id : String}
    {e : Tracked} : r.session.tracker.byResult.get? id = some e ↔
      s.tracker.byResult.get? id = some e ∧ id ∉ answered.filter p.due := by
  rw [Table.get?_eq_some_iff, Table.get?_eq_some_iff, h.entries, List.mem_filter, decide_eq_true_iff]

theorem Rounded.awaited_eq (h : Rounded behavior options answered waiter s p r) :
    r.session.awaited r.waiter =
      (s.awaited waiter).filter fun id => decide (id ∉ answered.filter p.due) := by
  rw [h.waiter]
  cases hs : waiter.scope with
  | none =>
    simp only [awaited, settle, hs, Option.map_none, Option.getD_none, Tracker.results, Table.keys,
      h.entries, List.filter_map, Function.comp_def]
  | some ids =>
    simp only [awaited, settle, hs, Option.map_some, Option.getD_some]
    apply List.filter_congr
    intro id _
    have hc := h.mem_claimed id
    by_cases hid : id ∈ answered.filter p.due
    · have : r.claims.any (fun c => decide (c.result = id)) = true := by
        rw [List.any_eq_true]
        simpa using hc.mpr hid
      simp only [this, hid, Bool.not_true, not_true_eq_false, decide_false]
    · have : r.claims.any (fun c => decide (c.result = id)) = false := by
        rw [← Bool.not_eq_true, List.any_eq_true]
        simpa using mt hc.mp hid
      simp only [this, hid, Bool.not_false, not_false_eq_true, decide_true]

theorem Rounded.awaits (h : Rounded behavior options answered waiter s p r) (hw : s.Awaits waiter) :
    r.session.Awaits r.waiter where
  nodup := by
    rw [h.awaited_eq]
    exact hw.nodup.sublist List.filter_sublist
  tracked {id} hid := by
    rw [h.awaited_eq, List.mem_filter, decide_eq_true_iff] at hid
    obtain ⟨e, he⟩ := hw.tracked hid.1
    exact ⟨e, h.get?_eq.mpr ⟨he, hid.2⟩⟩

end

theorem Awaits.paused (h : s.Awaits waiter) (time : Nat) : s.Awaits (waiter.paused time) :=
  ⟨h.nodup, h.tracked⟩

variable (behavior options visit)

/-- A round keeps what is tracked tied to the plane, also when nothing was awaited. -/
theorem anchored_round (waiter : Waiter) (hs : s.Anchored p) :
    (round plane behavior options visit waiter s p).session.Anchored
      (round plane behavior options visit waiter s p).plane := by
  obtain ⟨l, hl⟩ := (hands_round plane behavior options visit waiter s p).session
  exact (hs.claim hl).grows (keeps_undisturbed.round visit waiter s p).grows

theorem awaits_round (hs : s.Anchored p) (hw : s.Awaits waiter) :
    (round plane behavior options visit waiter s p).session.Awaits
      (round plane behavior options visit waiter s p).waiter := by
  by_cases hne : s.awaited waiter = []
  · rw [round_of_nil plane behavior options visit p hne]
    exact hw
  · exact (round_rounded behavior options visit hs hw hne).1.awaits hw

theorem round_dispatched (hs : s.Anchored p) (hw : s.Awaits waiter)
    (hd : p.failures .downloadResult = []) :
    (round plane behavior options visit waiter s p).deliveries =
        ((round plane behavior options visit waiter s p).claims.filterMap
          Tracker.Claim.held?).filterMap p.delivery? ∧
      ∀ id, (p.result id).settled = .deleted →
        (round plane behavior options visit waiter s p).plane.downloadCount id =
          p.downloadCount id := by
  by_cases hne : s.awaited waiter = []
  · rw [round_of_nil plane behavior options visit p hne]
    exact ⟨rfl, fun _ _ => rfl⟩
  · have hr := (round_rounded behavior options visit hs hw hne).1
    exact ⟨(hr.dispatched hd).1, hr.downloads hd⟩

/-- Over all rounds, without failing downloads, outcomes are those of the fates, and results whose data was
deleted are not downloaded. -/
theorem rounds_dispatched (n : Nat) (visits : Nat → Visit) (hs : s.Anchored p) (hw : s.Awaits waiter)
    (hd : p.failures .downloadResult = []) :
    (rounds plane behavior options n visits waiter s p).deliveries =
        ((rounds plane behavior options n visits waiter s p).claims.filterMap
          Tracker.Claim.held?).filterMap p.delivery? ∧
      ∀ id, (p.result id).settled = .deleted →
        (rounds plane behavior options n visits waiter s p).plane.downloadCount id =
          p.downloadCount id := by
  induction n generalizing visits waiter s p with
  | zero => exact ⟨rfl, fun _ _ => rfl⟩
  | succ n ih =>
    have hone := round_dispatched behavior options (visits 0) hs hw hd
    cases hstop : (round plane behavior options (visits 0) waiter s p).stopped with
    | some reason =>
      rw [rounds_of_stopped plane behavior options hstop]
      exact hone
    | none =>
      have hu : Undisturbed p (round plane behavior options (visits 0) waiter s p).plane :=
        keeps_undisturbed.round (visits 0) waiter s p
      have hs' := anchored_round behavior options (visits 0) waiter hs
      have hw' := (awaits_round behavior options (visits 0) hs hw).paused options.polling
      obtain ⟨hdel, hcount⟩ := ih (fun i => visits (i + 1)) hs' hw' (hu.failures_nil hd)
      rw [hu.delivery?] at hdel
      rw [rounds_of_going plane behavior options hstop]
      refine ⟨?_, fun id hid => ?_⟩
      · simp only [List.filterMap_append, hone.1, hdel]
      · exact (hcount id ((hu.settled id).trans hid)).trans (hone.2 id hid)

end Session
end TaskGrid
