import Mathlib.Data.ENat.Basic
import TaskGrid.Proofs.Session.Round

/-! How long results stay created, and what a wait does to them when no request fails: after `n` rounds a
result was polled once in each round that still awaited it, and it is tracked just if it lasts that long. -/
namespace TaskGrid
namespace StoredResult

/-- Whether `k` more polls all find a result created. -/
def lasts (r : StoredResult) (k : Nat) : Bool :=
  decide (r.settled = .pending) || decide (k ≤ r.delay - r.polls)

/-- How many more polls find a result created. -/
def remaining (r : StoredResult) : ℕ∞ := if r.settled = .pending then ⊤ else (r.delay - r.polls : ℕ)

def polled (r : StoredResult) (n : Nat) : StoredResult := { r with polls := r.polls + n }

variable {r : StoredResult}

theorem lasts_iff (r : StoredResult) (k : ℕ) : r.lasts k ↔ (k : ℕ∞) ≤ r.remaining := by
  unfold lasts remaining
  by_cases h : r.settled = .pending
  · simp [h]
  · simp only [h, decide_false, Bool.false_or, decide_eq_true_eq, if_false, Nat.cast_le]

theorem not_lasts_iff (r : StoredResult) (k : ℕ) : ¬ r.lasts k ↔ r.remaining < k := by
  rw [lasts_iff, not_le]

theorem lasts_zero (r : StoredResult) : r.lasts 0 := by simp [lasts]

theorem lasts_mono {k l : Nat} (h : k ≤ l) (hl : r.lasts l) : r.lasts k := by
  simp only [lasts, Bool.or_eq_true, decide_eq_true_eq] at hl ⊢
  exact hl.imp_right (Nat.le_trans h)

theorem not_lasts_succ (h : ¬ r.lasts 1) (k : Nat) : ¬ r.lasts (k + 1) :=
  mt (lasts_mono (Nat.le_add_left 1 k)) h

theorem polled_polled (r : StoredResult) (m n : Nat) : (r.polled m).polled n = r.polled (m + n) := by
  simp [polled, Nat.add_assoc]

theorem poll_of_owner {task : String} (h : r.owner = some task) :
    r.poll = (r.polled 1, if r.polls + 1 ≤ r.delay then .created else r.settled.status) := by
  obtain ⟨owner, payload, fate, polls, delay⟩ := r
  cases h
  rfl

theorem isTerminal_status (fate : Fate) : fate.status.isTerminal = !decide (fate = .pending) := by
  cases fate <;> rfl

theorem isTerminal_poll {task : String} (h : r.owner = some task) :
    r.poll.2.isTerminal = !r.lasts 1 := by
  rw [poll_of_owner h]
  by_cases hd : r.polls + 1 ≤ r.delay
  · have h1 : 1 ≤ r.delay - r.polls := by omega
    simp [hd, lasts, h1, ResultStatus.isTerminal]
  · have h1 : ¬ 1 ≤ r.delay - r.polls := by omega
    simp [hd, lasts, h1, isTerminal_status]

/-- A result that outlasts one poll lasts one poll less after it. -/
theorem lasts_polled {k : Nat} (h : r.lasts 1) : (r.polled 1).lasts k = r.lasts (k + 1) := by
  have hs : (r.polled 1).settled = r.settled := rfl
  have hn : (r.polled 1).delay - (r.polled 1).polls = r.delay - r.polls - 1 := by
    simp [polled, Nat.sub_sub]
  simp only [lasts, Bool.or_eq_true, decide_eq_true_eq] at h
  apply Bool.eq_iff_iff.mpr
  simp only [lasts, hs, hn, Bool.or_eq_true, decide_eq_true_eq]
  rcases h with h | h
  · simp [h]
  · constructor
    · exact fun hk => hk.imp_right fun hk => by omega
    · exact fun hk => hk.imp_right fun hk => by omega

end StoredResult

theorem length_chunks {α : Type} (n : Nat) (l : List α) :
    (chunks n l).length = (l.length + max n 1 - 1) / max n 1 := by
  fun_induction chunks n l with
  | case1 =>
    have h0 : ([] : List α).length + max n 1 - 1 = max n 1 - 1 := by simp
    rw [h0, Nat.div_eq_of_lt (by omega)]
    rfl
  | case2 l h ih =>
    have hl : 0 < l.length := List.length_pos_iff.mpr h
    rw [List.length_cons, ih, List.length_drop]
    by_cases hle : l.length ≤ max n 1
    · have h0 : l.length - max n 1 + max n 1 - 1 = max n 1 - 1 := by omega
      have h1 : l.length + max n 1 - 1 = max n 1 + (l.length - 1) := by omega
      rw [h0, h1, Nat.add_div_left _ (by omega), Nat.div_eq_of_lt (by omega),
        Nat.div_eq_of_lt (by omega)]
    · have h1 : l.length + max n 1 - 1 = (l.length - max n 1 + max n 1 - 1) + max n 1 := by omega
      rw [h1, Nat.add_div_right _ (by omega)]

namespace Session
open MemoryPlane

def awaitedEntries (s : Session) (waiter : Waiter) : List (String × Tracked) :=
  s.tracker.byResult.entries.filter fun e => decide (e.1 ∈ s.awaited waiter)

/-- Whether a wait for entries is to stop after `k` rounds. -/
def Stops (behavior : WaitBehavior) (p : MemoryPlane) (awaited : List (String × Tracked)) (k : Nat) :
    Prop :=
  (∀ e ∈ awaited, ¬ (p.result e.1).lasts k) ∨
    (behavior.any ∧ ∃ e ∈ awaited, ¬ (p.result e.1).lasts k) ∨
    (behavior.breakOnError ∧ ∃ e ∈ awaited, p.fails e ∧ ¬ (p.result e.1).lasts k)

variable {behavior : WaitBehavior} {options : WaitOptions} {waiter : Waiter} {s : Session}
  {p : MemoryPlane}

theorem mem_awaitedEntries {e : String × Tracked} :
    e ∈ s.awaitedEntries waiter ↔
      s.tracker.byResult.get? e.1 = some e.2 ∧ e.1 ∈ s.awaited waiter := by
  rw [awaitedEntries, List.mem_filter, decide_eq_true_iff, Table.get?_eq_some_iff]

def entriesFor (s : Session) (tasks : List String) : List (String × Tracked) :=
  s.tracker.byResult.entries.filter fun e => decide (tasks = [] ∨ e.2.task ∈ tasks)

theorem awaitedEntries_waiter (h : s.tracker.Synced) (tasks : List String) :
    s.awaitedEntries (s.waiter tasks) = s.entriesFor tasks := by
  apply List.filter_congr
  intro e he
  have hg := Table.get?_eq_some_iff.mpr he
  rw [decide_eq_decide, mem_awaited_waiter h]
  constructor
  · rintro ⟨t, ht, hm⟩
    rw [hg] at ht
    cases ht
    exact hm
  · exact fun hm => ⟨e.2, hg, hm⟩

theorem Awaits.mem_awaited_iff (hw : s.Awaits waiter) {id : String} :
    id ∈ s.awaited waiter ↔ ∃ t, (id, t) ∈ s.awaitedEntries waiter := by
  simp only [mem_awaitedEntries]
  constructor
  · intro h
    obtain ⟨t, ht⟩ := hw.tracked h
    exact ⟨t, ht, h⟩
  · rintro ⟨t, -, h⟩
    exact h

theorem Awaits.map_fst_perm (hw : s.Awaits waiter) :
    ((s.awaitedEntries waiter).map Prod.fst).Perm (s.awaited waiter) := by
  have hn : ((s.awaitedEntries waiter).map Prod.fst).Nodup :=
    s.tracker.byResult.distinct.sublist (List.filter_sublist.map _)
  rw [List.perm_ext_iff_of_nodup hn hw.nodup]
  intro id
  rw [hw.mem_awaited_iff, List.mem_map]
  constructor
  · rintro ⟨e, he, rfl⟩
    exact ⟨e.2, he⟩
  · rintro ⟨t, ht⟩
    exact ⟨_, ht, rfl⟩

theorem Awaits.length_awaitedEntries (hw : s.Awaits waiter) :
    (s.awaitedEntries waiter).length = (s.awaited waiter).length := by
  rw [← hw.map_fst_perm.length_eq, List.length_map]

theorem Anchored.due_eq (hs : s.Anchored p) {e : String × Tracked}
    (he : e ∈ s.awaitedEntries waiter) : p.due e.1 = !(p.result e.1).lasts 1 := by
  have ho := hs.owner (mem_awaitedEntries.mp he).1
  rw [due, statusOf_of_owner ho, StoredResult.isTerminal_poll ho]

/-! ### One round -/

section
variable {visit : Visit} {answered : List String} {r : WaitResult MemoryPlane}

theorem Rounded.mem_held (h : Rounded behavior options answered waiter s p r)
    {e : String × Tracked} : e ∈ r.claims.filterMap Tracker.Claim.held? ↔
      s.tracker.byResult.get? e.1 = some e.2 ∧ e.1 ∈ answered.filter p.due := by
  rw [List.mem_filterMap]
  constructor
  · rintro ⟨c, hc, hheld⟩
    obtain ⟨t, ht, rfl⟩ := Option.map_eq_some_iff.mp hheld
    exact ⟨(h.held c hc).symm.trans ht, (h.mem_claimed _).mp ⟨c, hc, rfl⟩⟩
  · rintro ⟨hg, hm⟩
    obtain ⟨c, hc, hr⟩ := (h.mem_claimed _).mpr hm
    refine ⟨c, hc, ?_⟩
    rw [Tracker.Claim.held?, h.held c hc, hr, hg]
    rfl

theorem Rounded.awaitedEntries_eq (h : Rounded behavior options answered waiter s p r) :
    r.session.awaitedEntries r.waiter =
      (s.awaitedEntries waiter).filter fun e => decide (e.1 ∉ answered.filter p.due) := by
  simp only [awaitedEntries, h.awaited_eq, h.entries, List.filter_filter]
  generalize answered.filter p.due = claimed
  apply List.filter_congr
  intro e _
  by_cases hc : e.1 ∈ claimed <;> simp [hc]

/-- When no request fails, a result is claimed just if it does not last. -/
theorem mem_due_iff (hs : s.Anchored p) (hall : ∀ id, id ∈ answered ↔ id ∈ s.awaited waiter)
    {e : String × Tracked} (he : e ∈ s.awaitedEntries waiter) :
    e.1 ∈ answered.filter p.due ↔ ¬ (p.result e.1).lasts 1 := by
  have hm := (mem_awaitedEntries.mp he).2
  rw [List.mem_filter, hs.due_eq he, hall]
  simp [hm]

theorem decide_not_mem_due (hs : s.Anchored p) (hall : ∀ id, id ∈ answered ↔ id ∈ s.awaited waiter)
    {e : String × Tracked} (he : e ∈ s.awaitedEntries waiter) :
    decide (e.1 ∉ answered.filter p.due) = (p.result e.1).lasts 1 := by
  rw [Bool.eq_iff_iff, decide_eq_true_iff, mem_due_iff hs hall he, Decidable.not_not]

theorem isSome_verdict (ht : options.timeout = none) (s : Session) (waiter : Waiter)
    (failed : Bool) : (s.verdict behavior options waiter failed).isSome ↔
      s.awaited waiter = [] ∨ (behavior.any ∧ 0 < waiter.resolved) ∨
        (behavior.breakOnError ∧ failed) := by
  unfold verdict
  split
  · next h => simp_all
  · split
    · next h => simp_all
    · split
      · next h => simp_all
      · simp_all

theorem Rounded.isSome_stopped_iff (h : Rounded behavior options answered waiter s p r)
    (hs : s.Anchored p) (hw : s.Awaits waiter)
    (hall : ∀ id, id ∈ answered ↔ id ∈ s.awaited waiter)
    (hd : p.failures .downloadResult = []) (ht : options.timeout = none)
    (hany : behavior.any → waiter.resolved = 0) :
    r.stopped.isSome ↔ Stops behavior p (s.awaitedEntries waiter) 1 := by
  rw [(h.dispatched hd).2, isSome_verdict ht]
  have hdue {e : String × Tracked} (he : e ∈ s.awaitedEntries waiter) :=
    mem_due_iff hs hall he
  refine or_congr ?_ (or_congr (and_congr_right fun ha => ?_) (and_congr_right fun _ => ?_))
  · rw [h.awaited_eq, List.filter_eq_nil_iff]
    simp only [decide_eq_true_eq, Decidable.not_not]
    constructor
    · intro hn e he
      exact (hdue he).mp (hn e.1 (mem_awaitedEntries.mp he).2)
    · intro hn id hid
      obtain ⟨t, ht⟩ := hw.mem_awaited_iff.mp hid
      exact (hdue ht).mpr (hn _ ht)
  · rw [h.waiter, settle, hany ha, Nat.zero_add, List.length_pos_iff_exists_mem]
    constructor
    · rintro ⟨c, hc⟩
      have hm := (h.mem_claimed c.result).mp ⟨c, hc, rfl⟩
      obtain ⟨t, ht⟩ := hw.mem_awaited_iff.mp ((hall _).mp (List.mem_filter.mp hm).1)
      exact ⟨_, ht, (hdue ht).mp hm⟩
    · rintro ⟨e, he, hl⟩
      obtain ⟨c, hc, -⟩ := (h.mem_claimed e.1).mpr ((hdue he).mpr hl)
      exact ⟨c, hc⟩
  · rw [List.any_eq_true]
    constructor
    · rintro ⟨e, he, hf⟩
      obtain ⟨hg, hm⟩ := h.mem_held.mp he
      have ha := mem_awaitedEntries.mpr ⟨hg, (hall _).mp (List.mem_filter.mp hm).1⟩
      exact ⟨e, ha, hf, (hdue ha).mp hm⟩
    · rintro ⟨e, he, hf, hl⟩
      exact ⟨e, h.mem_held.mpr ⟨(mem_awaitedEntries.mp he).1, (hdue he).mpr hl⟩, hf⟩

end

/-! ### All rounds -/

/-- The rule after a round that did not stop is the rule one round later. -/
theorem stops_succ {p' : MemoryPlane} {l l' : List (String × Tracked)}
    (hl : ∀ e, e ∈ l' ↔ e ∈ l ∧ (p.result e.1).lasts 1)
    (hp : ∀ e ∈ l, p'.result e.1 = (p.result e.1).polled 1) (hf : p'.fails = p.fails)
    (hgo : ¬ Stops behavior p l 1) (k : Nat) :
    Stops behavior p' l' k ↔ Stops behavior p l (k + 1) := by
  have hstep {e : String × Tracked} (he : e ∈ l) (h1 : (p.result e.1).lasts 1) :
      (p'.result e.1).lasts k = (p.result e.1).lasts (k + 1) := by
    rw [hp e he, StoredResult.lasts_polled h1]
  simp only [Stops, not_or, not_and, not_exists] at hgo
  obtain ⟨-, hnone, hok⟩ := hgo
  refine or_congr ?_ (or_congr (and_congr_right fun ha => ?_) (and_congr_right fun hb => ?_))
  · constructor
    · intro hn e he
      by_cases h1 : (p.result e.1).lasts 1
      · rw [← hstep he h1]
        exact hn e ((hl e).mpr ⟨he, h1⟩)
      · exact StoredResult.not_lasts_succ h1 k
    · intro hn e he
      obtain ⟨he, h1⟩ := (hl e).mp he
      rw [hstep he h1]
      exact hn e he
  · constructor
    · rintro ⟨e, he, hk⟩
      obtain ⟨he, h1⟩ := (hl e).mp he
      exact ⟨e, he, hstep he h1 ▸ hk⟩
    · rintro ⟨e, he, hk⟩
      have h1 := Decidable.not_not.mp (hnone ha e he)
      exact ⟨e, (hl e).mpr ⟨he, h1⟩, (hstep he h1).symm ▸ hk⟩
  · rw [hf]
    constructor
    · rintro ⟨e, he, hfail, hk⟩
      obtain ⟨he, h1⟩ := (hl e).mp he
      exact ⟨e, he, hfail, hstep he h1 ▸ hk⟩
    · rintro ⟨e, he, hfail, hk⟩
      have h1 := Decidable.not_not.mp (hok hb e he hfail)
      exact ⟨e, (hl e).mpr ⟨he, h1⟩, hfail, (hstep he h1).symm ▸ hk⟩

end Session
end TaskGrid
