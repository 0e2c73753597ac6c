import TaskGrid.Proofs.Fleet.Custody
import TaskGrid.Proofs.Session.Stopping

/-! How many rounds a wait takes when no request fails: as many as the stopping rule says, whatever orders
the rounds go through results in. -/
namespace TaskGrid

def Fate.isError : Fate → Bool
  | .aborted _ | .abortedWithData _ | .deleted => true
  | _ => false

/-- Whether a task that meets a fate counts as failed: also if its handler panics at the response. -/
def Fate.fails (fate : Fate) (handler : Handler) : Bool :=
  fate.isError || (fate.status = .completed && handler.panics)

namespace MemoryPlane

theorem fails_eq (p : MemoryPlane) (e : String × Tracked) :
    p.fails e = (p.result e.1).settled.fails e.2.handler := by
  unfold fails delivery? Fate.fails
  cases (p.result e.1).settled <;> simp [Fate.told, Fate.isError, Fate.status, Session.succeeded]

/-- The stopping rule: whether a wait for entries is to return after its `k`-th round, if `fails` tells
which tasks count as failed. -/
def ReturnsAfter (p : MemoryPlane) (behavior : WaitBehavior) (fails : Fate → Handler → Bool)
    (awaited : List (String × Tracked)) (k : ℕ) : Prop :=
  1 ≤ k ∧ ((∀ e ∈ awaited, (p.result e.1).remaining < k) ∨
    (behavior.any ∧ ∃ e ∈ awaited, (p.result e.1).remaining < k) ∨
    (behavior.breakOnError ∧ ∃ e ∈ awaited,
      fails (p.result e.1).settled e.2.handler ∧ (p.result e.1).remaining < k))

instance (p : MemoryPlane) (behavior : WaitBehavior) (fails : Fate → Handler → Bool)
    (awaited : List (String × Tracked)) (k : ℕ) :
    Decidable (p.ReturnsAfter behavior fails awaited k) := by
  unfold ReturnsAfter
  infer_instance

theorem isLeast_two {behavior : WaitBehavior} {p : MemoryPlane} {fails : Fate → Handler → Bool}
    {awaited : List (String × Tracked)} (h : p.ReturnsAfter behavior fails awaited 2)
    (hn : ¬ p.ReturnsAfter behavior fails awaited 1) :
    IsLeast {k | p.ReturnsAfter behavior fails awaited k} 2 := by
  refine ⟨h, fun k hk => ?_⟩
  have h1 : k ≠ 1 := fun e => hn (e ▸ hk)
  have hpos : 1 ≤ k := hk.1
  omega

theorem returnsAfter_iff (p : MemoryPlane) (behavior : WaitBehavior)
    (awaited : List (String × Tracked)) (k : ℕ) :
    p.ReturnsAfter behavior Fate.fails awaited k ↔
      1 ≤ k ∧ Session.Stops behavior p awaited k := by
  simp only [ReturnsAfter, Session.Stops, StoredResult.not_lasts_iff, fails_eq]

end MemoryPlane

namespace Session

variable {behavior : WaitBehavior} {waiter : Waiter} {s : Session} {p : MemoryPlane}

def entriesAfter (p : MemoryPlane) (awaited : List (String × Tracked)) (n : ℕ) :
    List (String × Tracked) :=
  awaited.filter fun e => decide (n ≤ (p.result e.1).remaining)

theorem entriesAfter_eq (p : MemoryPlane) (awaited : List (String × Tracked)) (n : ℕ) :
    entriesAfter p awaited n = awaited.filter fun e => (p.result e.1).lasts n := by
  apply List.filter_congr
  intro e _
  rw [Bool.eq_iff_iff, StoredResult.lasts_iff, decide_eq_true_iff]

theorem Awaits.mem_entriesAfter_iff (hw : s.Awaits waiter) (n : ℕ) (id : String) :
    id ∈ (entriesAfter p (s.awaitedEntries waiter) n).map Prod.fst ↔
      id ∈ s.awaited waiter ∧ (p.result id).lasts n := by
  rw [entriesAfter_eq, hw.mem_awaited_iff, List.mem_map]
  constructor
  · rintro ⟨e, he, rfl⟩
    obtain ⟨hm, hl⟩ := List.mem_filter.mp he
    exact ⟨⟨e.2, hm⟩, hl⟩
  · rintro ⟨⟨t, hm⟩, hl⟩
    exact ⟨(id, t), List.mem_filter.mpr ⟨hm, hl⟩, rfl⟩

/-- One round more polls what is still awaited once, in as few requests as the batch size allows. -/
theorem Waited.polled_once {n : ℕ} {r r' : WaitResult MemoryPlane} (hw : s.Awaits waiter)
    (h : Waited behavior n waiter s p r) (h' : Waited behavior (n + 1) waiter s p r') :
    (∀ id, r'.plane.result id =
      if id ∈ (entriesAfter p (s.awaitedEntries waiter) n).map Prod.fst then
        (r.plane.result id).polled 1
      else r.plane.result id) ∧
    r'.plane.statusBatchSizes.length = r.plane.statusBatchSizes.length +
      requestCount s.waitBatchSize (entriesAfter p (s.awaitedEntries waiter) n).length := by
  constructor
  · intro id
    have hmem := hw.mem_entriesAfter_iff (p := p) n id
    rw [h'.results, h.results]
    by_cases hid : id ∈ s.awaited waiter
    · rw [if_pos hid, if_pos hid, List.range_succ, List.countP_append]
      by_cases hl : (p.result id).lasts n
      · rw [if_pos (hmem.mpr ⟨hid, hl⟩), StoredResult.polled_polled, List.countP_cons_of_pos hl]
        rfl
      · rw [if_neg fun hm => hl (hmem.mp hm).2, List.countP_cons_of_neg hl]
        rfl
    · rw [if_neg hid, if_neg fun hm => hid (hmem.mp hm).1, if_neg hid]
  · rw [h'.requests, h.requests, List.range_succ, List.map_append, List.sum_append, entriesAfter_eq,
      ← List.countP_eq_length_filter, Nat.add_assoc]
    simp

/-- What has left the tracker after `n` rounds. -/
theorem Waited.entries_eq {n : ℕ} {r : WaitResult MemoryPlane}
    (h : Waited behavior n waiter s p r) :
    r.session.tracker.byResult.entries = s.tracker.byResult.entries.filter fun e =>
      decide (¬ (e ∈ s.awaitedEntries waiter ∧ (p.result e.1).remaining < n)) := by
  rw [h.entries]
  apply List.filter_congr
  intro e _
  rw [Bool.eq_iff_iff, Bool.or_eq_true, decide_eq_true_iff, decide_eq_true_iff,
    StoredResult.lasts_iff, not_and, not_lt]
  exact imp_iff_not_or.symm

end Session

namespace Fleet
open MemoryPlane
variable {f : Fleet} {i : ℕ}

/-- When no request is to fail and there is no timeout, a wait goes on as long as the stopping rule does not
hold and returns once it does, whatever orders its rounds go through results in. Each round polls what is
still awaited, once. On return the awaited results that were found to have met their fate have left the
tracker, and only these are reported. -/
theorem wait_rounds_exact (hf : f.Reachable) {s : Session} (hs : f.sessions[i]? = some s)
    (hst : f.plane.failures .resultStatuses = []) (hd : f.plane.failures .downloadResult = [])
    (tasks : List String) (behavior : WaitBehavior) (options : WaitOptions)
    (ht : options.timeout = none) (visits : ℕ → Visit) :
    let awaited := s.entriesFor tasks
    let after n := s.wait MemoryPlane.plane n visits tasks behavior options f.plane
    let rule := f.plane.ReturnsAfter behavior Fate.fails awaited
    let still := Session.entriesAfter f.plane awaited
    let left n := s.tracker.byResult.entries.filter fun e =>
      decide (¬ (e ∈ awaited ∧ (f.plane.result e.1).remaining < (n : ℕ)))
    (awaited = [] → ∀ n, (after (n + 1)).stopped = some .nothingAwaited ∧
      (after n).plane = f.plane ∧ (after n).session = s ∧ (after n).deliveries = []) ∧
    (∀ n, (∀ k ≤ n, ¬ rule k) → (after n).stopped = none ∧
      (after n).session.tracker.byResult.entries = left n ∧
      (∀ id, (after (n + 1)).plane.result id =
        if id ∈ (still n).map Prod.fst then ((after n).plane.result id).polled 1
        else (after n).plane.result id) ∧
      (after (n + 1)).plane.statusBatchSizes.length =
        (after n).plane.statusBatchSizes.length +
          requestCount s.waitBatchSize (still n).length) ∧
    ∀ R, IsLeast {k | rule k} R →
      (∀ n, R ≤ n → (after n).stopped.isSome ∧ after n = after R) ∧
      (after R).session.tracker.byResult.entries = left R ∧
      ∀ d ∈ (after R).deliveries, ∃ e ∈ awaited,
        (f.plane.result e.1).remaining < R ∧ d.tracked = e.2 := by
  intro awaited after rule still left
  have ha := hf.sound.anchored hs
  have hw := Session.awaits_waiter ha.synced tasks
  have he : s.awaitedEntries (s.waiter tasks) = awaited := Session.awaitedEntries_waiter ha.synced tasks
  have hrule (k : ℕ) : rule k ↔ 1 ≤ k ∧ Session.Stops behavior f.plane awaited k :=
    returnsAfter_iff f.plane behavior awaited k
  have hwaited (n : ℕ) (hgo : ∀ k < n, ¬ rule k) :
      Session.Waited behavior n (s.waiter tasks) s f.plane (after n) := by
    refine Session.rounds_waited behavior options n visits ha hw hst hd ht (fun _ => rfl) ?_
    intro k hk hkn hstop
    rw [he] at hstop
    exact hgo k hkn ((hrule k).mpr ⟨hk, hstop⟩)
  have hleft {n : ℕ} (h : Session.Waited behavior n (s.waiter tasks) s f.plane (after n)) :
      (after n).session.tracker.byResult.entries = left n := by
    have hentries := h.entries_eq
    rw [he] at hentries
    exact hentries
  refine ⟨?_, ?_, ?_⟩
  · intro hnil n
    have hawaited : s.awaited (s.waiter tasks) = [] := by
      rw [← List.length_eq_zero_iff, ← hw.length_awaitedEntries, he, hnil]
      rfl
    have hafter (n : ℕ) : after (n + 1) =
        ⟨[], [], some .nothingAwaited, s.waiter tasks, s, f.plane⟩ :=
      Session.rounds_of_nil MemoryPlane.plane behavior options n visits f.plane hawaited
    refine ⟨by rw [hafter], ?_⟩
    cases n with
    | zero => exact ⟨rfl, rfl, rfl⟩
    | succ n =>
      rw [hafter]
      exact ⟨rfl, rfl, rfl⟩
  · intro n hgo
    have h := hwaited n fun k hk => hgo k hk.le
    have h' := hwaited (n + 1) fun k hk => hgo k (Nat.le_of_lt_succ hk)
    have hpoll := h.polled_once hw h'
    rw [he] at hpoll
    refine ⟨?_, hleft h, hpoll⟩
    rw [← Option.not_isSome_iff_eq_none, h.stopped, he, ← hrule]
    exact hgo n le_rfl
  · intro R hR
    have h := hwaited R fun k hk hrk => absurd (hR.2 hrk) (by omega)
    have hstop : (after R).stopped.isSome := by
      rw [h.stopped, he, ← hrule]
      exact hR.1
    refine ⟨fun n hn => ?_, hleft h, fun d hmem => ?_⟩
    · have hstable : after n = after R :=
        Session.rounds_stable MemoryPlane.plane behavior options hn hstop
      exact ⟨hstable ▸ hstop, hstable⟩
    · have hh : s.Hands (after R) := Session.hands_rounds MemoryPlane.plane behavior options R visits
        (s.waiter tasks) s f.plane
      obtain ⟨id, hbefore, hgone⟩ := hh.mem_delivered hmem
      rw [hleft h, List.mem_filter, decide_eq_true_iff, not_and, not_not] at hgone
      obtain ⟨hm, hlt⟩ := hgone hbefore
      exact ⟨(id, d.tracked), hm, hlt, rfl⟩

/-- One task was polled once, and its handler panics; another one was not polled yet. -/
def panickyFleet : Fleet := (start 1).run
  [.attach "a" {},
    .call 0 (.submit [⟨"one", [], []⟩] ⟨"panics", true⟩ none) 0 fun _ => .listed,
    .call 0 (.wait [] {} { timeout := some 0 }) 1 fun _ => .listed,
    .call 0 (.submit [⟨"two", [], []⟩] ⟨"h", false⟩ none) 0 fun _ => .listed]

theorem wait_rounds_exact_panickyFleet :
    ∃ s, panickyFleet.Reachable ∧ panickyFleet.sessions[0]? = some s ∧
      panickyFleet.plane.failures .resultStatuses = [] ∧
      panickyFleet.plane.failures .downloadResult = [] ∧
      let tasks := ["t2", "t9", "t2"]
      let after n := s.wait MemoryPlane.plane n (fun _ => .listed) tasks {} {} panickyFleet.plane
      IsLeast {k | panickyFleet.plane.ReturnsAfter {} Fate.fails (s.entriesFor tasks) k} 2 ∧
        ∀ n, 2 ≤ n → (after n).stopped.isSome ∧ after n = after 2 := by
  have hsome : panickyFleet.sessions[0]?.isSome := by decide +kernel
  obtain ⟨s, hs⟩ := Option.isSome_iff_exists.mp hsome
  have hrule : ∀ s ∈ panickyFleet.sessions,
      panickyFleet.plane.ReturnsAfter {} Fate.fails (s.entriesFor ["t2", "t9", "t2"]) 2 ∧
      ¬ panickyFleet.plane.ReturnsAfter {} Fate.fails (s.entriesFor ["t2", "t9", "t2"]) 1 := by
    decide +kernel
  obtain ⟨h2, h1⟩ := hrule s (List.mem_of_getElem? hs)
  have hf : panickyFleet.Reachable := ⟨1, _, rfl⟩
  have hst : panickyFleet.plane.failures .resultStatuses = [] := by decide +kernel
  have hd : panickyFleet.plane.failures .downloadResult = [] := by decide +kernel
  have hleast : IsLeast
      {k | panickyFleet.plane.ReturnsAfter {} Fate.fails (s.entriesFor ["t2", "t9", "t2"]) k} 2 :=
    isLeast_two h2 h1
  obtain ⟨-, -, h⟩ := wait_rounds_exact hf hs hst hd ["t2", "t9", "t2"] {} {} rfl fun _ => .listed
  exact ⟨s, hf, hs, hst, hd, hleast, (h 2 hleast).1⟩

/-- A handler that panics at a response breaks a wait as well, however its task ended. -/
theorem breaks_at_panic :
    ∃ s, panickyFleet.Reachable ∧ panickyFleet.sessions[0]? = some s ∧
      (∀ call, panickyFleet.plane.failures call = []) ∧
      let behavior : WaitBehavior := { breakOnError := true }
      let error (fate : Fate) (_ : Handler) := fate.isError
      IsLeast {k | panickyFleet.plane.ReturnsAfter behavior error (s.entriesFor []) k} 2 ∧
        (s.wait MemoryPlane.plane 1 (fun _ => .listed) [] behavior {} panickyFleet.plane).stopped =
          some .taskFailed := by
  have hsome : panickyFleet.sessions[0]?.isSome := by decide +kernel
  obtain ⟨s, hs⟩ := Option.isSome_iff_exists.mp hsome
  have hrule : ∀ s ∈ panickyFleet.sessions,
      panickyFleet.plane.ReturnsAfter { breakOnError := true } (fun fate _ => fate.isError)
        (s.entriesFor []) 2 ∧
      ¬ panickyFleet.plane.ReturnsAfter { breakOnError := true } (fun fate _ => fate.isError)
        (s.entriesFor []) 1 ∧
      (s.wait MemoryPlane.plane 1 (fun _ => .listed) [] { breakOnError := true } {}
        panickyFleet.plane).stopped = some .taskFailed := by
    decide +kernel
  obtain ⟨h2, h1, hstop⟩ := hrule s (List.mem_of_getElem? hs)
  refine ⟨s, ⟨1, _, rfl⟩, hs, fun call => ?_, isLeast_two h2 h1, hstop⟩
  cases call <;> decide +kernel

end Fleet
end TaskGrid
