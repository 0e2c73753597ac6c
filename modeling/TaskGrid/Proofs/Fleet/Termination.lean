import Mathlib.Data.List.MinMax
import TaskGrid.Proofs.Fleet.Custody
import TaskGrid.Proofs.Session.Progress

/-! A wait comes to an end although requests fail: scripted failures are used up, and then every round brings
what is awaited closer to its fate. -/
namespace TaskGrid
namespace Fleet
open MemoryPlane
variable {f : Fleet} {i : ℕ}

/-- Unless a result that it awaits stays created for ever, a wait without a timeout returns, after no more
rounds than the longest lasting result needs and one for each status request that is to fail. If it waits for
everything, nothing awaited is tracked then. Each round asks for all that is still awaited; of a request that
fails the results stay tracked and are not reported, of the others those that have met their fate are claimed
and reported. -/
theorem wait_terminates (hf : f.Reachable) {s : Session} (hs : f.sessions[i]? = some s)
    (tasks : List String) (behavior : WaitBehavior) (options : WaitOptions)
    (ht : options.timeout = none) (visits : ℕ → Visit)
    (hp : ∀ e ∈ s.entriesFor tasks, (f.plane.result e.1).settled ≠ .pending) :
    let awaited := s.entriesFor tasks
    let after n := s.wait MemoryPlane.plane n visits tasks behavior options f.plane
    let longest := (awaited.map fun e =>
      (f.plane.result e.1).delay - (f.plane.result e.1).polls).foldr max 0
    (∃ n ≤ longest + 1 + (f.plane.failures .resultStatuses).length,
      (after n).stopped.isSome ∧ ∀ m, n ≤ m → after m = after n) ∧
    (behavior = {} → ∀ n, (after n).stopped.isSome →
      ∀ e ∈ awaited, e.1 ∉ (after n).session.tracker.results) ∧
    ∀ n, (after n).stopped = none →
      let r := after n
      let r' := after (n + 1)
      let requests := Session.requests MemoryPlane.plane r.session.id
        (r.session.batches (visits n) r.waiter) r.plane
      (requests.map Prod.fst).flatten.Perm
        ((awaited.map Prod.fst).filter fun id => decide (id ∈ r.session.tracker.results)) ∧
      ∃ deliveries, r'.deliveries = r.deliveries ++ deliveries ∧
        ∀ batch ok, (batch, ok) ∈ requests → ∀ id ∈ batch,
          let final := ok = true ∧ (r.plane.result id).remaining = 0
          ∃ t, r.session.tracker.byResult.get? id = some t ∧
            r'.session.tracker.byResult.get? id = (if final then none else some t) ∧
            (deliveries.filter fun d => d.task = t.task).map Delivery.tracked =
              if final ∧ (f.plane.result id).settled ≠ .notFound then [t] else [] := by
  intro awaited after longest
  have ha := hf.sound.anchored hs
  have hw := Session.awaits_waiter ha.synced tasks
  have he : s.awaitedEntries (s.waiter tasks) = awaited := Session.awaitedEntries_waiter ha.synced tasks
  have hwaits (n : ℕ) : Session.Waits behavior options (s.waiter tasks) s f.plane (after n) :=
    Session.rounds_waits behavior options n visits ha hw
  refine ⟨?_, ?_, ?_⟩
  · have hstop := Session.isSome_stopped_rounds behavior
      (longest + 1 + (f.plane.failures .resultStatuses).length) visits ha hw ht (m := longest)
      (fun e hm => ?_) (by omega)
    · exact ⟨_, le_rfl, hstop, fun m hm =>
        Session.rounds_stable MemoryPlane.plane behavior options hm hstop⟩
    · rw [he] at hm
      have hle : (f.plane.result e.1).delay - (f.plane.result e.1).polls ≤ longest :=
        List.le_max_of_le (List.mem_map.mpr ⟨e, hm, rfl⟩) le_rfl
      rw [StoredResult.not_lasts_iff, StoredResult.remaining, if_neg (hp e hm), Nat.cast_lt]
      exact Nat.lt_succ_of_le hle
  · intro hall n hstop e hm htracked
    have hnil := (hwaits n).resolved hall ht hstop
    have hid : e.1 ∈ s.awaited (s.waiter tasks) := by
      rw [← he] at hm
      exact (Session.mem_awaitedEntries.mp hm).2
    have hstill := ((hwaits n).mem_awaited e.1).mpr ⟨hid, htracked⟩
    rw [hnil] at hstill
    cases hstill
  · intro n hgoing r r' requests
    have hr := hwaits n
    have hnext : r' = Session.proceed MemoryPlane.plane behavior options (visits n) r :=
      Session.rounds_succ MemoryPlane.plane behavior options n visits (s.waiter tasks) s f.plane
    obtain ⟨hsession, hdeliveries⟩ :=
      Session.proceed_of_going MemoryPlane.plane behavior options (visits n) hgoing
    rw [← hnext] at hsession hdeliveries
    refine ⟨?_, _, hdeliveries, fun batch ok hb id hid => ?_⟩
    · rw [Session.map_fst_requests, ← he]
      exact hr.batches_perm hw (visits n)
    · have hout := Session.round_requested behavior options hr.anchored hr.awaits hb hid
      simp only at hout
      rw [← hsession, hr.undisturbed.settled id] at hout
      exact hout

/-- Two tasks; the next status request and the next download are to fail. -/
def troubledFleet : Fleet := (start 1).run
  [.attach "a" {},
    .call 0 (.submit [⟨"one", [], []⟩, ⟨"two", [], []⟩] ⟨"h", false⟩ none) 0 fun _ => .listed,
    .failNext .resultStatuses (.internal "down"),
    .failNext .downloadResult (.internal "down")]

theorem wait_terminates_troubledFleet :
    ∃ s, troubledFleet.Reachable ∧ troubledFleet.sessions[0]? = some s ∧
      (∀ e ∈ s.entriesFor [], (troubledFleet.plane.result e.1).settled ≠ .pending) ∧
      let after n := s.wait MemoryPlane.plane n (fun _ => .listed) [] {} {} troubledFleet.plane
      (∃ n ≤ 3, (after n).stopped.isSome ∧ ∀ m, n ≤ m → after m = after n) ∧
        ∀ n, (after n).stopped.isSome →
          ∀ e ∈ s.entriesFor [], e.1 ∉ (after n).session.tracker.results := by
  have hsome : troubledFleet.sessions[0]?.isSome := by decide +kernel
  obtain ⟨s, hs⟩ := Option.isSome_iff_exists.mp hsome
  have hmem := List.mem_of_getElem? hs
  have hpending : ∀ s ∈ troubledFleet.sessions, ∀ e ∈ s.entriesFor [],
      (troubledFleet.plane.result e.1).settled ≠ .pending := by decide +kernel
  have hbound : ∀ s ∈ troubledFleet.sessions, ((s.entriesFor []).map fun e =>
      (troubledFleet.plane.result e.1).delay - (troubledFleet.plane.result e.1).polls).foldr max 0 +
        1 + (troubledFleet.plane.failures .resultStatuses).length = 3 := by decide +kernel
  have hf : troubledFleet.Reachable := ⟨1, _, rfl⟩
  obtain ⟨⟨n, hn, hstop⟩, hall, -⟩ :=
    wait_terminates hf hs [] {} {} rfl (fun _ => .listed) (hpending s hmem)
  exact ⟨s, hf, hs, hpending s hmem, ⟨n, hbound s hmem ▸ hn, hstop⟩, hall rfl⟩

end Fleet
end TaskGrid
