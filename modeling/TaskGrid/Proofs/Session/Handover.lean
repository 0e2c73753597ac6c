import TaskGrid.Proofs.Session.Tracker
import TaskGrid.Session.Wait

/-! What a wait takes from the tracker is delivered or discarded, over any control plane and in any
order. A session changes by a wait in its tracker alone. -/
namespace TaskGrid

/-- Whose outcome a callback reported, and to whom. -/
def Delivery.tracked (d : Delivery) : Tracked := ⟨d.task, d.handler⟩

namespace Tracker.Claim

/-- What a claim passes on to a handler. -/
def delivered? (c : Claim) : Option Tracked := if c.status = .notFound then none else c.tracked

/-- What a claim takes without telling anyone: the control plane does not know the result. -/
def discarded? (c : Claim) : Option Tracked := if c.status = .notFound then c.tracked else none

theorem tracked_perm (claims : List Claim) :
    (claims.filterMap tracked).Perm
      (claims.filterMap delivered? ++ claims.filterMap discarded?) := by
  induction claims with
  | nil => exact .refl _
  | cons c r ih =>
    cases ht : c.tracked with
    | none => simpa [ht, delivered?, discarded?] using ih
    | some x =>
      by_cases hs : c.status = .notFound
      · simpa [ht, delivered?, discarded?, hs] using (ih.cons x).trans List.perm_middle.symm
      · simpa [ht, delivered?, discarded?, hs] using ih.cons x

theorem map_snd_held? (claims : List Claim) :
    (claims.filterMap held?).map Prod.snd = claims.filterMap tracked := by
  rw [List.map_filterMap]
  refine congrArg (fun g => claims.filterMap g) (funext fun c => ?_)
  simp [held?, Function.comp_def]

end Tracker.Claim

namespace Session
variable {σ : Type} (plane : ControlPlane σ)

theorem outcome?_eq_none_iff (session result : String) (status : ResultStatus) (w : σ) :
    (outcome? plane session result status w).1 = none ↔ status = .notFound := by
  unfold outcome?
  cases status <;> simp only [reduceCtorEq, iff_false] <;> split <;> simp

/-- The callbacks of a round are those its claims call for, in the order of the claims. -/
theorem map_tracked_dispatchAll (session : String) (claims : List Tracker.Claim) (w : σ) :
    (dispatchAll plane session claims w).1.map Delivery.tracked =
      claims.filterMap Tracker.Claim.delivered? := by
  induction claims generalizing w with
  | nil => rfl
  | cons c r ih =>
    obtain ⟨result, status, tracked⟩ := c
    cases tracked with
    | none => simpa [dispatchAll, Tracker.Claim.delivered?] using ih w
    | some t =>
      have hn := outcome?_eq_none_iff plane session result status w
      simp only [dispatchAll, dispatch]
      generalize outcome? plane session result status w = o at hn
      obtain ⟨_ | o, w'⟩ := o
      · have hs : status = .notFound := hn.mp rfl
        simp [ih, Tracker.Claim.delivered?, hs]
      · have hs : status ≠ .notFound := fun e => by cases hn.mpr e
        simp [ih, Tracker.Claim.delivered?, hs, Delivery.tracked]

variable (behavior : WaitBehavior) (options : WaitOptions)

theorem round_of_nil (visit : Visit) {waiter : Waiter} {s : Session} (w : σ)
    (h : s.awaited waiter = []) :
    round plane behavior options visit waiter s w =
      ⟨[], [], some .nothingAwaited, waiter, s, w⟩ := by
  simp [round, h]

theorem awaited_ne_nil_of_going {visit : Visit} {waiter : Waiter} {s : Session} {w : σ}
    (h : (round plane behavior options visit waiter s w).stopped = none) : s.awaited waiter ≠ [] := by
  intro hnil
  rw [round_of_nil plane behavior options visit w hnil] at h
  cases h

/-- The parts of a round that awaits something, by name. -/
theorem round_of_ne_nil (visit : Visit) {waiter : Waiter} {s : Session} (w : σ)
    (h : s.awaited waiter ≠ []) :
    round plane behavior options visit waiter s w =
      let polled := s.poll plane (visit.arrange (s.awaited waiter)) w
      let claimed := s.tracker.claim (visit.arrange polled.1.entries)
      let sent := dispatchAll plane s.id claimed.2 polled.2
      let s' := { s with tracker := claimed.1 }
      ⟨claimed.2, sent.1, s'.verdict behavior options (settle waiter claimed.2) sent.2.1,
        settle waiter claimed.2, s', sent.2.2⟩ := by
  simp [round, h]

theorem rounds_of_stopped {n : Nat} {visits : Nat → Visit} {waiter : Waiter} {s : Session} {w : σ}
    {reason : StopReason}
    (h : (round plane behavior options (visits 0) waiter s w).stopped = some reason) :
    rounds plane behavior options (n + 1) visits waiter s w =
      round plane behavior options (visits 0) waiter s w := by
  simp only [rounds, h]

/-- Without anything awaited a wait does nothing. -/
theorem rounds_of_nil (n : Nat) (visits : Nat → Visit) {waiter : Waiter} {s : Session} (w : σ)
    (h : s.awaited waiter = []) :
    rounds plane behavior options (n + 1) visits waiter s w =
      ⟨[], [], some .nothingAwaited, waiter, s, w⟩ := by
  have hround := round_of_nil plane behavior options (visits 0) w h
  rw [rounds_of_stopped plane behavior options (congrArg WaitResult.stopped hround), hround]

/-- A round that goes on, and then the rounds after it. -/
theorem rounds_of_going {n : Nat} {visits : Nat → Visit} {waiter : Waiter} {s : Session} {w : σ}
    (h : (round plane behavior options (visits 0) waiter s w).stopped = none) :
    rounds plane behavior options (n + 1) visits waiter s w =
      let r := round plane behavior options (visits 0) waiter s w
      let r' := rounds plane behavior options n (fun i => visits (i + 1))
        (r.waiter.paused options.polling) r.session r.plane
      { r' with claims := r.claims ++ r'.claims, deliveries := r.deliveries ++ r'.deliveries } := by
  simp only [rounds, h]

def proceed (visit : Visit) (r : WaitResult σ) : WaitResult σ :=
  match r.stopped with
  | some _ => r
  | none =>
    let r' := round plane behavior options visit r.waiter r.session r.plane
    { r' with
      claims := r.claims ++ r'.claims
      deliveries := r.deliveries ++ r'.deliveries
      waiter := if r'.stopped.isSome then r'.waiter else r'.waiter.paused options.polling }

theorem proceed_of_going (visit : Visit) {r : WaitResult σ} (h : r.stopped = none) :
    (proceed plane behavior options visit r).session =
        (round plane behavior options visit r.waiter r.session r.plane).session ∧
      (proceed plane behavior options visit r).deliveries = r.deliveries ++
        (round plane behavior options visit r.waiter r.session r.plane).deliveries := by
  simp [proceed, h]

/-- Rounds are also counted from the last. -/
theorem rounds_succ (n : Nat) (visits : Nat → Visit) (waiter : Waiter) (s : Session) (w : σ) :
    rounds plane behavior options (n + 1) visits waiter s w =
      proceed plane behavior options (visits n) (rounds plane behavior options n visits waiter s w) := by
  induction n generalizing visits waiter s w with
  | zero =>
    cases h : (round plane behavior options (visits 0) waiter s w).stopped with
    | some reason =>
      rw [rounds_of_stopped plane behavior options h]
      simp only [rounds, proceed, h, Option.isSome_some, if_true, List.nil_append]
      rw [← h]
    | none =>
      rw [rounds_of_going plane behavior options h]
      simp [rounds, proceed, h]
  | succ n ih =>
    cases h : (round plane behavior options (visits 0) waiter s w).stopped with
    | some reason =>
      rw [rounds_of_stopped plane behavior options h, rounds_of_stopped plane behavior options h]
      simp [proceed, h]
    | none =>
      rw [rounds_of_going plane behavior options h, rounds_of_going plane behavior options h]
      simp only [ih]
      generalize rounds plane behavior options n (fun i => visits (i + 1)) _ _ _ = r
      cases hr : r.stopped with
      | some reason => simp [proceed, hr]
      | none => simp [proceed, hr]

/-- Once a waiter has stopped it stays so. -/
theorem rounds_stable {m n : Nat} (hmn : m ≤ n) {visits : Nat → Visit} {waiter : Waiter} {s : Session}
    {w : σ} (h : (rounds plane behavior options m visits waiter s w).stopped.isSome) :
    rounds plane behavior options n visits waiter s w =
      rounds plane behavior options m visits waiter s w := by
  induction hmn with
  | refl => rfl
  | step _ ih =>
    obtain ⟨reason, hr⟩ := Option.isSome_iff_exists.mp h
    rw [rounds_succ, ih]
    simp [proceed, hr]

/-- What a wait, or a part of one, passes on. -/
structure Hands (s : Session) (r : WaitResult σ) : Prop where
  entries : s.tracker.byResult.entries.Perm
    (r.claims.filterMap Tracker.Claim.held? ++ r.session.tracker.byResult.entries)
  deliveries : r.deliveries.map Delivery.tracked = r.claims.filterMap Tracker.Claim.delivered?
  session : ∃ l, r.session = { s with tracker := (s.tracker.claim l).1 }

/-- All that was tracked is delivered, discarded or still tracked. -/
theorem Hands.conserved {s : Session} {r : WaitResult σ} (h : Hands s r) :
    s.tracker.byResult.values.Perm (r.deliveries.map Delivery.tracked ++
      r.claims.filterMap Tracker.Claim.discarded? ++ r.session.tracker.byResult.values) := by
  have hv := h.entries.map Prod.snd
  rw [List.map_append, Tracker.Claim.map_snd_held?] at hv
  rw [h.deliveries]
  exact hv.trans ((Tracker.Claim.tracked_perm _).append_right _)

/-- What was claimed of a result: its entry, if it is not tracked any more. -/
theorem Hands.filter_held {s : Session} {r : WaitResult σ} (h : Hands s r) (result : String) :
    (r.claims.filterMap Tracker.Claim.held?).filter (·.1 = result) =
      if result ∈ r.session.tracker.results then []
      else ((s.tracker.byResult.get? result).map fun t => (result, t)).toList := by
  have hp := h.entries.filter fun e => decide (e.1 = result)
  rw [List.filter_append, Table.filter_entries, Table.filter_entries] at hp
  cases ha : r.session.tracker.byResult.get? result with
  | none =>
    have hm : result ∉ r.session.tracker.results := Table.get?_eq_none_iff.mp ha
    rw [ha] at hp
    rw [if_neg hm]
    cases hb : s.tracker.byResult.get? result with
    | none => simpa [hb] using hp
    | some t => simpa [hb] using hp.symm
  | some t =>
    have hm : result ∈ r.session.tracker.results := Table.mem_keys_iff.mpr ⟨t, ha⟩
    have hl := hp.length_eq
    rw [if_pos hm]
    rw [ha, List.length_append] at hl
    have hle : ((s.tracker.byResult.get? result).map fun t => (result, t)).toList.length ≤ 1 := by
      cases s.tracker.byResult.get? result <;> simp
    simp only [Option.map_some, Option.toList_some, List.length_singleton] at hl
    exact List.length_eq_zero_iff.mp (by omega)

theorem Hands.mem_results {s : Session} {r : WaitResult σ} (h : Hands s r) {id : String}
    (hr : id ∈ r.session.tracker.results) : id ∈ s.tracker.results := by
  obtain ⟨e, he, rfl⟩ := List.mem_map.mp hr
  exact List.mem_map_of_mem (h.entries.mem_iff.mpr (List.mem_append_right _ he))

/-- What is reported was tracked and is not any more. -/
theorem Hands.mem_delivered {s : Session} {r : WaitResult σ} (h : Hands s r) {d : Delivery}
    (hd : d ∈ r.deliveries) : ∃ id, (id, d.tracked) ∈ s.tracker.byResult.entries ∧
      (id, d.tracked) ∉ r.session.tracker.byResult.entries := by
  have hm : d.tracked ∈ r.claims.filterMap Tracker.Claim.delivered? := by
    rw [← h.deliveries]
    exact List.mem_map_of_mem hd
  obtain ⟨c, hc, hdel⟩ := List.mem_filterMap.mp hm
  have ht : c.tracked = some d.tracked := by
    unfold Tracker.Claim.delivered? at hdel
    split at hdel
    · cases hdel
    · exact hdel
  have hheld : (c.result, d.tracked) ∈ r.claims.filterMap Tracker.Claim.held? := by
    refine List.mem_filterMap.mpr ⟨c, hc, ?_⟩
    rw [Tracker.Claim.held?, ht]
    rfl
  have hnodup : s.tracker.byResult.entries.Nodup :=
    List.Pairwise.of_map Prod.fst (fun _ _ hne e => hne (congrArg Prod.fst e))
      s.tracker.byResult.distinct
  refine ⟨c.result, h.entries.mem_iff.mpr (List.mem_append_left _ hheld), fun hr => ?_⟩
  exact (List.nodup_append.mp (h.entries.nodup_iff.mp hnodup)).2.2 _ hheld _ hr rfl

theorem hands_round (visit : Visit) (waiter : Waiter) (s : Session) (w : σ) :
    Hands s (round plane behavior options visit waiter s w) := by
  by_cases h : s.awaited waiter = []
  · rw [round_of_nil plane behavior options visit w h]
    exact ⟨by simp, rfl, [], rfl⟩
  · rw [round_of_ne_nil plane behavior options visit w h]
    exact ⟨Tracker.entries_perm_claim _ _, map_tracked_dispatchAll _ _ _ _, _, rfl⟩

variable {plane behavior options}

theorem Hands.trans {s : Session} {r r' : WaitResult σ} (h : Hands s r) (h' : Hands r.session r') :
    Hands s { r' with claims := r.claims ++ r'.claims, deliveries := r.deliveries ++ r'.deliveries } := by
  obtain ⟨l, hl⟩ := h.session
  obtain ⟨l', hl'⟩ := h'.session
  refine ⟨?_, ?_, l ++ l', by rw [hl', hl, Tracker.claim_append]⟩
  · rw [List.filterMap_append, List.append_assoc]
    exact h.entries.trans (h'.entries.append_left _)
  · rw [List.map_append, List.filterMap_append, h.deliveries, h'.deliveries]

variable (plane behavior options)

theorem hands_rounds (n : Nat) (visits : Nat → Visit) (waiter : Waiter) (s : Session) (w : σ) :
    Hands s (rounds plane behavior options n visits waiter s w) := by
  induction n generalizing visits waiter s w with
  | zero => exact ⟨by simp [rounds], rfl, [], rfl⟩
  | succ n ih =>
    have h := hands_round plane behavior options (visits 0) waiter s w
    simp only [rounds]
    split
    · exact h
    · exact h.trans (ih _ _ _ _)

variable {plane behavior options}

/-- A relation between states of a control plane that downloads keep. -/
structure Fetched (plane : ControlPlane σ) (R : σ → σ → Prop) : Prop where
  refl : ∀ w, R w w
  trans : ∀ {a b c}, R a b → R b c → R a c
  download : ∀ session id w, R w (plane.downloadResult session id w).2

/-- A relation that all calls of a wait keep. -/
structure Keeps (plane : ControlPlane σ) (R : σ → σ → Prop) : Prop extends Fetched plane R where
  statuses : ∀ session ids w, R w (plane.resultStatuses session ids w).2

section
variable {R : σ → σ → Prop}

theorem Fetched.outcome? (k : Fetched plane R) (session result : String) (status : ResultStatus)
    (w : σ) : R w (outcome? plane session result status w).2 := by
  have h := k.download session result w
  unfold Session.outcome?
  split
  · exact k.refl w
  · exact k.refl w
  all_goals split <;> next e => rw [e] at h; exact h

theorem Fetched.dispatchAll (k : Fetched plane R) (session : String) (claims : List Tracker.Claim)
    (w : σ) : R w (dispatchAll plane session claims w).2.2 := by
  induction claims generalizing w with
  | nil => exact k.refl w
  | cons c r ih =>
    obtain ⟨result, status, _ | t⟩ := c
    · exact ih w
    · have h := k.outcome? session result status w
      simp only [Session.dispatchAll, dispatch]
      generalize Session.outcome? plane session result status w = o at h
      obtain ⟨_ | o, w'⟩ := o <;> exact k.trans h (ih w')

theorem Keeps.pollBatches (k : Keeps plane R) (session : String) (batches : List (List String))
    (st : Table String ResultStatus) (w : σ) :
    R w (pollBatches plane session batches st w).2 := by
  induction batches generalizing st w with
  | nil => exact k.refl w
  | cons b r ih =>
    have h := k.statuses session b w
    simp only [Session.pollBatches]
    split <;> next e => rw [e] at h; exact k.trans h (ih _ _)

theorem Keeps.round (k : Keeps plane R) (visit : Visit) (waiter : Waiter) (s : Session) (w : σ) :
    R w (round plane behavior options visit waiter s w).plane := by
  by_cases h : s.awaited waiter = []
  · rw [round_of_nil plane behavior options visit w h]
    exact k.refl w
  · rw [round_of_ne_nil plane behavior options visit w h]
    exact k.trans (k.pollBatches _ _ _ _) (k.dispatchAll _ _ _)

theorem Keeps.rounds (k : Keeps plane R) (n : Nat) (visits : Nat → Visit) (waiter : Waiter)
    (s : Session) (w : σ) : R w (rounds plane behavior options n visits waiter s w).plane := by
  induction n generalizing visits waiter s w with
  | zero => exact k.refl w
  | succ n ih =>
    simp only [Session.rounds]
    split
    · exact k.round _ _ _ _
    · exact k.trans (k.round _ _ _ _) (ih _ _ _ _)

end
end Session
end TaskGrid
