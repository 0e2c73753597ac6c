import TaskGrid.Proofs.Fleet.Conservation

/-! A session that was dropped is over for good: it tracks nothing and takes nothing, whatever is asked of it
later, of the other sessions, or of the plane. -/
namespace TaskGrid
namespace Session
open MemoryPlane

/-- The session was dropped, and tracks nothing. -/
structure Over (s : Session) : Prop where
  dropped : s.dropped = true
  tracker : s.tracker = {}

/-- The requests of a drop: the session is cancelled, and purged if that went well. -/
def dropCalls (s : Session) (p : MemoryPlane) : List (PlaneCall × String) :=
  (.cancelSession, s.id) :: match (s.cancel MemoryPlane.plane p).1 with
    | .ok () => [(.purgeSession, s.id)]
    | .error _ => []

section
variable {σ : Type} (plane : ControlPlane σ) {s : Session}

/-- The plane has no say in what becomes of a session that is dropped. -/
theorem session_drop (s : Session) (w : σ) :
    (s.drop plane w).session = { s with dropped := true, tracker := {} } := by
  unfold drop
  simp only
  split <;> rfl

theorem over_drop (s : Session) (w : σ) : (s.drop plane w).session.Over := by
  rw [session_drop]
  exact ⟨rfl, rfl⟩

theorem Over.pendingCount (h : s.Over) : s.pendingCount = 0 := by
  rw [Session.pendingCount, h.tracker]
  rfl

theorem Over.submit (h : s.Over) (requests : List Payload) (handler : Handler)
    (options : Option TaskOptions) (w : σ) :
    s.submit plane requests handler options w = ⟨.error (.sessionDropped s.id), s, w⟩ := if_pos h.dropped

theorem Over.awaited (h : s.Over) (tasks : List String) : s.awaited (s.waiter tasks) = [] := by
  have hnone : tasks.filterMap s.tracker.resultOf? = [] := by
    rw [h.tracker]
    exact List.filterMap_eq_nil_iff.mpr fun _ _ => rfl
  unfold Session.awaited waiter
  rw [hnone, h.tracker]
  split <;> rfl

theorem Over.wait (h : s.Over) (n : Nat) (visits : Nat → Visit) (tasks : List String)
    (behavior : WaitBehavior) (options : WaitOptions) (w : σ) :
    s.wait plane (n + 1) visits tasks behavior options w =
      ⟨[], [], some .nothingAwaited, s.waiter tasks, s, w⟩ :=
  rounds_of_nil plane behavior options n visits w (h.awaited tasks)

end

theorem calls_sessionCall (call : PlaneCall) (session : String) (p : MemoryPlane) :
    (sessionCall call session p).2.calls = p.calls ++ [(call, session)] := by
  simp only [sessionCall, recorded, record]
  cases p.failures call <;> rfl

/-- A session that is dropped is cancelled, and then purged if it was cancelled. -/
theorem calls_drop (s : Session) (p : MemoryPlane) :
    (s.drop MemoryPlane.plane p).plane.calls = p.calls ++ s.dropCalls p := by
  have hcancel := calls_sessionCall .cancelSession s.id p
  simp only [drop, dropCalls, cancel, MemoryPlane.plane]
  generalize sessionCall .cancelSession s.id p = reply at hcancel
  obtain ⟨_ | _, p'⟩ := reply
  · exact hcancel
  · have hpurge := calls_sessionCall .purgeSession s.id p'
    rw [hcancel, List.append_assoc] at hpurge
    exact hpurge

variable {s : Session}

/-- A call on a session that is over reaches no handler and brings no task, and leaves it over. -/
theorem Over.perform (h : s.Over) (limit : Nat) (visits : Nat → Visit) (p : MemoryPlane)
    (request : SessionRequest) :
    let r := s.perform MemoryPlane.plane limit visits p request
    (r.session.Over ∧ r.session.id = s.id) ∧ r.deliveries = [] ∧
      request.accepted (r.plane.submitted.drop p.submitted.length) = [] := by
  cases request with
  | submit requests handler options =>
    simp only [Session.perform, h.submit]
    refine ⟨⟨h, trivial⟩, trivial, ?_⟩
    rw [List.drop_length]
    rfl
  | wait tasks behavior options =>
    cases limit with
    | zero => exact ⟨⟨h, rfl⟩, rfl, rfl⟩
    | succ n =>
      simp only [Session.perform, h.wait]
      exact ⟨⟨h, trivial⟩, trivial, rfl⟩
  | drop =>
    refine ⟨⟨over_drop MemoryPlane.plane s p, ?_⟩, rfl, rfl⟩
    show (s.drop MemoryPlane.plane p).session.id = s.id
    rw [session_drop]
  | cleanup | close | cancel | purge | info => exact ⟨⟨h, rfl⟩, rfl, rfl⟩

end Session

namespace Fleet
open MemoryPlane
variable {f : Fleet} {i : Nat} {id : String} {l : Ledger}

/-- A session is over, and nothing was brought by it or told to it that is not in a ledger. -/
structure Over (f : Fleet) (i : Nat) (id : String) (l : Ledger) : Prop where
  session : ∃ s, f.sessions[i]? = some s ∧ s.Over ∧ s.id = id
  accepted : Ledger.share i f.ledger.accepted = Ledger.share i l.accepted
  delivered : Ledger.share i f.ledger.delivered = Ledger.share i l.delivered

/-- A call of session `i`, which is over after it, that reaches no handler and brings no task. -/
theorem over_call {s : Session} (hs : f.sessions[i]? = some s) {request : SessionRequest} {limit : Nat}
    {visits : Nat → Visit}
    (h : let r := s.perform MemoryPlane.plane limit visits f.plane request
      (r.session.Over ∧ r.session.id = s.id) ∧ r.deliveries = [] ∧
        request.accepted (r.plane.submitted.drop f.plane.submitted.length) = []) :
    (f.call i request limit visits).Over i s.id f.ledger := by
  obtain ⟨hlt, -⟩ := List.getElem?_eq_some_iff.mp hs
  obtain ⟨hover, hdeliveries, haccepted⟩ := h
  simp only [Fleet.call, hs]
  refine ⟨⟨_, List.getElem?_set_self hlt, hover⟩, ?_, ?_⟩
  · simp [Ledger.note, haccepted]
  · simp [Ledger.note, hdeliveries]

theorem Over.call (h : f.Over i id l) (j : Nat) (request : SessionRequest) (limit : Nat)
    (visits : Nat → Visit) : (f.call j request limit visits).Over i id l := by
  obtain ⟨s, hs, hover, rfl⟩ := h.session
  by_cases e : j = i
  · subst e
    have hc := over_call hs (hover.perform limit visits f.plane request)
    exact ⟨hc.session, hc.accepted.trans h.accepted, hc.delivered.trans h.delivered⟩
  · unfold Fleet.call
    split
    · exact h
    · refine ⟨⟨s, ?_, hover, rfl⟩, ?_, ?_⟩
      · exact (List.getElem?_set_ne e).trans hs
      · simpa [Ledger.note, Ledger.share_map_of_ne e] using h.accepted
      · simpa [Ledger.note, Ledger.share_map_of_ne e] using h.delivered

theorem Over.addSession (h : f.Over i id l) (s : Session) :
    Over { f with sessions := f.sessions ++ [s] } i id l := by
  obtain ⟨s', hs, hover⟩ := h.session
  obtain ⟨hlt, -⟩ := List.getElem?_eq_some_iff.mp hs
  exact ⟨⟨s', (List.getElem?_append_left hlt).trans hs, hover⟩, h.accepted, h.delivered⟩

/-- What is over stays over. -/
theorem Over.step (h : f.Over i id l) (step : FleetStep) : (f.step step).Over i id l := by
  cases step with
  | create properties =>
    obtain ⟨p, -, he | ⟨s, -, he⟩⟩ := create_cases f properties
    · exact he ▸ ⟨h.session, h.accepted, h.delivered⟩
    · have hp : Over { f with plane := p } i id l := ⟨h.session, h.accepted, h.delivered⟩
      exact he ▸ hp.addSession s
  | attach id properties =>
    simp only [Fleet.step]
    split
    · next s hs => exact h.addSession s
    · exact h
  | call j request limit visits => exact h.call j request limit visits
  | setFate | setResponder | failNext => exact ⟨h.session, h.accepted, h.delivered⟩

theorem Over.run (h : f.Over i id l) (steps : List FleetStep) : (f.run steps).Over i id l := by
  induction steps generalizing f with
  | nil => exact h
  | cons step r ih => exact ih (h.step step)

theorem over_drop {s : Session} (hs : f.sessions[i]? = some s) (limit : Nat) (visits : Nat → Visit) :
    (f.call i .drop limit visits).Over i s.id f.ledger := by
  have hd := Session.session_drop MemoryPlane.plane s f.plane
  refine over_call hs ⟨⟨Session.over_drop MemoryPlane.plane s f.plane, ?_⟩, rfl, rfl⟩
  show (s.drop MemoryPlane.plane f.plane).session.id = s.id
  rw [hd]

theorem map_share {α : Type} (i : Nat) (l : List (Nat × α)) :
    (Ledger.share i l).map (fun x => (i, x)) = l.filter (·.1 = i) := by
  rw [Ledger.share, List.map_map]
  refine (List.map_congr_left fun e he => ?_).trans (List.map_id _)
  have hi : e.1 = i := of_decide_eq_true (List.mem_filter.mp he).2
  exact Prod.ext hi.symm rfl

/-- The callbacks for a task, read off what its session was told. -/
theorem Sound.callbacks_eq_share (h : f.Sound) {t : Tracked} (ht : (i, t) ∈ f.ledger.accepted) :
    f.callbacks t.task =
      ((Ledger.share i f.ledger.delivered).map fun d => (i, d)).filter (·.2.tracked = t) := by
  rw [h.callbacks_eq ht, map_share, List.filter_filter]
  exact List.filter_congr fun e _ => Bool.and_comm ..

/-- No one was told of a task that is still tracked. -/
theorem Sound.callbacks_of_tracked (h : f.Sound) {t : Tracked} (ht : t ∈ f.tracked i) :
    (i, t) ∈ f.ledger.accepted ∧ f.callbacks t.task = [] := by
  have ha : (i, t) ∈ f.ledger.accepted :=
    Ledger.mem_share.mp ((h.conserved i).mem_iff.mpr (List.mem_append_left _ ht))
  have hc := h.count_places ha
  have hl := h.length_callbacks ha
  have hpos := List.count_pos_iff.mpr ht
  exact ⟨ha, List.length_eq_zero_iff.mp (by omega)⟩

/-- Dropping a session is final, whether or not the plane agrees: nothing is pending then, and whatever
happens later, no handler of its tasks is called again, those of the tasks that were pending not at all. The
session takes no submission and waits for nothing, without a request to the plane. Every drop, also a
repeated one, asks for the session to be cancelled, and then to be purged if it was cancelled. -/
theorem drop_final (hf : f.Reachable) {s : Session} (hs : f.sessions[i]? = some s) (limit : Nat)
    (visits : Nat → Visit) (steps : List FleetStep) :
    let dropped := f.step (.call i .drop limit visits)
    let g := dropped.run steps
    (∃ s', dropped.sessions[i]? = some s' ∧ s'.pendingCount = 0) ∧
      dropped.plane.calls = f.plane.calls ++ s.dropCalls f.plane ∧
      (∀ t, (i, t) ∈ g.ledger.accepted → g.callbacks t.task = f.callbacks t.task) ∧
      (∀ t ∈ s.tracker.byResult.values, g.callbacks t.task = []) ∧
      ∃ s', g.sessions[i]? = some s' ∧ s'.id = s.id ∧ s'.pendingCount = 0 ∧
        (∀ requests handler options, s'.submit MemoryPlane.plane requests handler options g.plane =
          ⟨.error (.sessionDropped s.id), s', g.plane⟩) ∧
        (∀ n visits tasks behavior options,
          s'.wait MemoryPlane.plane (n + 1) visits tasks behavior options g.plane =
            ⟨[], [], some .nothingAwaited, s'.waiter tasks, s', g.plane⟩) ∧
        ∀ limit visits, (g.step (.call i .drop limit visits)).plane.calls =
          g.plane.calls ++ s'.dropCalls g.plane := by
  intro dropped g
  have hdropped : dropped.Over i s.id f.ledger := over_drop hs limit visits
  have hg : g.Over i s.id f.ledger := hdropped.run steps
  have hsound : g.Sound := (hf.sound.step _).run steps
  have hcalls {f : Fleet} {s : Session} (hs : f.sessions[i]? = some s) (limit : Nat)
      (visits : Nat → Visit) : (f.step (.call i .drop limit visits)).plane.calls =
        f.plane.calls ++ s.dropCalls f.plane := by
    simp only [Fleet.step, Fleet.call, hs]
    exact s.calls_drop f.plane
  have hcallbacks (t : Tracked) (ht : (i, t) ∈ g.ledger.accepted) :
      g.callbacks t.task = f.callbacks t.task := by
    have hbefore : (i, t) ∈ f.ledger.accepted := by
      rw [← Ledger.mem_share, hg.accepted] at ht
      exact Ledger.mem_share.mp ht
    rw [hsound.callbacks_eq_share ht, hf.sound.callbacks_eq_share hbefore, hg.delivered]
  refine ⟨?_, hcalls hs limit visits, hcallbacks, fun t ht => ?_, ?_⟩
  · obtain ⟨s', hs', hover, -⟩ := hdropped.session
    exact ⟨s', hs', hover.pendingCount⟩
  · obtain ⟨ha, hnone⟩ := hf.sound.callbacks_of_tracked (tracked_of_getElem? hs ▸ ht)
    have hlater : (i, t) ∈ g.ledger.accepted := by
      rw [← Ledger.mem_share, hg.accepted]
      exact Ledger.mem_share.mpr ha
    rw [hcallbacks t hlater, hnone]
  · obtain ⟨s', hs', hover, hid⟩ := hg.session
    refine ⟨s', hs', hid, hover.pendingCount, fun requests handler options => ?_,
      fun n visits tasks behavior options => ?_, hcalls hs'⟩
    · rw [hover.submit, hid]
    · exact hover.wait MemoryPlane.plane n visits tasks behavior options g.plane

/-- One task was delivered and one is pending, and the next request to cancel is to fail. -/
def doomedFleet : Fleet := (start 0).run
  [.attach "a" {},
    .call 0 (.submit [⟨"one", [], []⟩] ⟨"h", false⟩ none) 0 fun _ => .listed,
    .call 0 (.wait [] {} {}) 1 fun _ => .listed,
    .call 0 (.submit [⟨"two", [], []⟩] ⟨"k", false⟩ none) 0 fun _ => .listed,
    .failNext .cancelSession (.internal "down")]

theorem drop_final_doomedFleet :
    let later : List FleetStep := [.call 0 (.submit [] ⟨"k", false⟩ none) 0 fun _ => .listed,
      .call 0 (.wait ["t2"] {} {}) 5 fun _ => .listed]
    let dropped := doomedFleet.step (.call 0 .drop 0 fun _ => .listed)
    let g := dropped.run later
    (∃ s', dropped.sessions[0]? = some s' ∧ s'.pendingCount = 0) ∧
      dropped.plane.calls = doomedFleet.plane.calls ++ [(.cancelSession, "a")] ∧
      (doomedFleet.callbacks "t1" ≠ [] ∧ g.callbacks "t1" = doomedFleet.callbacks "t1" ∧
        g.callbacks "t2" = []) ∧
      (g.step (.call 0 .drop 0 fun _ => .listed)).plane.calls =
        g.plane.calls ++ [(.cancelSession, "a"), (.purgeSession, "a")] := by
  intro later dropped g
  have hf : doomedFleet.Reachable := ⟨0, _, rfl⟩
  have hsome : doomedFleet.sessions[0]?.isSome := by decide +kernel
  obtain ⟨s, hs⟩ := Option.isSome_iff_exists.mp hsome
  have hpending : ∀ s ∈ doomedFleet.sessions, ⟨"t2", ⟨"k", false⟩⟩ ∈ s.tracker.byResult.values ∧
      s.dropCalls doomedFleet.plane = [(.cancelSession, "a")] := by decide +kernel
  have hrepeated : ∀ s ∈ g.sessions,
      s.dropCalls g.plane = [(.cancelSession, "a"), (.purgeSession, "a")] := by decide +kernel
  have ht1 : (0, (⟨"t1", ⟨"h", false⟩⟩ : Tracked)) ∈ g.ledger.accepted := by decide +kernel
  have htold : doomedFleet.callbacks "t1" ≠ [] := by decide +kernel
  obtain ⟨ht2, hcancel⟩ := hpending s (List.mem_of_getElem? hs)
  obtain ⟨hnone, hcalls, hcallbacks, hnever, s', hs', -, -, -, -, hagain⟩ :=
    drop_final hf hs 0 (fun _ => .listed) later
  rw [hcancel] at hcalls
  have hpurged := hagain 0 fun _ => .listed
  rw [hrepeated s' (List.mem_of_getElem? hs')] at hpurged
  exact ⟨hnone, hcalls, ⟨htold, hcallbacks _ ht1, hnever _ ht2⟩, hpurged⟩

end Fleet
end TaskGrid
