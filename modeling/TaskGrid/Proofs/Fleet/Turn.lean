import TaskGrid.Proofs.Fleet.Basic
import TaskGrid.Proofs.Session.Custody

/-! What one call on a session does to the tasks in its custody, whatever the call is. -/
namespace TaskGrid
namespace Fleet
open MemoryPlane

/-- What a call leaves behind: no task is lost and none is made up. -/
structure Turn (request : SessionRequest) (s : Session) (p : MemoryPlane) (r : Performed MemoryPlane)
    (records : List SubmittedRecord) : Prop where
  submitted : r.plane.submitted = p.submitted ++ records
  numbered : records.map SubmittedRecord.task =
    (List.range' (p.submitted.length + 1) records.length).map taskId
  accounted : (request.accepted records).map Tracked.task = records.map SubmittedRecord.task
  grows : Grows p r.plane
  deletes : ∃ ids, Deletes ids p r.plane
  anchored : r.session.Anchored r.plane
  brought : ∀ {id e}, r.session.tracker.byResult.get? id = some e →
    s.tracker.byResult.get? id = some e ∨ (p.result id).owner = none
  conserved : (s.tracker.byResult.values ++ request.accepted records).Perm
    (r.session.tracker.byResult.values ++ (r.deliveries.map Delivery.tracked ++
      r.claims.filterMap Tracker.Claim.discarded? ++ request.forgotten s))

variable {s : Session} {p : MemoryPlane}

/-- A call that takes nothing from the tracker and brings nothing to it. -/
theorem turn_unchanged {request : SessionRequest} (call : Call MemoryPlane Unit)
    (ha : request.accepted [] = []) (hf : request.forgotten s = []) (hs : s.Anchored p)
    (grows : Grows p (call p).2) (submitted : (call p).2.submitted = p.submitted)
    (deletes : ∃ ids, Deletes ids p (call p).2) : Turn request s p (s.unchanged call p) [] where
  submitted := by simp [Session.unchanged, submitted]
  numbered := rfl
  accounted := by simp [ha]
  grows := grows
  deletes := deletes
  anchored := hs.grows grows
  brought he := .inl he
  conserved := by simp [Session.unchanged, ha, hf]

theorem turn_undisturbed {request : SessionRequest} (call : Call MemoryPlane Unit)
    (ha : request.accepted [] = []) (hf : request.forgotten s = []) (hs : s.Anchored p)
    (h : Undisturbed p (call p).2) : Turn request s p (s.unchanged call p) [] :=
  turn_unchanged call ha hf hs h.grows h.submitted ⟨[], h.deletes⟩

theorem turn_submit (hp : p.Sound) (hs : s.Anchored p) (requests : List Payload) (handler : Handler)
    (options : Option TaskOptions) (limit : Nat) (visits : Nat → Visit) :
    ∃ records, Turn (.submit requests handler options) s p
      (s.perform MemoryPlane.plane limit visits p (.submit requests handler options)) records := by
  obtain ⟨taken, h⟩ := Session.submit_submits handler s requests options p
  have ht := h.takes
  obtain ⟨-, hent⟩ := ht.track hp hs
  refine ⟨taken.map (Taken.record s.id (some (options.getD s.options))), ?_⟩
  constructor
  case submitted => exact ht.submitted
  case numbered =>
    have hn := ht.numbered.map_task
    simpa [Taken.record, Function.comp_def] using hn
  case accounted => simp [SessionRequest.accepted, Function.comp_def]
  case grows => exact ht.grows hp
  case deletes => exact ⟨[], ht.deletes hp⟩
  case anchored => exact ht.anchored hp hs
  case brought =>
    intro id e he
    rcases ht.get?_cases hp hs he with he | ⟨t, hm, rfl, -⟩
    · exact .inl he
    · exact .inr (ht.owner_eq_none hp hm)
  case conserved =>
    simp [Session.perform, Table.values, hent, SessionRequest.accepted, SessionRequest.forgotten,
      Session.entriesOf, Taken.record, Function.comp_def]

theorem turn_wait (hs : s.Anchored p) (tasks : List String) (behavior : WaitBehavior)
    (options : WaitOptions) (limit : Nat) (visits : Nat → Visit) :
    Turn (.wait tasks behavior options) s p
      (s.perform MemoryPlane.plane limit visits p (.wait tasks behavior options)) [] := by
  have hk : Undisturbed p (s.wait MemoryPlane.plane limit visits tasks behavior options p).plane :=
    keeps_undisturbed.rounds limit visits (s.waiter tasks) s p
  have hh : s.Hands (s.wait MemoryPlane.plane limit visits tasks behavior options p) :=
    Session.hands_rounds MemoryPlane.plane behavior options limit visits (s.waiter tasks) s p
  obtain ⟨l, hl⟩ := hh.session
  constructor
  case submitted => exact hk.submitted.trans (List.append_nil _).symm
  case numbered => rfl
  case accounted => rfl
  case grows => exact hk.grows
  case deletes => exact ⟨[], hk.deletes⟩
  case anchored => exact (hs.claim hl).grows hk.grows
  case brought =>
    intro id e he
    have ht : (s.wait MemoryPlane.plane limit visits tasks behavior options p).session.tracker =
        (s.tracker.claim l).1 := by rw [hl]
    exact .inl (Tracker.get?_of_get?_claim (ht ▸ he))
  case conserved =>
    simp only [SessionRequest.accepted, SessionRequest.forgotten, List.append_nil]
    exact hh.conserved.trans List.perm_append_comm

theorem turn_cleanup (hp : p.Sound) (hs : s.Anchored p) (tasks : List String) (limit : Nat)
    (visits : Nat → Visit) :
    Turn (.cleanup tasks) s p (s.perform MemoryPlane.plane limit visits p (.cleanup tasks)) [] := by
  obtain ⟨ids, p', hu, hc⟩ := Session.exists_cleanup s (visits 0) tasks hp
  refine turn_unchanged _ rfl rfl hs (hu.grows.trans hc.grows) (hc.submitted.trans hu.submitted) ?_
  refine ⟨ids, hc.log.trans (by rw [hu.deleted]), fun {id} _ => ?_⟩
  rw [hc.deletes.fates (hc.owner id), hu.fate]

theorem turn_drop (limit : Nat) (visits : Nat → Visit) :
    Turn .drop s p (s.perform MemoryPlane.plane limit visits p .drop) [] := by
  have hu : Undisturbed p (s.drop MemoryPlane.plane p).plane := by
    have h1 := undisturbed_sessionCall .cancelSession s.id p
    simp only [Session.drop, MemoryPlane.plane]
    generalize sessionCall .cancelSession s.id p = reply at h1
    obtain ⟨_ | _, p'⟩ := reply
    · exact h1
    · exact h1.trans (undisturbed_sessionCall .purgeSession s.id p')
  have ht : (s.drop MemoryPlane.plane p).session.tracker = {} := by
    unfold Session.drop
    simp only
    split <;> rfl
  constructor
  case submitted => exact hu.submitted.trans (List.append_nil _).symm
  case numbered => rfl
  case accounted => rfl
  case grows => exact hu.grows
  case deletes => exact ⟨[], hu.deletes⟩
  case anchored => exact Session.anchored_of_empty ht _
  case brought =>
    intro id e he
    have hn : (s.drop MemoryPlane.plane p).session.tracker.byResult.get? id = none := by
      rw [ht]
      rfl
    cases hn.symm.trans he
  case conserved =>
    have hv : (s.drop MemoryPlane.plane p).session.tracker.byResult.values = [] := by
      rw [ht]
      rfl
    simp [Session.perform, SessionRequest.accepted, SessionRequest.forgotten, hv]

/-- Every call keeps custody of its session's tasks. -/
theorem exists_turn (hp : p.Sound) (hs : s.Anchored p) (request : SessionRequest) (limit : Nat)
    (visits : Nat → Visit) :
    ∃ records, Turn request s p (s.perform MemoryPlane.plane limit visits p request) records := by
  cases request with
  | submit requests handler options => exact turn_submit hp hs requests handler options limit visits
  | wait tasks behavior options => exact ⟨[], turn_wait hs tasks behavior options limit visits⟩
  | cleanup tasks => exact ⟨[], turn_cleanup hp hs tasks limit visits⟩
  | drop => exact ⟨[], turn_drop limit visits⟩
  | close => exact ⟨[], turn_undisturbed _ rfl rfl hs (undisturbed_sessionCall _ _ p)⟩
  | cancel => exact ⟨[], turn_undisturbed _ rfl rfl hs (undisturbed_sessionCall _ _ p)⟩
  | purge => exact ⟨[], turn_undisturbed _ rfl rfl hs (undisturbed_sessionCall _ _ p)⟩
  | info =>
    refine ⟨[], ?_, rfl, rfl, .refl p, ⟨[], (Undisturbed.refl p).deletes⟩, hs, .inl, ?_⟩
    · exact (List.append_nil _).symm
    · simp [Session.perform, SessionRequest.accepted, SessionRequest.forgotten]

end Fleet
end TaskGrid
