import TaskGrid.Proofs.Fleet.Custody

/-! A session that any number of callers wait on at once, as a machine of atomic steps: what a caller does
while it holds the tracker, one request, or one callback. Steps of different callers may come in any order,
and between a request and the claim that follows it anything may happen to the control plane. -/
namespace TaskGrid

/-- Where a caller is between two of its steps: there are batches that it has to ask for, or claims to deliver. -/
inductive WaitPhase where
  | ready
  | polling (batches : List (List String)) (statuses : Table String ResultStatus)
  | delivering (claims : List Tracker.Claim) (failed : Bool)
  | stopped (reason : StopReason)

structure Caller where
  waiter : Waiter
  behavior : WaitBehavior
  options : WaitOptions
  phase : WaitPhase := .ready

/-- The entries that a caller took from the tracker and did not pass on yet. -/
def Caller.holding (c : Caller) : List (String × Tracked) :=
  match c.phase with
  | .delivering claims _ => claims.filterMap Tracker.Claim.held?
  | _ => []

/-- A session with its callers, and a log of the entries that came and went. Those that claims took are handed to the
caller that claimed them, and discarded if they turn out to be unknown to the control plane. -/
structure SharedSession (σ : Type) where
  session : Session
  world : σ
  callers : List Caller := []
  inserted : List (String × Tracked) := []
  handed : List (Nat × (String × Tracked)) := []
  cleared : List (String × Tracked) := []
  called : List (Nat × Delivery) := []
  discarded : List (Nat × Tracked) := []

/-- A caller advances by the step that its phase calls for; elsewhere anything may happen to the control plane. -/
inductive SharedStep (σ : Type) where
  | join (tasks : List String) (behavior : WaitBehavior) (options : WaitOptions)
  | advance (caller : Nat) (visit : Visit)
  | insert (task result : String) (handler : Handler)
  | clear
  | elsewhere (world : σ)

namespace SharedSession

variable {σ : Type} (plane : ControlPlane σ)

def start (s : Session) (w : σ) : SharedSession σ where
  session := { s with tracker := {} }
  world := w

def setCaller (h : SharedSession σ) (i : Nat) (c : Caller) : SharedSession σ :=
  { h with callers := h.callers.set i c }

def snapshot (h : SharedSession σ) (i : Nat) (c : Caller) (visit : Visit) : SharedSession σ :=
  let results := visit.arrange (h.session.awaited c.waiter)
  h.setCaller i { c with
    phase := if results = [] then .stopped .nothingAwaited
      else .polling (chunks h.session.waitBatchSize results) {} }

def poll (h : SharedSession σ) (i : Nat) (c : Caller) (batch : List String)
    (rest : List (List String)) (statuses : Table String ResultStatus) : SharedSession σ :=
  match plane.resultStatuses h.session.id batch h.world with
  | (.ok answer, world) =>
    { h.setCaller i { c with phase := .polling rest (statuses.insertAll answer) } with world }
  | (.error _, world) => { h.setCaller i { c with phase := .polling rest statuses } with world }

/-- A caller claims what it heard to be final, which may be long past. -/
def claim (h : SharedSession σ) (i : Nat) (c : Caller) (statuses : Table String ResultStatus)
    (visit : Visit) : SharedSession σ :=
  let (tracker, claims) := h.session.tracker.claim (visit.arrange statuses.entries)
  { h.setCaller i { c with
      waiter := Session.settle c.waiter claims
      phase := .delivering claims false } with
    session := { h.session with tracker }
    handed := h.handed ++ (claims.filterMap Tracker.Claim.held?).map fun e => (i, e) }

/-- A caller delivers the outcome of a claim, if the claim took anything. -/
def deliver (h : SharedSession σ) (i : Nat) (c : Caller) (claim : Tracker.Claim)
    (rest : List Tracker.Claim) (failed : Bool) : SharedSession σ :=
  match claim.tracked with
  | none => h.setCaller i { c with phase := .delivering rest failed }
  | some tracked =>
    let (delivery, failed', world) :=
      Session.dispatch plane h.session.id claim.result claim.status tracked h.world
    { h.setCaller i { c with phase := .delivering rest (failed || failed') } with
      world
      called := h.called ++ delivery.toList.map fun d => (i, d)
      discarded := h.discarded ++ if delivery.isNone then [(i, tracked)] else [] }

/-- A caller that delivered all it claimed stops, or pauses and begins another round. -/
def conclude (h : SharedSession σ) (i : Nat) (c : Caller) (failed : Bool) : SharedSession σ :=
  match h.session.verdict c.behavior c.options c.waiter failed with
  | some reason => h.setCaller i { c with phase := .stopped reason }
  | none => h.setCaller i { c with waiter := c.waiter.paused c.options.polling, phase := .ready }

def advance (h : SharedSession σ) (i : Nat) (c : Caller) (visit : Visit) : SharedSession σ :=
  match c.phase with
  | .ready => h.snapshot i c visit
  | .polling (batch :: rest) statuses => h.poll plane i c batch rest statuses
  | .polling [] statuses => h.claim i c statuses visit
  | .delivering (claim :: rest) failed => h.deliver plane i c claim rest failed
  | .delivering [] failed => h.conclude i c failed
  | .stopped _ => h

def knows (h : SharedSession σ) (task result : String) : Bool :=
  h.inserted.any fun e => e.1 = result || e.2.task = task

/-- Only new ids are inserted, and only callers that joined take steps. -/
def step (h : SharedSession σ) : SharedStep σ → SharedSession σ
  | .join tasks behavior options =>
    { h with callers := h.callers ++ [⟨h.session.waiter tasks, behavior, options, .ready⟩] }
  | .advance i visit =>
    match h.callers[i]? with
    | some c => h.advance plane i c visit
    | none => h
  | .insert task result handler =>
    if h.knows task result then h
    else { h with
      session := { h.session with tracker := h.session.tracker.insert task result handler }
      inserted := h.inserted ++ [(result, ⟨task, handler⟩)] }
  | .clear =>
    { h with
      session := { h.session with dropped := true, tracker := {} }
      cleared := h.cleared ++ h.session.tracker.byResult.entries }
  | .elsewhere world => { h with world }

def run (h : SharedSession σ) (steps : List (SharedStep σ)) : SharedSession σ :=
  steps.foldl (step plane) h

variable {h : SharedSession σ}

theorem session_clear (h : SharedSession σ) (w : σ) :
    (h.step plane .clear).session = (h.session.drop plane w).session := by
  unfold Session.drop
  simp only
  split <;> rfl

/-- The tasks of a submission are tracked as if inserted one by one. -/
theorem session_inserts (handler : Handler) {tasks : List (String × String)}
    (hids : (tasks.map Prod.fst).Nodup) (hresults : (tasks.map Prod.snd).Nodup)
    (hnew : ∀ e ∈ tasks, h.knows e.1 e.2 = false) :
    (h.run plane (tasks.map fun e => .insert e.1 e.2 handler)).session =
      h.session.track handler tasks := by
  induction tasks generalizing h with
  | nil => rfl
  | cons e rest ih =>
    obtain ⟨hid, hids⟩ := List.nodup_cons.mp hids
    obtain ⟨hresult, hresults⟩ := List.nodup_cons.mp hresults
    obtain ⟨he, hrest⟩ := List.forall_mem_cons.mp hnew
    have hstep : h.step plane (.insert e.1 e.2 handler) = _ := if_neg (Bool.eq_false_iff.mp he)
    rw [List.map_cons, run, List.foldl_cons, hstep]
    refine ih hids hresults fun x hx => ?_
    have hx1 : e.1 ≠ x.1 := fun h' => hid (h' ▸ List.mem_map_of_mem hx)
    have hx2 : e.2 ≠ x.2 := fun h' => hresult (h' ▸ List.mem_map_of_mem hx)
    have hk := hrest x hx
    simp only [knows] at hk ⊢
    simp [List.any_append, hk, hx1, hx2]

/-- What a caller finds, and has called back, when it alone took steps. -/
structure Alone (h : SharedSession σ) (i : Nat) (c : Caller) (s : Session) (w : σ)
    (called : List Delivery) : Prop where
  caller : h.callers[i]? = some c
  session : h.session = s
  world : h.world = w
  called : Ledger.share i h.called = called

section
variable {i : Nat} {waiter : Waiter} {behavior : WaitBehavior} {options : WaitOptions}
  {s : Session} {w : σ} {called : List Delivery} (visit : Visit)

theorem getElem?_setCaller {c : Caller} (hc : h.callers[i]? = some c) (c' : Caller) :
    (h.setCaller i c').callers[i]? = some c' :=
  List.getElem?_set_self (List.getElem?_eq_some_iff.mp hc).1

theorem run_add (h : SharedSession σ) (m n : Nat) (step : SharedStep σ) :
    h.run plane (List.replicate (m + n) step) =
      (h.run plane (List.replicate m step)).run plane (List.replicate n step) := by
  rw [← List.replicate_append_replicate, run, List.foldl_append]
  rfl

theorem Alone.polls {statuses : Table String ResultStatus} {batches : List (List String)}
    (ha : h.Alone i ⟨waiter, behavior, options, .polling batches statuses⟩ s w called) :
    let polled := Session.pollBatches plane s.id batches statuses w
    (h.run plane (List.replicate batches.length (.advance i visit))).Alone i
      ⟨waiter, behavior, options, .polling [] polled.1⟩ s polled.2 called := by
  induction batches generalizing h statuses w with
  | nil => exact ha
  | cons batch rest ih =>
    obtain ⟨hc, rfl, rfl, hd⟩ := ha
    rw [List.length_cons, List.replicate_succ, run, List.foldl_cons]
    simp only [step, hc, advance, poll, Session.pollBatches]
    generalize plane.resultStatuses h.session.id batch h.world = reply
    obtain ⟨_ | answer, w⟩ := reply
    · exact ih ⟨getElem?_setCaller hc _, rfl, rfl, hd⟩
    · exact ih ⟨getElem?_setCaller hc _, rfl, rfl, hd⟩

theorem Alone.claims {statuses : Table String ResultStatus}
    (ha : h.Alone i ⟨waiter, behavior, options, .polling [] statuses⟩ s w called) :
    let claimed := s.tracker.claim (visit.arrange statuses.entries)
    (h.run plane (List.replicate 1 (.advance i visit))).Alone i
      ⟨Session.settle waiter claimed.2, behavior, options, .delivering claimed.2 false⟩
      { s with tracker := claimed.1 } w called := by
  obtain ⟨hc, rfl, rfl, rfl⟩ := ha
  simp only [List.replicate_one, run, List.foldl_cons, List.foldl_nil, step, hc]
  exact ⟨getElem?_setCaller hc _, rfl, rfl, rfl⟩

theorem Alone.delivers {claims : List Tracker.Claim} {failed : Bool}
    (ha : h.Alone i ⟨waiter, behavior, options, .delivering claims failed⟩ s w called) :
    let sent := Session.dispatchAll plane s.id claims w
    (h.run plane (List.replicate claims.length (.advance i visit))).Alone i
      ⟨waiter, behavior, options, .delivering [] (failed || sent.2.1)⟩ s sent.2.2
      (called ++ sent.1) := by
  induction claims generalizing h failed w called with
  | nil => simpa [Session.dispatchAll, run] using ha
  | cons claim rest ih =>
    obtain ⟨hc, rfl, rfl, rfl⟩ := ha
    rw [List.length_cons, List.replicate_succ, run, List.foldl_cons]
    obtain ⟨result, status, _ | tracked⟩ := claim
    · simp only [step, hc]
      exact ih ⟨getElem?_setCaller hc _, rfl, rfl, rfl⟩
    · simp only [step, hc, advance, deliver, Session.dispatchAll]
      rw [← Bool.or_assoc, ← List.append_assoc]
      exact ih ⟨getElem?_setCaller hc _, rfl, rfl, by simp⟩

theorem Alone.concludes {failed : Bool}
    (ha : h.Alone i ⟨waiter, behavior, options, .delivering [] failed⟩ s w called) :
    let stopped := s.verdict behavior options waiter failed
    (h.run plane (List.replicate 1 (.advance i visit))).Alone i
      ⟨if stopped.isSome then waiter else waiter.paused options.polling, behavior, options,
        stopped.elim .ready .stopped⟩ s w called := by
  obtain ⟨hc, rfl, rfl, rfl⟩ := ha
  simp only [List.replicate_one, run, List.foldl_cons, List.foldl_nil, step, hc, advance, conclude]
  cases h.session.verdict behavior options waiter failed <;>
    exact ⟨getElem?_setCaller hc _, rfl, rfl, rfl⟩

/-- The steps of a caller that nobody interferes with are the rounds of a waiter. -/
theorem Alone.round (ha : h.Alone i ⟨waiter, behavior, options, .ready⟩ s w called) :
    let r := Session.round plane behavior options visit waiter s w
    ∃ n, (h.run plane (List.replicate n (.advance i visit))).Alone i
      ⟨if r.stopped.isSome then r.waiter else r.waiter.paused options.polling, behavior, options,
        r.stopped.elim .ready .stopped⟩ r.session r.plane (called ++ r.deliveries) := by
  intro r
  obtain ⟨hc, rfl, rfl, rfl⟩ := ha
  have hsnap : h.run plane (List.replicate 1 (.advance i visit)) =
      h.snapshot i ⟨waiter, behavior, options, .ready⟩ visit := by
    simp only [List.replicate_one, run, List.foldl_cons, List.foldl_nil, step, hc, advance]
  by_cases hnil : h.session.awaited waiter = []
  · have hr := Session.round_of_nil plane behavior options visit h.world hnil
    refine ⟨1, ?_⟩
    rw [hsnap]
    simp only [r, hr, List.append_nil]
    refine ⟨?_, rfl, rfl, rfl⟩
    simp [snapshot, getElem?_setCaller hc, hnil]
  · have hr := Session.round_of_ne_nil plane behavior options visit h.world hnil
    have hpolling : (h.run plane (List.replicate 1 (.advance i visit))).Alone i
        ⟨waiter, behavior, options, .polling (chunks h.session.waitBatchSize
          (visit.arrange (h.session.awaited waiter))) {}⟩
        h.session h.world (Ledger.share i h.called) := by
      rw [hsnap]
      refine ⟨?_, rfl, rfl, rfl⟩
      simp [snapshot, getElem?_setCaller hc, hnil]
    have hdone := (((hpolling.polls plane visit).claims plane visit).delivers plane visit).concludes
      plane visit
    simp only [← run_add, Bool.false_or] at hdone
    simp only [r, hr, Session.poll]
    exact ⟨_, hdone⟩

end
end SharedSession
end TaskGrid
