import TaskGrid.Proofs.Fleet.Enrolment
import TaskGrid.Proofs.Fleet.Finality
import TaskGrid.Proofs.Fleet.Outcomes
import TaskGrid.Proofs.Session.Deletion
import TaskGrid.Proofs.Session.Loss

/-! Deleting the data of tasks. A cleanup deletes each result of the tasks that the plane knows once, as far as no
request fails, and touches no session; what is left of a task whose data is deleted is one error at most. -/
namespace TaskGrid

def Performed.base (r : Performed (Noted UnsteadyPlane)) : Performed MemoryPlane :=
  ⟨r.answer, r.claims, r.deliveries, r.session, r.plane.plane.base⟩

namespace Fleet
open MemoryPlane

def after (f : Fleet) (i : Nat) (request : SessionRequest) (s : Session) (r : Performed MemoryPlane) : Fleet where
  plane := r.plane
  sessions := f.sessions.set i r.session
  ledger := f.ledger.note i request s f.plane r

variable {f : Fleet} {i : Nat} {s : Session}

theorem call_eq_after (hs : f.sessions[i]? = some s) (request : SessionRequest) (limit : Nat)
    (visits : Nat → Visit) : f.call i request limit visits =
      f.after i request s (s.perform MemoryPlane.plane limit visits f.plane request) := by
  simp only [Fleet.call, hs]
  rfl

/-! ### The tasks whose data was deleted -/

/-- What holds of a task of session `i` from the deletion of its data on, unless its fate is set anew. -/
structure Lost (f : Fleet) (i : Nat) (handler : Handler) (t : Taken) : Prop where
  accepted : (i, ⟨t.task, handler⟩) ∈ f.ledger.accepted
  carries : f.Carries i handler .deleted t
  fate : f.ledger.fates t.result = some .deleted
  told : ∀ e ∈ f.ledger.delivered, e.2.task = t.task → e.2.outcome = .lost t.result

variable {handler : Handler} {t : Taken}

theorem Lost.call (hl : f.Lost i handler t) (h : f.Sound) (j : Nat) (request : SessionRequest) (limit : Nat)
    (visits : Nat → Visit) : (f.call j request limit visits).Lost i handler t := by
  have hcarries := hl.carries.call h j request limit visits
  cases hs : f.sessions[j]? with
  | none =>
    simp only [Fleet.call, hs]
    exact hl
  | some s =>
    rw [call_eq_after hs] at hcarries ⊢
    constructor
    case accepted => exact List.mem_append_left _ hl.accepted
    case carries => exact hcarries
    case fate =>
      simp only [after, Ledger.note]
      split
      · rfl
      · exact hl.fate
    case told =>
      intro e he htask
      rcases List.mem_append.mp he with he | he
      · exact hl.told e he htask
      · obtain ⟨d, hd, rfl⟩ := List.mem_map.mp he
        have ha := h.anchored hs
        obtain ⟨id, htracked, hlost⟩ := Session.perform_reports ha limit visits hd
        have howner : (f.plane.result id).owner = some t.task := htask ▸ ha.owner htracked
        obtain rfl := hl.carries.single howner
        apply hlost
        rw [hl.carries.settled, hl.fate, Option.getD_some]

theorem Lost.step (hl : f.Lost i handler t) (h : f.Sound) {step : FleetStep}
    (hstep : ∀ fate, step ≠ .setFate t.result fate) : (f.step step).Lost i handler t := by
  have hcarries := hl.carries.step h step
  cases step with
  | call j request limit visits => exact hl.call h j request limit visits
  | setFate result fate =>
    refine ⟨hl.accepted, hcarries, ?_, hl.told⟩
    have hne : t.result ≠ result := by
      rintro rfl
      exact hstep fate rfl
    exact (if_neg hne).trans hl.fate
  | create properties =>
    obtain ⟨p, -, hf | ⟨s, -, hf⟩⟩ := create_cases f properties
    all_goals
      rw [hf] at hcarries ⊢
      exact ⟨hl.accepted, hcarries, hl.fate, hl.told⟩
  | attach id properties =>
    simp only [Fleet.step] at hcarries ⊢
    split at hcarries
    · exact ⟨hl.accepted, hcarries, hl.fate, hl.told⟩
    · exact hl
  | setResponder responder => exact ⟨hl.accepted, hcarries, hl.fate, hl.told⟩
  | failNext call e => exact ⟨hl.accepted, hcarries, hl.fate, hl.told⟩

/-- What is lost stays so, however long the fleet runs. -/
theorem Lost.run (hl : f.Lost i handler t) (h : f.Sound) {steps : List FleetStep}
    (hsteps : ∀ fate, FleetStep.setFate t.result fate ∉ steps) : (f.run steps).Lost i handler t := by
  induction steps generalizing f with
  | nil => exact hl
  | cons step r ih =>
    refine ih (hl.step h fun fate e => hsteps fate (e ▸ List.mem_cons_self)) (h.step step) fun fate hm => ?_
    exact hsteps fate (List.mem_cons_of_mem _ hm)

/-- The handler of a task whose data was deleted is told of the loss, if of anything, and once only. -/
theorem Lost.callbacks_cases (hl : f.Lost i handler t) (h : f.Sound) :
    f.callbacks t.task = [] ∨ f.callbacks t.task = [(i, ⟨handler, t.task, .lost t.result⟩)] := by
  rcases h.callbacks_cases hl.accepted with ⟨-, outcome, hcallbacks⟩ | ⟨-, hnone⟩
  · right
    have hm : (i, (⟨handler, t.task, outcome⟩ : Delivery)) ∈ f.callbacks t.task := by
      rw [hcallbacks]
      exact List.mem_singleton_self _
    have hout : outcome = .lost t.result := hl.told _ (List.mem_filter.mp hm).1 rfl
    rw [hcallbacks, hout]
  · exact .inl hnone

section
variable {batches : List (List String)} {sent done : Nat} {r : Performed (Noted UnsteadyPlane)}
  {tasks : List String}

/-- A cleanup adds nothing to the ledger but the fates of what it deleted. -/
theorem after_cleaned (hs : f.sessions[i]? = some s) (hc : s.Cleaned batches sent done f.plane r) :
    f.after i (.cleanup tasks) s r.base =
      { f with
        plane := r.plane.plane.base
        ledger := { f.ledger with
          fates := fun id =>
            if id ∈ (batches.take done).flatten then some .deleted else f.ledger.fates id } } := by
  have hset : f.sessions.set i s = f.sessions := by
    obtain ⟨hlt, rfl⟩ := List.getElem?_eq_some_iff.mp hs
    exact List.set_getElem_self hlt
  simp only [after, Performed.base, Ledger.note, hc.session, hset, hc.claims, hc.deliveries, hc.cleans.log,
    List.drop_left]
  simp [SessionRequest.accepted, SessionRequest.forgotten]

theorem Sound.cleaned (h : f.Sound) (hs : f.sessions[i]? = some s)
    (hc : s.Cleaned batches sent done f.plane r) : (f.after i (.cleanup tasks) s r.base).Sound := by
  rw [after_cleaned hs hc]
  refine h.of_grows hc.cleans.grows hc.cleans.submitted fun {id} hn => ?_
  rw [hc.cleans.results, ← h.fates hn]
  split <;> rfl

/-- A task that is tracked when its result is deleted is lost. -/
theorem lost_of_cleaned (h : f.Sound) (he : f.plane.Enrolled) (hs : f.sessions[i]? = some s)
    (hc : s.Cleaned batches sent done f.plane r) {id : String} (hid : id ∈ (batches.take done).flatten)
    {j : Nat} {s' : Session} (hs' : f.sessions[j]? = some s') {t : Tracked}
    (ht : s'.tracker.byResult.get? id = some t) :
    (f.after i (.cleanup tasks) s r.base).Lost j t.handler
      ⟨t.task, id, ⟨"", [], []⟩, (f.plane.result id).payload⟩ := by
  have howner := (h.anchored hs').owner ht
  have htracked {k : Nat} {s : Session} {e : Tracked} (hs : f.sessions[k]? = some s)
      (he : s.tracker.byResult.get? id = some e) :
      (k, e) ∈ f.ledger.accepted ∧ f.callbacks e.task = [] := by
    apply h.callbacks_of_tracked
    rw [tracked_of_getElem? hs]
    exact List.mem_map_of_mem (Table.get?_eq_some_iff.mp he)
  obtain ⟨haccepted, hnone⟩ := htracked hs' ht
  rw [after_cleaned hs hc]
  constructor
  case accepted => exact haccepted
  case fate => exact if_pos hid
  case told =>
    intro e hm htask
    have hcallback : e ∈ f.callbacks t.task := List.mem_filter.mpr ⟨hm, decide_eq_true htask⟩
    rw [hnone] at hcallback
    cases hcallback
  case carries =>
    constructor
    case owner => exact (hc.cleans.owner id).trans howner
    case payload => exact hc.cleans.grows.payload (Option.isSome_of_eq_some howner)
    case single =>
      intro id' ho
      exact he.eq_of_owner howner ((hc.cleans.owner id').symm.trans ho)
    case fate =>
      rw [hc.cleans.results, if_pos hid]
      dsimp only
      rw [if_pos hid, Option.getD_some]
    case holder =>
      intro k s'' e hk hget
      obtain ⟨haccepted', -⟩ := htracked hk hget
      have htask : e.task = t.task := Option.some.inj (((h.anchored hk).owner hget).symm.trans howner)
      exact h.eq_of_task_eq haccepted haccepted' htask

end

/-- A cleanup on a plane on which failures may be scripted at any time. It changes nothing of the session and calls
no handler, and for no tasks it asks for nothing. For others it looks up the results of those that are known and
deletes each once, in requests of five hundred but for the last; requests stop at the first that fails, which is
the answer, and those before it have taken effect. What was tracked by any session when it was deleted is reported
to its handler as lost, if at all, and once only, whatever happens later but that its fate is set anew. -/
theorem cleanup_deletes_once (hf : f.Reachable) (hs : f.sessions[i]? = some s) (tasks : List String)
    (limit : Nat) (visits : Nat → Visit) (arrivals : List (List (PlaneCall × ClientError))) :
    let u : UnsteadyPlane := ⟨f.plane, arrivals⟩
    let r := s.perform UnsteadyPlane.plane.noting limit visits ⟨u, []⟩ (.cleanup tasks)
    let g := f.after i (.cleanup tasks) s r.base
    let n := (f.plane.resultsOf tasks).length
    r.session = s ∧ r.deliveries = [] ∧
    s.perform UnsteadyPlane.plane limit visits u (.cleanup tasks) =
      ⟨r.answer, r.claims, r.deliveries, r.session, r.plane.plane⟩ ∧
    (arrivals = [] → g = f.call i (.cleanup tasks) limit visits) ∧
    (tasks = [] → r = ⟨.ok .done, [], [], s, ⟨u, []⟩⟩) ∧
    (∃ batches : List (List String),
      batches.flatten.Perm (f.plane.resultsOf tasks) ∧ batches.flatten.Nodup ∧
      batches.length = (n + 499) / 500 ∧
      batches.map List.length = List.replicate (n / 500) 500 ++ (if n % 500 = 0 then [] else [n % 500]) ∧
      (tasks ≠ [] → ∀ e, u.failure? 0 .taskResults = some e →
        r.answer = .error e ∧ s.Cleaned batches 0 0 f.plane r) ∧
      (tasks ≠ [] → u.failure? 0 .taskResults = none →
        (∀ j < batches.length, u.failure? (j + 1) .deleteResults = none) →
          r.answer = .ok .done ∧ s.Cleaned batches batches.length batches.length f.plane r) ∧
      (tasks ≠ [] → u.failure? 0 .taskResults = none → ∀ j < batches.length,
        (∀ k < j, u.failure? (k + 1) .deleteResults = none) → ∀ e, u.failure? (j + 1) .deleteResults = some e →
          r.answer = .error e ∧ s.Cleaned batches (j + 1) j f.plane r)) ∧
    ∀ id ∈ g.plane.deleted.drop f.plane.deleted.length, ∀ (j : Nat) (s' : Session) (t : Tracked),
      f.sessions[j]? = some s' → s'.tracker.byResult.get? id = some t →
      ∀ later : List FleetStep, (∀ fate, .setFate id fate ∉ later) →
        (g.run later).callbacks t.task = [] ∨
          (g.run later).callbacks t.task = [(j, ⟨t.handler, t.task, .lost id⟩)] := by
  intro u r g n
  have h := hf.sound
  have he := hf.enrolled
  obtain ⟨sent, done, hcleaned⟩ := Session.exists_cleaned (u := u) s limit visits he tasks
  refine ⟨rfl, rfl, ?_, ?_, ?_, ?_, ?_⟩
  · obtain ⟨hanswer, hplane⟩ := (Session.mirrors_noting UnsteadyPlane.plane).cleanup s (visits 0) tasks
      (w := ⟨u, []⟩) rfl
    simp only [r, Session.perform, Session.unchanged, hanswer, hplane]
  · rintro rfl
    have hm := (Session.mirrors_noting UnsteadyPlane.plane).cleanup s (visits 0) tasks (w := ⟨u, []⟩) rfl
    have hm' := Session.mirrors_steady.cleanup s (visits 0) tasks (w := u) rfl
    rw [call_eq_after hs]
    simp only [g, r, Session.perform, Session.unchanged, Performed.base, hm.1, hm.2, hm'.1, hm'.2]
  · rintro rfl
    exact Session.perform_cleanup_of_nil s limit visits ⟨u, []⟩
  · refine ⟨Session.cleanupBatches (visits 0) f.plane tasks,
      Session.flatten_cleanupBatches_perm (visits 0) he tasks, ?_,
      Session.length_cleanupBatches (visits 0) he tasks,
      Session.map_length_cleanupBatches (visits 0) he tasks, ?_, ?_, ?_⟩
    · rw [(Session.flatten_cleanupBatches_perm (visits 0) he tasks).nodup_iff]
      exact he.nodup_resultsOf tasks
    · exact fun htasks e hlookup => Session.perform_cleanup_of_lookup s limit visits htasks hlookup
    · exact fun htasks hlookup hnone =>
        Session.perform_cleanup_of_none s limit visits he htasks hlookup hnone
    · exact fun htasks hlookup j hj hbefore e hfail =>
        Session.perform_cleanup_of_some s limit visits he htasks hlookup hj hbefore hfail
  · intro id hid j s' t hs' ht later hlater
    have hlog : g.plane.deleted.drop f.plane.deleted.length =
        ((Session.cleanupBatches (visits 0) f.plane tasks).take done).flatten := by
      have hplane : g.plane.deleted = f.plane.deleted ++ _ := hcleaned.cleans.log
      rw [hplane, List.drop_left]
    have hg : g.Sound := h.cleaned hs hcleaned
    have hlost : g.Lost j t.handler ⟨t.task, id, ⟨"", [], []⟩, (f.plane.result id).payload⟩ :=
      lost_of_cleaned h he hs hcleaned (hlog ▸ hid) hs' ht
    exact (hlost.run hg hlater).callbacks_cases (hg.run later)

/-- Two tasks of one session, and another session to delete their data. -/
def lossFleet : Fleet := (start 0).run
  [.attach "a" {}, .attach "b" {},
    .call 1 (.submit [⟨"one", [], []⟩, ⟨"two", [], []⟩] ⟨"h", false⟩ none) 0 fun _ => .listed]

/-- A task that is named twice, and one that nobody knows: the one request for deletion is answered, or it fails. -/
theorem cleanup_deletes_once_lossFleet :
    let tasks := ["t2", "nobody", "t2"]
    let later : List FleetStep := [.call 1 (.wait [] {} {}) 1 fun _ => .listed]
    let failing : List (List (PlaneCall × ClientError)) := [[], [(.deleteResults, .poolStopped)]]
    lossFleet.Reachable ∧ ∃ s s', lossFleet.sessions[0]? = some s ∧ lossFleet.sessions[1]? = some s' ∧
      s'.tracker.byResult.get? "r2" = some ⟨"t2", ⟨"h", false⟩⟩ ∧
      let calm := s.perform UnsteadyPlane.plane.noting 0 (fun _ => .listed) ⟨⟨lossFleet.plane, []⟩, []⟩
        (.cleanup tasks)
      let r := s.perform UnsteadyPlane.plane.noting 0 (fun _ => .listed) ⟨⟨lossFleet.plane, failing⟩, []⟩
        (.cleanup tasks)
      let g := lossFleet.after 0 (.cleanup tasks) s calm.base
      (calm.answer = .ok .done ∧ s.Cleaned [["r2"]] 1 1 lossFleet.plane calm) ∧
      (r.answer = .error .poolStopped ∧ s.Cleaned [["r2"]] 1 0 lossFleet.plane r) ∧
      (g.run later).callbacks "t2" = [(1, ⟨⟨"h", false⟩, "t2", .lost "r2"⟩)] := by
  intro tasks later failing
  have hf : lossFleet.Reachable := ⟨0, _, rfl⟩
  have hsome : lossFleet.sessions[0]?.isSome ∧ lossFleet.sessions[1]?.isSome := by decide +kernel
  obtain ⟨s, hs⟩ := Option.isSome_iff_exists.mp hsome.1
  obtain ⟨s', hs'⟩ := Option.isSome_iff_exists.mp hsome.2
  have htracked : ∀ s ∈ lossFleet.sessions[1]?,
      s.tracker.byResult.get? "r2" = some ⟨"t2", ⟨"h", false⟩⟩ := by decide +kernel
  have ht := htracked s' hs'
  have hexpected : lossFleet.plane.resultsOf tasks = ["r2"] := by decide +kernel
  have hsingle {batches : List (List String)} (hperm : batches.flatten.Perm (lossFleet.plane.resultsOf tasks))
      (hlength : batches.length = ((lossFleet.plane.resultsOf tasks).length + 499) / 500) :
      batches = [["r2"]] := by
    rw [hexpected] at hperm hlength
    obtain ⟨batch, rfl⟩ := List.length_eq_one_iff.mp hlength
    rw [List.flatten_singleton, List.perm_singleton] at hperm
    rw [hperm]
  have hlookup : UnsteadyPlane.failure? ⟨lossFleet.plane, []⟩ 0 .taskResults = none ∧
      UnsteadyPlane.failure? ⟨lossFleet.plane, []⟩ 1 .deleteResults = none := by decide +kernel
  have hlookup' : UnsteadyPlane.failure? ⟨lossFleet.plane, failing⟩ 0 .taskResults = none ∧
      UnsteadyPlane.failure? ⟨lossFleet.plane, failing⟩ 1 .deleteResults = some .poolStopped := by
    decide +kernel
  have hdeleted : "r2" ∈ (lossFleet.call 0 (.cleanup tasks) 0 fun _ => .listed).plane.deleted.drop
      lossFleet.plane.deleted.length := by decide +kernel
  have htold : ((lossFleet.call 0 (.cleanup tasks) 0 fun _ => .listed).run later).callbacks "t2" ≠ [] := by
    decide +kernel
  obtain ⟨-, -, -, hsteady, -, ⟨batches, hperm, -, hlength, -, -, hcalm, -⟩, hlost⟩ :=
    cleanup_deletes_once hf hs tasks 0 (fun _ => .listed) []
  obtain ⟨-, -, -, -, -, ⟨batches', hperm', -, hlength', -, -, -, hfails⟩, -⟩ :=
    cleanup_deletes_once hf hs tasks 0 (fun _ => .listed) failing
  obtain rfl := hsingle hperm hlength
  obtain rfl := hsingle hperm' hlength'
  refine ⟨hf, s, s', hs, hs', ht, ?_, ?_, ?_⟩
  · apply hcalm (by decide) hlookup.1
    intro j hj
    obtain rfl : j = 0 := Nat.lt_one_iff.mp hj
    exact hlookup.2
  · apply hfails (by decide) hlookup'.1 0 (by decide)
    · intro k hk
      cases hk
    · exact hlookup'.2
  · rw [hsteady rfl] at hlost ⊢
    exact (hlost "r2" hdeleted 1 s' _ hs' ht later (by simp [later])).resolve_left htold

end Fleet
end TaskGrid
