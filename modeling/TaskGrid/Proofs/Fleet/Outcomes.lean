import Mathlib.Data.List.Nodup
import TaskGrid.Proofs.Fleet.Custody
import TaskGrid.Proofs.Session.Round

/-! Outcomes keep to their tasks. From the moment a task is taken, its result, its handler and its payload
stay together, and the fate of its result is the one set by name or else the one the plane answered with;
a callback reports just that. -/
namespace TaskGrid
namespace Fleet
open MemoryPlane

/-- What holds of a task of session `i` as long as the fleet runs; `fate` is the one that its request was
answered with. -/
structure Carries (f : Fleet) (i : Nat) (handler : Handler) (fate : Fate) (t : Taken) : Prop where
  owner : (f.plane.result t.result).owner = some t.task
  payload : (f.plane.result t.result).payload = t.bytes
  single : ∀ {id}, (f.plane.result id).owner = some t.task → id = t.result
  fate : (f.plane.result t.result).fate = some ((f.ledger.fates t.result).getD fate)
  holder : ∀ {j : Nat} {s : Session} {e}, f.sessions[j]? = some s →
    s.tracker.byResult.get? t.result = some e → j = i ∧ e = ⟨t.task, handler⟩

variable {f : Fleet} {i : Nat} {handler : Handler} {fate : Fate} {t : Taken}

theorem Carries.settled (h : f.Carries i handler fate t) :
    (f.plane.result t.result).settled = (f.ledger.fates t.result).getD fate := by
  rw [StoredResult.settled, h.fate, Option.getD_some]

/-- No result that is made later gets the same task. -/
theorem Carries.single_of_grows (hc : f.Carries i handler fate t) (h : f.Sound) {p : MemoryPlane}
    (grows : Grows f.plane p) {id : String} (ho : (p.result id).owner = some t.task) :
    id = t.result := by
  rcases grows.fresh ho with ho | ⟨-, n, hn, -, ht⟩
  · exact hc.single ho
  · obtain ⟨-, m, hm, ht'⟩ := h.plane.counted hc.owner
    have hnm : n = m := taskId_inj.mp (ht.symm.trans ht')
    omega

theorem Carries.of_grows (hc : f.Carries i handler fate t) (h : f.Sound) {p : MemoryPlane}
    {fates : String → Option Fate} (grows : Grows f.plane p)
    (hf : (p.result t.result).fate = some ((fates t.result).getD fate)) :
    Carries { f with plane := p, ledger := { f.ledger with fates } } i handler fate t where
  owner := grows.owner hc.owner
  payload := (grows.payload (Option.isSome_of_eq_some hc.owner)).trans hc.payload
  single ho := hc.single_of_grows h grows ho
  fate := hf
  holder := hc.holder

theorem Carries.of_undisturbed (hc : f.Carries i handler fate t) (h : f.Sound) {p : MemoryPlane}
    (hu : Undisturbed f.plane p) : Carries { f with plane := p } i handler fate t :=
  hc.of_grows h hu.grows ((hu.fate _).trans hc.fate)

theorem Carries.addSession (hc : f.Carries i handler fate t) {s : Session} (hs : s.tracker = {}) :
    Carries { f with sessions := f.sessions ++ [s] } i handler fate t where
  owner := hc.owner
  payload := hc.payload
  single := hc.single
  fate := hc.fate
  holder {j s' e} hj he := by
    rcases getElem?_addSession hj with hj | ⟨-, rfl⟩
    · exact hc.holder hj he
    · rw [hs] at he
      cases he

theorem Carries.call (hc : f.Carries i handler fate t) (h : f.Sound) (j : Nat)
    (request : SessionRequest) (limit : Nat) (visits : Nat → Visit) :
    (f.call j request limit visits).Carries i handler fate t := by
  unfold Fleet.call
  split
  · exact hc
  · next s hj =>
    obtain ⟨records, ht⟩ := exists_turn h.plane (h.anchored hj) request limit visits
    generalize s.perform MemoryPlane.plane limit visits f.plane request = r at ht
    have hlt : j < f.sessions.length := (List.getElem?_eq_some_iff.mp hj).1
    have ho := ht.grows.owner hc.owner
    constructor
    case owner => exact ho
    case payload => exact (ht.grows.payload (Option.isSome_of_eq_some hc.owner)).trans hc.payload
    case single => exact fun ho => hc.single_of_grows h ht.grows ho
    case fate =>
      obtain ⟨ids, hd⟩ := ht.deletes
      rw [hd.fates (ho.trans hc.owner.symm)]
      simp only [Ledger.note, hd.log, List.drop_left]
      split
      · rfl
      · exact hc.fate
    case holder =>
      intro k s' e hk he
      by_cases hjk : j = k
      · subst hjk
        rw [List.getElem?_set_self hlt] at hk
        cases hk
        rcases ht.brought he with he | hn
        · exact hc.holder hj he
        · rw [hc.owner] at hn
          cases hn
      · rw [List.getElem?_set_ne hjk] at hk
        exact hc.holder hk he

theorem Carries.step (hc : f.Carries i handler fate t) (h : f.Sound) (step : FleetStep) :
    (f.step step).Carries i handler fate t := by
  cases step with
  | create properties =>
    obtain ⟨p, hu, he | ⟨s, hs, he⟩⟩ := create_cases f properties
    · exact he ▸ hc.of_undisturbed h hu
    · exact he ▸ (hc.of_undisturbed h hu).addSession hs
  | attach id properties =>
    simp only [Fleet.step]
    split
    · next s hs => exact hc.addSession (tracker_of_attach hs)
    · exact hc
  | call j request limit visits => exact hc.call h j request limit visits
  | setFate result new =>
    refine hc.of_grows h (grows_setFate _ _ _) ?_
    rw [result_setFate]
    split
    · rfl
    · exact hc.fate
  | setResponder responder =>
    exact hc.of_grows h (.of_owner_eq rfl rfl rfl (fun _ => rfl) fun _ => rfl) hc.fate
  | failNext call e => exact hc.of_grows h (grows_failNext _ _ _) hc.fate

/-- What is together stays together, however long the fleet runs. -/
theorem Carries.run (hc : f.Carries i handler fate t) (h : f.Sound) (steps : List FleetStep) :
    (f.run steps).Carries i handler fate t := by
  induction steps generalizing f with
  | nil => exact hc
  | cons step r ih => exact ih (hc.step h step) (h.step step)

/-- A submission brings its tasks together with their results, its handler and their payloads. -/
theorem carries_submit (h : f.Sound) {s : Session} (hs : f.sessions[i]? = some s)
    {requests : List Payload} {options : Option TaskOptions} (limit : Nat) (visits : Nat → Visit)
    {taken : List Taken}
    (ht : Session.Takes handler (options.getD s.options) taken s f.plane
      (s.submit MemoryPlane.plane requests handler options f.plane).session
      (s.submit MemoryPlane.plane requests handler options f.plane).plane)
    (hm : t ∈ taken) :
    (f.call i (.submit requests handler options) limit visits).Carries i handler
      (f.plane.answerTo t.request) t := by
  have hlt : i < f.sessions.length := (List.getElem?_eq_some_iff.mp hs).1
  have hn := ht.owner_eq_none h.plane hm
  have hfree {j : Nat} {s' : Session} {e : Tracked} (hj : f.sessions[j]? = some s') :
      s'.tracker.byResult.get? t.result ≠ some e := by
    intro he
    have ho := (h.anchored hj).owner he
    rw [hn] at ho
    cases ho
  simp only [Fleet.call, hs, Session.perform]
  constructor
  case owner => exact ht.owner_eq hm
  case payload =>
    rw [ht.stored t hm]
    rfl
  case single =>
    intro id ho
    by_cases hid : id ∈ taken.map Taken.result
    · obtain ⟨u, hu, rfl⟩ := List.mem_map.mp hid
      rw [ht.owner_eq hu] at ho
      have hd := ht.numbered.nodup_task
      exact congrArg Taken.result (List.inj_on_of_nodup_map hd hu hm (Option.some.inj ho))
    · rw [ht.others id hid] at ho
      obtain ⟨-, n, hn, e⟩ := h.plane.counted ho
      obtain ⟨m, hm, -, e'⟩ := ht.task_eq hm
      have hnm : n = m := taskId_inj.mp (e.symm.trans e')
      omega
  case fate =>
    rw [ht.stored t hm]
    simp only [owned, StoredResult.submitted, h.fates hn, Ledger.note, ht.deleted, List.drop_length,
      List.not_mem_nil, if_false]
  case holder =>
    intro j s' e hj he
    by_cases hij : i = j
    · subst hij
      rw [List.getElem?_set_self hlt] at hj
      cases hj
      rcases ht.get?_cases h.plane (h.anchored hs) he with he | ⟨u, hu, hr, rfl⟩
      · exact absurd he (hfree hs)
      · rw [List.inj_on_of_nodup_map ht.distinct hu hm hr]
        exact ⟨rfl, rfl⟩
    · rw [List.getElem?_set_ne hij] at hj
      exact absurd he (hfree hj)

/-- A callback is for the task of a result if it is that result's. -/
theorem Carries.task_eq_iff (hc : f.Carries i handler fate t) {s : Session} (hs : s.Anchored f.plane)
    {e : String × Tracked} (he : e ∈ s.tracker.byResult.entries) {d : Delivery}
    (hd : f.plane.delivery? e = some d) : d.task = t.task ↔ e.1 = t.result := by
  obtain ⟨outcome, -, rfl⟩ := Option.map_eq_some_iff.mp hd
  have ho := hs.owner (Table.get?_eq_some_iff.mpr he)
  constructor
  · intro ht
    exact hc.single (ht ▸ ho)
  · intro hr
    rw [hr, hc.owner] at ho
    exact (Option.some.inj ho).symm

/-- The callbacks of a wait for a task: one if the wait takes its result from the tracker, and that tells
of the fate as it stands; none otherwise. -/
theorem Carries.wait (hc : f.Carries i handler fate t) (h : f.Sound) {j : Nat} {s : Session}
    (hs : f.sessions[j]? = some s) (hd : f.plane.failures .downloadResult = []) (limit : Nat)
    (visits : Nat → Visit) (tasks : List String) (behavior : WaitBehavior) (options : WaitOptions) :
    let r := s.wait MemoryPlane.plane limit visits tasks behavior options f.plane
    let stands := (f.ledger.fates t.result).getD fate
    (r.deliveries.filter fun d => d.task = t.task) =
        (if j = i ∧ t.result ∈ s.tracker.results ∧ t.result ∉ r.session.tracker.results then
          (stands.told t.task t.result t.bytes).toList.map fun o => ⟨handler, t.task, o⟩
        else []) ∧
      (stands = .deleted → r.plane.downloadCount t.result = f.plane.downloadCount t.result) := by
  intro r stands
  have ha := h.anchored hs
  obtain ⟨hdel, hcount⟩ := Session.rounds_dispatched behavior options limit visits ha
    (Session.awaits_waiter ha.synced tasks) hd
  have hh : s.Hands r := Session.hands_rounds MemoryPlane.plane behavior options limit visits
    (s.waiter tasks) s f.plane
  refine ⟨?_, fun hst => hcount _ (hc.settled.trans hst)⟩
  have hfilter : (r.deliveries.filter fun d => d.task = t.task) =
      ((r.claims.filterMap Tracker.Claim.held?).filter (·.1 = t.result)).filterMap
        f.plane.delivery? := by
    have hdel : r.deliveries =
        (r.claims.filterMap Tracker.Claim.held?).filterMap f.plane.delivery? := hdel
    rw [hdel, List.filter_filterMap, List.filterMap_filter]
    apply List.filterMap_congr
    intro e he
    have hm := hh.entries.mem_iff.mpr (List.mem_append_left _ he)
    cases hg : f.plane.delivery? e with
    | none => simp
    | some d =>
      have hiff := hc.task_eq_iff ha hm hg
      by_cases hr : e.1 = t.result
      · simp [hr, hiff.mpr hr]
      · simp [hr, mt hiff.mp hr]
  rw [hfilter, hh.filter_held]
  by_cases hafter : t.result ∈ r.session.tracker.results
  · rw [if_pos hafter, if_neg fun hh => hh.2.2 hafter, List.filterMap_nil]
  · rw [if_neg hafter]
    cases hg : s.tracker.byResult.get? t.result with
    | none =>
      have hbefore : t.result ∉ s.tracker.results := Table.get?_eq_none_iff.mp hg
      rw [if_neg fun hh => hbefore hh.2.1]
      rfl
    | some e =>
      obtain ⟨hij, rfl⟩ := hc.holder hs hg
      have hbefore : t.result ∈ s.tracker.results := Table.mem_keys_iff.mpr ⟨_, hg⟩
      rw [if_pos ⟨hij, hbefore, hafter⟩]
      simp only [Option.map_some, Option.toList_some, List.filterMap_cons, List.filterMap_nil,
        MemoryPlane.delivery?, hc.settled, hc.payload]
      cases stands.told t.task t.result t.bytes <;> rfl

/-- Outcomes are never mixed up. Each task of a submission has its own result and the payload of its own
request; whatever happens later, a wait of any session makes a callback for it just when it takes that result
from the tracker of the submitting session, to the handler of the submission, and tells of the fate as it
stands: the one set by name or by a deletion, or else the one its request was answered with. -/
theorem outcomes_reported (hf : f.Reachable) {s : Session} (hs : f.sessions[i]? = some s)
    (requests : List Payload) (handler : Handler) (options : Option TaskOptions) {ids : List String}
    (hids : (s.submit MemoryPlane.plane requests handler options f.plane).answer = .ok ids)
    (limit : Nat) (visits : Nat → Visit) (later : List FleetStep) {f' : Fleet}
    (hf' : f' = (f.call i (.submit requests handler options) limit visits).run later)
    {j : Nat} {s' : Session} (hs' : f'.sessions[j]? = some s')
    (hd : f'.plane.failures .downloadResult = []) (limit' : Nat) (visits' : Nat → Visit)
    (tasks : List String) (behavior : WaitBehavior) (waitOptions : WaitOptions) :
    ids.length = requests.length ∧ ∀ (k : Nat) (request : Payload) (id : String),
      requests[k]? = some request → ids[k]? = some id →
      ∃ result bytes, request.encode = .ok bytes ∧
        ⟨s.id, id, some (options.getD s.options), bytes, [result], request.dependencies⟩ ∈
          (f.call i (.submit requests handler options) limit visits).plane.submitted ∧
        let stands := (f'.ledger.fates result).getD (f.plane.answerTo request)
        let r := s'.wait MemoryPlane.plane limit' visits' tasks behavior waitOptions f'.plane
        (r.deliveries.filter fun d => d.task = id) =
            (if j = i ∧ result ∈ s'.tracker.results ∧ result ∉ r.session.tracker.results then
              (stands.told id result bytes).toList.map fun o => ⟨handler, id, o⟩
            else []) ∧
          (stands = .deleted → r.plane.downloadCount result = f'.plane.downloadCount result) := by
  have h := hf.sound
  obtain ⟨taken, hsub⟩ := Session.submit_submits handler s requests options f.plane
  obtain ⟨rfl, rfl⟩ := hsub.answered ids hids
  refine ⟨by simp, fun k request id hk hid => ?_⟩
  rw [List.getElem?_map, Option.map_eq_some_iff] at hk
  obtain ⟨t, ht, rfl⟩ := hk
  rw [List.getElem?_map, ht] at hid
  cases hid
  have hm := List.mem_of_getElem? ht
  have hc := (carries_submit h hs limit visits hsub.takes hm).run (h.call i _ limit visits) later
  have hsound := (h.call i (.submit (taken.map Taken.request) handler options) limit visits).run later
  subst hf'
  refine ⟨t.result, t.bytes, hsub.takes.encoded t hm, ?_, ?_⟩
  · have hplane : (f.call i (.submit (taken.map Taken.request) handler options) limit visits).plane =
        (s.submit MemoryPlane.plane (taken.map Taken.request) handler options f.plane).plane := by
      simp only [Fleet.call, hs, Session.perform]
    rw [hplane, hsub.takes.submitted]
    exact List.mem_append_right _ (List.mem_map.mpr ⟨t, hm, rfl⟩)
  · exact hc.wait hsound hs' hd limit' visits' tasks behavior waitOptions

/-- One session over a plane that aborts the tasks of one method; a fate is set ahead of its result. -/
def sampleFleet : Fleet := (start 1).run
  [.attach "a" {}, .setFate "r1" (.completed [7]),
    .setResponder fun request => if request.method = "two" then .aborted "no" else .echo]

def sampleSession : Session where
  id := "a"
  options := {}
  submitBatchSize := 200
  waitBatchSize := 200
  submit_pos := by decide
  wait_pos := by decide

theorem outcomes_reported_sampleFleet :
    let requests : List Payload := [⟨"one", [], []⟩, ⟨"two", [], []⟩]
    let f' := (sampleFleet.call 0 (.submit requests ⟨"h", true⟩ none) 0 fun _ => .listed).run
      [.call 0 (.wait [] {} {}) 1 fun _ => .listed]
    sampleFleet.Reachable ∧ sampleFleet.sessions[0]? = some sampleSession ∧
      (sampleSession.submit MemoryPlane.plane requests ⟨"h", true⟩ none sampleFleet.plane).answer =
        .ok ["t1", "t2"] ∧
      f'.plane.failures .downloadResult = [] ∧
      ∃ s', f'.sessions[0]? = some s' ∧ ∃ result bytes,
        (⟨"two", [], []⟩ : Payload).encode = .ok bytes ∧
        let stands := (f'.ledger.fates result).getD (sampleFleet.plane.answerTo ⟨"two", [], []⟩)
        let r := s'.wait MemoryPlane.plane 3 (fun _ => .listed) [] {} {} f'.plane
        (r.deliveries.filter fun d => d.task = "t2") =
          if 0 = 0 ∧ result ∈ s'.tracker.results ∧ result ∉ r.session.tracker.results then
            (stands.told "t2" result bytes).toList.map fun o => ⟨⟨"h", true⟩, "t2", o⟩
          else [] := by
  intro requests f'
  have hf : sampleFleet.Reachable := ⟨1, _, rfl⟩
  have hs : sampleFleet.sessions[0]? = some sampleSession := rfl
  have hids : (sampleSession.submit MemoryPlane.plane requests ⟨"h", true⟩ none
      sampleFleet.plane).answer = .ok ["t1", "t2"] := by decide +kernel
  have hd : f'.plane.failures .downloadResult = [] := by decide +kernel
  have hs' : f'.sessions[0]?.isSome := by decide +kernel
  obtain ⟨s', hs'⟩ := Option.isSome_iff_exists.mp hs'
  obtain ⟨-, h⟩ := outcomes_reported hf hs requests ⟨"h", true⟩ none hids 0 (fun _ => .listed) _ rfl
    hs' hd 3 (fun _ => .listed) [] {} {}
  obtain ⟨result, bytes, hb, -, hr, -⟩ := h 1 ⟨"two", [], []⟩ "t2" rfl rfl
  exact ⟨hf, hs, hids, hd, s', hs', result, bytes, hb, hr⟩

end Fleet
end TaskGrid
