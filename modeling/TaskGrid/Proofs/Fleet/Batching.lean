import TaskGrid.Proofs.Fleet.Custody
import TaskGrid.Proofs.Session.Batching

/-! A submission in batches comes to what a submission in one piece comes to. If a batch fails, it comes to
what a submission of the requests before that batch comes to. -/
namespace TaskGrid
namespace Fleet
open Session

variable {f : Fleet} {i : Nat} {s : Session}

/-- The tasks of a submission, their results and their records are those of a submission of any other batch
size. Failures may be scripted at any time meanwhile; a batch that fails is not taken, nor is any after it,
and all before it are tracked. -/
theorem submissions_batched (hf : f.Reachable) (hs : f.sessions[i]? = some s)
    (hlive : s.dropped = false) (requests : List Payload) (handler : Handler)
    (options : Option TaskOptions) (arrivals : List (List (PlaneCall × ClientError))) (b : Nat)
    (hb : 0 < b) :
    let u : UnsteadyPlane := ⟨f.plane, arrivals⟩
    let batches := chunks b requests
    let taken := f.plane.prospects requests
    let s' := s.batching b hb
    let r := s'.submit UnsteadyPlane.plane requests handler options u
    let Brings := Brings handler (options.getD s.options)
    (arrivals = [] → r = steady (s'.submit MemoryPlane.plane requests handler options f.plane)) ∧
    ((∀ (j : Nat) (batch : List Payload), batches[j]? = some batch → u.batchFailure? j batch = none) →
      let sizes := List.replicate (requests.length / b) b ++
        if requests.length % b = 0 then [] else [requests.length % b]
      r.answer = .ok (taken.map Taken.task) ∧ taken.map Taken.request = requests ∧
        taken.map Taken.result =
          (List.range' (f.plane.resultCount + 1) requests.length).map MemoryPlane.resultId ∧
        Brings requests sizes s' f.plane r ∧
        r.plane.base.calls = f.plane.calls ++
          sizes.flatMap fun _ => [(.createResults, s.id), (.submitTasks, s.id)]) ∧
    ∀ (j : Nat) (batch : List Payload) (e : ClientError), batches[j]? = some batch →
      (∀ k < j, ∀ earlier, batches[k]? = some earlier → u.batchFailure? k earlier = none) →
      u.batchFailure? j batch = some e →
        r.answer = .error e ∧
          Brings (requests.take (j * b)) (List.replicate j b) s' f.plane r := by
  intro u batches taken s' r Brings
  have h := hf.sound
  have ha : s'.Anchored f.plane := ⟨(h.anchored hs).synced, (h.anchored hs).owner⟩
  have hr : r = submitBatches UnsteadyPlane.plane handler (options.getD s.options) batches s' u := by
    simp only [r, submit, s', batching, hlive]
    rfl
  have hflat : batches.flatten = requests := flatten_chunks b requests
  refine ⟨?_, fun hcalm => ?_, fun j batch e hj hbefore he => ?_⟩
  · rintro rfl
    exact submit_steady handler s' requests options f.plane
  · obtain ⟨u', hu, hacc⟩ := submitBatches_of_none handler (options.getD s.options) s' hcalm
    rw [hflat] at hu hacc
    rw [map_length_chunks hb] at hacc
    rw [hr, hu]
    refine ⟨rfl, Taken.map_request_following _ _ _, Taken.map_result_following _ _ _, ?_, hacc.calls⟩
    exact ha.brings handler _ h.plane hacc.written hacc.submitted hacc.sizes
  · obtain ⟨u', u'', hu, hacc, href⟩ :=
      submitBatches_of_some handler (options.getD s.options) s' hj hbefore he
    rw [flatten_take_chunks hb] at hu hacc
    rw [map_length_take_chunks hb hj] at hacc
    rw [hr, hu]
    refine ⟨rfl, ?_⟩
    exact ha.brings handler _ h.plane hacc.written (href.submitted.trans hacc.submitted)
      (href.sizes.trans hacc.sizes)

/-- A session that waits for one task already, over a plane with a failure of another kind in store. -/
def busyFleet : Fleet := (start 1).run
  [.attach "a" {}, .failNext .resultStatuses .poolStopped,
    .call 0 (.submit [⟨"first", [], []⟩] ⟨"h", false⟩ none) 0 fun _ => .listed]

def fiveRequests : List Payload :=
  [⟨"one", [1], []⟩, ⟨"two", [], ["d"]⟩, ⟨"three", [], []⟩, ⟨"four", [], []⟩, ⟨"five", [], []⟩]

/-- Batches of two: all are taken, or the submission of the second one fails. -/
theorem submissions_batched_busyFleet :
    let u : UnsteadyPlane := ⟨busyFleet.plane, [[], [], [], [(.submitTasks, .poolStopped)]]⟩
    let batches := chunks 2 fiveRequests
    busyFleet.Reachable ∧ 0 < 2 ∧
      (∀ (j : Nat) (batch : List Payload), batches[j]? = some batch →
        UnsteadyPlane.batchFailure? ⟨busyFleet.plane, []⟩ j batch = none) ∧
      batches[1]? = some [⟨"three", [], []⟩, ⟨"four", [], []⟩] ∧
      (∀ k < 1, ∀ earlier, batches[k]? = some earlier → u.batchFailure? k earlier = none) ∧
      u.batchFailure? 1 [⟨"three", [], []⟩, ⟨"four", [], []⟩] = some .poolStopped ∧
      ∃ s, busyFleet.sessions[0]? = some s ∧ s.dropped = false ∧
        let s' := s.batching 2 (by decide)
        let calm := s'.submit UnsteadyPlane.plane fiveRequests ⟨"k", true⟩ none ⟨busyFleet.plane, []⟩
        let r := s'.submit UnsteadyPlane.plane fiveRequests ⟨"k", true⟩ none u
        calm = steady (s'.submit MemoryPlane.plane fiveRequests ⟨"k", true⟩ none busyFleet.plane) ∧
        Brings ⟨"k", true⟩ s.options fiveRequests [2, 2, 1] s' busyFleet.plane calm ∧
        r.answer = .error .poolStopped ∧
        Brings ⟨"k", true⟩ s.options (fiveRequests.take 2) [2] s' busyFleet.plane r := by
  intro u batches
  have hf : busyFleet.Reachable := ⟨1, _, rfl⟩
  have hsome : busyFleet.sessions[0]?.isSome := by decide +kernel
  obtain ⟨s, hs⟩ := Option.isSome_iff_exists.mp hsome
  have hlive : s.dropped = false := by
    have hall : ∀ s ∈ busyFleet.sessions, s.dropped = false := by decide +kernel
    exact hall s (List.mem_of_getElem? hs)
  have hcalm : ∀ (j : Nat) (batch : List Payload), batches[j]? = some batch →
      UnsteadyPlane.batchFailure? ⟨busyFleet.plane, []⟩ j batch = none := by
    intro j batch hj
    have hc : busyFleet.plane.failures .createResults = [] := by decide +kernel
    have ht : busyFleet.plane.failures .submitTasks = [] := by decide +kernel
    have hw : ∀ batch ∈ batches, ∀ request ∈ batch, request.writeError? = none := by decide +kernel
    exact UnsteadyPlane.batchFailure?_of_steady hc ht j (hw batch (List.mem_of_getElem? hj))
  have hj : batches[1]? = some [⟨"three", [], []⟩, ⟨"four", [], []⟩] := by decide +kernel
  have hbefore : ∀ k < 1, ∀ earlier, batches[k]? = some earlier → u.batchFailure? k earlier = none := by
    intro k hk earlier he
    have hfirst : ∀ batch ∈ batches.head?, u.batchFailure? 0 batch = none := by decide +kernel
    obtain rfl : k = 0 := by omega
    exact hfirst earlier (by rw [List.head?_eq_getElem?]; exact he)
  have hfail : u.batchFailure? 1 [⟨"three", [], []⟩, ⟨"four", [], []⟩] = some .poolStopped := by
    decide +kernel
  obtain ⟨hsteady, hall, -⟩ :=
    submissions_batched hf hs hlive fiveRequests ⟨"k", true⟩ none [] 2 (by decide)
  obtain ⟨-, -, h⟩ := submissions_batched hf hs hlive fiveRequests ⟨"k", true⟩ none
    [[], [], [], [(.submitTasks, .poolStopped)]] 2 (by decide)
  obtain ⟨he, hb⟩ := h 1 _ _ hj hbefore hfail
  exact ⟨hf, by decide, hcalm, hj, hbefore, hfail, s, hs, hlive, hsteady rfl, (hall hcalm).2.2.2.1, he, hb⟩

end Fleet
end TaskGrid
