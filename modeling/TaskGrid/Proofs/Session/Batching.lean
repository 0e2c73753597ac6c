import TaskGrid.Proofs.Plane.Unsteady
import TaskGrid.Proofs.Session.Custody

/-! What a submission does batch by batch, on a plane on which failures may be scripted at any time. Where
a request goes in the end does not depend on the batch it was in. -/
namespace TaskGrid

namespace UnsteadyPlane
open MemoryPlane

/-- Why a batch fails that is number `j` from now, if no batch before it does: its results are not made, or
one of its requests cannot be written, or its tasks are not taken. -/
def batchFailure? (u : UnsteadyPlane) (j : Nat) (batch : List Payload) : Option ClientError :=
  (u.failure? (2 * j) .createResults).or
    ((batch.findSome? Payload.writeError?).or (u.failure? (2 * j + 1) .submitTasks))

/-- A plane on which nothing is scripted fails no batch that can be written. -/
theorem batchFailure?_of_steady {p : MemoryPlane} (hc : p.failures .createResults = [])
    (hs : p.failures .submitTasks = []) (j : Nat) {batch : List Payload}
    (hw : ∀ request ∈ batch, request.writeError? = none) : batchFailure? ⟨p, []⟩ j batch = none := by
  have hb := List.findSome?_eq_none_iff.mpr hw
  simp [batchFailure?, failure?, scripted, hc, hs, ofKind, hb]

/-- Requests that became tasks of a session, in submissions of these sizes. -/
structure Accepts (session : String) (options : TaskOptions) (requests : List Payload)
    (counts : List Nat) (u u' : UnsteadyPlane) : Prop where
  written : requests.findSome? Payload.writeError? = none
  submitted : u'.base.submitted = u.base.submitted ++
    (u.base.prospects requests).map (Taken.record session (some options))
  count : u'.base.resultCount = u.base.resultCount + requests.length
  sizes : u'.base.submitBatchSizes = u.base.submitBatchSizes ++ counts
  calls : u'.base.calls = u.base.calls ++
    counts.flatMap fun _ => [(.createResults, session), (.submitTasks, session)]
  arrivals : u'.arrivals = u.arrivals.drop (2 * counts.length)
  failures : ∀ call, u'.base.failures call = u.scripted (2 * counts.length) call

/-- Nothing became a task. -/
structure Refuses (u u' : UnsteadyPlane) : Prop where
  submitted : u'.base.submitted = u.base.submitted
  sizes : u'.base.submitBatchSizes = u.base.submitBatchSizes

section
variable {session : String} {options : TaskOptions} {requests more : List Payload}
  {counts counts' : List Nat} {u u' u'' : UnsteadyPlane}

theorem accepts_nil (session : String) (options : TaskOptions) (u : UnsteadyPlane) :
    Accepts session options [] [] u u where
  written := rfl
  submitted := (List.append_nil _).symm
  count := rfl
  sizes := (List.append_nil _).symm
  calls := (List.append_nil _).symm
  arrivals := rfl
  failures _ := (List.append_nil _).symm

theorem Accepts.prospects_append (h : Accepts session options requests counts u u') :
    u.base.prospects (requests ++ more) = u.base.prospects requests ++ u'.base.prospects more := by
  have hlen : u'.base.submitted.length = u.base.submitted.length + requests.length := by
    simp [h.submitted, prospects]
  rw [prospects, Taken.following_append, prospects, prospects, hlen, h.count]

theorem Accepts.scripted (h : Accepts session options requests counts u u') (n : Nat)
    (call : PlaneCall) : u'.scripted n call = u.scripted (2 * counts.length + n) call :=
  scripted_of_drop h.arrivals h.failures n call

theorem Accepts.batchFailure? (h : Accepts session options requests counts u u') (j : Nat)
    (batch : List Payload) : u'.batchFailure? j batch = u.batchFailure? (counts.length + j) batch := by
  simp only [UnsteadyPlane.batchFailure?, failure?, h.scripted]
  rw [show 2 * counts.length + (2 * j + 1) = 2 * (counts.length + j) + 1 by omega,
    show 2 * counts.length + (2 * j + 1 + 1) = 2 * (counts.length + j) + 1 + 1 by omega]

theorem Accepts.trans (h : Accepts session options requests counts u u')
    (h' : Accepts session options more counts' u' u'') :
    Accepts session options (requests ++ more) (counts ++ counts') u u'' where
  written := by
    have hall := List.forall_mem_append.mpr
      ⟨List.findSome?_eq_none_iff.mp h.written, List.findSome?_eq_none_iff.mp h'.written⟩
    exact List.findSome?_eq_none_iff.mpr hall
  submitted := by rw [h'.submitted, h.submitted, h.prospects_append]; simp
  count := by rw [h'.count, h.count, List.length_append, Nat.add_assoc]
  sizes := by rw [h'.sizes, h.sizes, List.append_assoc]
  calls := by rw [h'.calls, h.calls, List.flatMap_append, List.append_assoc]
  arrivals := by rw [h'.arrivals, h.arrivals, List.drop_drop, List.length_append, Nat.mul_add]
  failures call := by rw [h'.failures, h.scripted, List.length_append, Nat.mul_add]

end

/-! ### The two calls of a batch -/

/-- Results were made, for tasks that are still to be submitted. -/
structure Made (session : String) (n : Nat) (u u' : UnsteadyPlane) : Prop where
  submitted : u'.base.submitted = u.base.submitted
  count : u'.base.resultCount = u.base.resultCount + n
  sizes : u'.base.submitBatchSizes = u.base.submitBatchSizes
  calls : u'.base.calls = u.base.calls ++ [(.createResults, session)]
  arrivals : u'.arrivals = u.arrivals.drop 1
  failures : ∀ call, u'.base.failures call = u.scripted 1 call

variable {session : String} {u u' : UnsteadyPlane} {e : ClientError}

theorem Made.refuses {n : Nat} (h : Made session n u u') : Refuses u u' := ⟨h.submitted, h.sizes⟩

theorem exists_createResults_of_some (session : String) (names : List String)
    (h : u.failure? 0 .createResults = some e) :
    ∃ u', plane.createResults session names u = (.error e, u') ∧ Refuses u u' := by
  obtain ⟨rest, hs⟩ := List.head?_eq_some_iff.mp h
  have hc := createResults_of_cons session names ((failures_arrive u .createResults).trans hs)
  refine ⟨⟨u.arrive.base.failed .createResults session, u.arrivals.tail⟩, ?_, ?_, ?_⟩
  · simp only [plane, pass, hc]
    rfl
  all_goals
    rw [base_arrive]
    rfl

theorem exists_createResults_of_none (session : String) {names : List String} {batch : List Payload}
    (hn : names.length = batch.length) (h : u.failure? 0 .createResults = none) :
    ∃ u', plane.createResults session names u =
        (.ok ((u.base.prospects batch).map Taken.result), u') ∧ Made session batch.length u u' := by
  have hs := List.head?_eq_none_iff.mp h
  have hc := createResults_of_nil session names ((failures_arrive u .createResults).trans hs)
  have hcount : (u.arrive.base.logged .createResults session).resultCount = u.base.resultCount := by
    rw [base_arrive]
    rfl
  have hids := addResults_ids names.length (u.arrive.base.logged .createResults session)
  have hframe := addResults_frame names.length (u.arrive.base.logged .createResults session)
  refine ⟨⟨(addResults names.length (u.arrive.base.logged .createResults session)).1,
    u.arrivals.tail⟩, ?_, ?_⟩
  · simp only [plane, pass, hc]
    rw [hids, hcount, hn, prospects, Taken.map_result_following]
    rfl
  · constructor
    case arrivals => exact List.drop_one.symm
    case failures =>
      intro call
      rw [hframe]
      exact failures_arrive u call
    all_goals
      rw [hframe, base_arrive]
      simp only [logged, hn]

theorem exists_submitTasks_of_some (session : String) (options : Option TaskOptions)
    (tasks : List TaskSubmission) (h : u.failure? 0 .submitTasks = some e) :
    ∃ u', plane.submitTasks session options tasks u = (.error e, u') ∧ Refuses u u' := by
  obtain ⟨rest, hs⟩ := List.head?_eq_some_iff.mp h
  have hc := submitTasks_of_cons session options tasks ((failures_arrive u .submitTasks).trans hs)
  refine ⟨⟨u.arrive.base.failed .submitTasks session, u.arrivals.tail⟩, ?_, ?_, ?_⟩
  · simp only [plane, pass, hc]
    rfl
  all_goals
    rw [base_arrive]
    rfl

theorem Made.failure? {n : Nat} (h : Made session n u u') (k : Nat) (call : PlaneCall) :
    u'.failure? k call = u.failure? (k + 1) call := by
  rw [UnsteadyPlane.failure?, scripted_of_drop h.arrivals h.failures, Nat.add_comm 1]
  rfl

theorem Made.exists_submitTasks (options : TaskOptions) {batch : List Payload}
    (h : Made session batch.length u u') (hw : batch.findSome? Payload.writeError? = none)
    (hf : u'.failure? 0 .submitTasks = none) :
    ∃ u'', plane.submitTasks session (some options) ((u.base.prospects batch).map Taken.submission) u' =
        (.ok ((u.base.prospects batch).map fun t => ⟨t.task, [t.result]⟩), u'') ∧
      Accepts session options batch [batch.length] u u'' := by
  have hs := List.head?_eq_none_iff.mp hf
  have hc := submitTasks_of_nil session (some options)
    ((u.base.prospects batch).map Taken.submission) ((failures_arrive u' .submitTasks).trans hs)
  generalize hp : u'.arrive.base.offered session
    ((u.base.prospects batch).map Taken.submission).length = p at hc
  have hsub : p.submitted = u.base.submitted := by
    rw [← hp, base_arrive, ← h.submitted]
    rfl
  obtain ⟨htasks, ha⟩ := addTasks_eq session (some options) (u.base.prospects batch) (p := p)
    (hsub ▸ Taken.numbered_following _ _ batch) (Taken.encode_following hw)
    (nodup_prospects _ batch)
  have hframe := ha.frame
  generalize addTasks session (some options) ((u.base.prospects batch).map Taken.submission) p =
    added at hc htasks ha hframe
  refine ⟨⟨added.1, u'.arrivals.tail⟩, ?_, ?_⟩
  · simp only [plane, pass, hc, htasks]
    rfl
  · constructor
    case written => exact hw
    case submitted => rw [ha.submitted, hsub]
    case arrivals => rw [h.arrivals, List.tail_drop]; rfl
    case failures =>
      intro call
      rw [hframe, ← hp]
      show u'.arrive.base.failures call = _
      rw [failures_arrive, scripted_of_drop h.arrivals h.failures]
      rfl
    case count => rw [hframe, ← hp, base_arrive]; exact h.count
    case sizes =>
      rw [hframe, ← hp, base_arrive, ← h.sizes]
      simp [offered, logged, prospects]
    case calls =>
      rw [hframe, ← hp, base_arrive]
      simp [offered, logged, h.calls]

/-! ### Names -/

def named (n : Nat) (u : UnsteadyPlane) : UnsteadyPlane :=
  { u with base := { u.base with nameCount := u.base.nameCount + n } }

theorem freshNames_eq (n : Nat) (u : UnsteadyPlane) :
    (freshNames plane.freshName n u).1.length = n ∧
      (freshNames plane.freshName n u).2 = u.named n := by
  induction n generalizing u with
  | zero => exact ⟨rfl, rfl⟩
  | succ n ih =>
    obtain ⟨hl, hu⟩ := ih (plane.freshName u).2
    simp only [freshNames, List.length_cons, hl, hu]
    refine ⟨trivial, ?_⟩
    simp only [plane, freshName, named, Nat.add_assoc, Nat.add_comm 1 n]

@[simp] theorem failure?_named (n k : Nat) (call : PlaneCall) :
    (u.named n).failure? k call = u.failure? k call := rfl

@[simp] theorem prospects_named (n : Nat) (requests : List Payload) :
    (u.named n).base.prospects requests = u.base.prospects requests := rfl

theorem Refuses.of_named {n : Nat} (h : Refuses (u.named n) u') : Refuses u u' :=
  ⟨h.submitted, h.sizes⟩

theorem Accepts.of_named {options : TaskOptions} {requests : List Payload} {counts : List Nat} {n : Nat}
    (h : Accepts session options requests counts (u.named n) u') :
    Accepts session options requests counts u u' :=
  ⟨h.written, h.submitted, h.count, h.sizes, h.calls, h.arrivals, h.failures⟩

end UnsteadyPlane

namespace Session
open MemoryPlane

theorem mapM_submission (m n : Nat) (batch : List Payload) :
    (batch.zip ((Taken.following m n batch).map Taken.result)).mapM
        (fun e => submission e.1 e.2) =
      match batch.findSome? Payload.writeError? with
      | some e => .error e
      | none => .ok ((Taken.following m n batch).map Taken.submission) := by
  induction batch generalizing m n with
  | nil => rfl
  | cons request r ih =>
    rw [Taken.following, List.map_cons, List.zip_cons_cons, List.mapM_cons, ih, List.findSome?_cons]
    unfold submission
    cases he : request.encode with
    | error flaw =>
      have hw : request.writeError? = some flaw.toGrid.toClient := by simp [Payload.writeError?, he]
      rw [hw]
      rfl
    | ok bytes =>
      have hw : request.writeError? = none := by simp [Payload.writeError?, he]
      have hb : request.bytes = bytes := by simp [Payload.bytes, he, Except.toOption]
      rw [hw, hb]
      cases r.findSome? Payload.writeError? <;> rfl

variable (handler : Handler) (options : TaskOptions)

/-- A batch that does not fail: its tasks are taken, and then tracked. -/
theorem submitBatch_of_none {batch : List Payload} {u : UnsteadyPlane} (s : Session)
    (h : u.batchFailure? 0 batch = none) :
    ∃ u', submitBatch UnsteadyPlane.plane handler options batch s u =
        ⟨.ok ((u.base.prospects batch).map Taken.task),
          s.track handler (pairsOf (u.base.prospects batch)), u'⟩ ∧
      u.Accepts s.id options batch [batch.length] u' := by
  simp only [UnsteadyPlane.batchFailure?, Option.or_eq_none_iff] at h
  obtain ⟨hcreate, hwrite, hsubmit⟩ := h
  obtain ⟨hnames, hu⟩ := UnsteadyPlane.freshNames_eq batch.length u
  obtain ⟨u₁, hc, hmade⟩ := UnsteadyPlane.exists_createResults_of_none s.id hnames
    (u := u.named batch.length) hcreate
  obtain ⟨u₂, hs, hacc⟩ := hmade.exists_submitTasks options hwrite ((hmade.failure? 0 _).trans hsubmit)
  refine ⟨u₂, ?_, hacc.of_named⟩
  have hm := mapM_submission u.base.submitted.length u.base.resultCount batch
  rw [hwrite, ← prospects] at hm
  rw [UnsteadyPlane.prospects_named] at hc hs
  simp only [submitBatch, hu, hc, hm, hs]
  rw [if_neg (by simp [prospects]), accepted_map, pairsOf, List.map_map]
  rfl

/-- A batch that fails leaves everything as it was but for results that nobody is to produce. -/
theorem submitBatch_of_some {batch : List Payload} {u : UnsteadyPlane} {e : ClientError} (s : Session)
    (h : u.batchFailure? 0 batch = some e) :
    ∃ u', submitBatch UnsteadyPlane.plane handler options batch s u = ⟨.error e, s, u'⟩ ∧
      u.Refuses u' := by
  obtain ⟨hnames, hu⟩ := UnsteadyPlane.freshNames_eq batch.length u
  have hm := mapM_submission u.base.submitted.length u.base.resultCount batch
  rw [← prospects] at hm
  simp only [UnsteadyPlane.batchFailure?] at h
  cases hcreate : u.failure? 0 .createResults with
  | some e' =>
    obtain ⟨u₁, hc, hr⟩ := UnsteadyPlane.exists_createResults_of_some
      (u := u.named batch.length) s.id (freshNames UnsteadyPlane.plane.freshName batch.length u).1 hcreate
    rw [hcreate, Option.some_or] at h
    cases h
    exact ⟨u₁, by simp only [submitBatch, hu, hc], hr.of_named⟩
  | none =>
    obtain ⟨u₁, hc, hmade⟩ := UnsteadyPlane.exists_createResults_of_none s.id hnames
      (u := u.named batch.length) hcreate
    rw [hcreate, Option.none_or] at h
    rw [UnsteadyPlane.prospects_named] at hc
    cases hwrite : batch.findSome? Payload.writeError? with
    | some e' =>
      rw [hwrite, Option.some_or] at h
      cases h
      rw [hwrite] at hm
      refine ⟨u₁, ?_, hmade.refuses.of_named⟩
      simp only [submitBatch, hu, hc, hm]
      rw [if_neg (by simp [prospects])]
    | none =>
      rw [hwrite, Option.none_or] at h
      rw [hwrite] at hm
      obtain ⟨u₂, hs, hr⟩ := UnsteadyPlane.exists_submitTasks_of_some s.id (some options)
        ((u.base.prospects batch).map Taken.submission) ((hmade.failure? 0 _).trans h)
      refine ⟨u₂, ?_, hr.submitted.trans hmade.submitted, hr.sizes.trans hmade.sizes⟩
      simp only [submitBatch, hu, hc, hm, hs]
      rw [if_neg (by simp [prospects])]

/-- Batches that do not fail: all their tasks are taken, in the order of the requests. -/
theorem submitBatches_of_none {batches : List (List Payload)} {u : UnsteadyPlane} (s : Session)
    (h : ∀ j batch, batches[j]? = some batch → u.batchFailure? j batch = none) :
    ∃ u', submitBatches UnsteadyPlane.plane handler options batches s u =
        ⟨.ok ((u.base.prospects batches.flatten).map Taken.task),
          s.track handler (pairsOf (u.base.prospects batches.flatten)), u'⟩ ∧
      u.Accepts s.id options batches.flatten (batches.map List.length) u' := by
  induction batches generalizing s u with
  | nil => exact ⟨u, rfl, UnsteadyPlane.accepts_nil s.id options u⟩
  | cons batch r ih =>
    obtain ⟨u₁, hb, hacc⟩ := submitBatch_of_none handler options s (h 0 batch rfl)
    -- the failures that later batches may meet are counted on from this one
    obtain ⟨u₂, hr, hacc'⟩ := ih (s.track handler (pairsOf (u.base.prospects batch))) (u := u₁)
      fun j batch' hj => by
        rw [hacc.batchFailure?, List.length_singleton, Nat.add_comm]
        exact h (j + 1) batch' hj
    refine ⟨u₂, ?_, hacc.trans hacc'⟩
    simp only [submitBatches, hb, hr, List.flatten_cons, hacc.prospects_append]
    simp [track, pairsOf]

theorem submitBatches_append {σ : Type} (plane : ControlPlane σ) (a b : List (List Payload))
    (s : Session) (w : σ) :
    submitBatches plane handler options (a ++ b) s w =
      match submitBatches plane handler options a s w with
      | ⟨.error e, s, w⟩ => ⟨.error e, s, w⟩
      | ⟨.ok tasks, s, w⟩ =>
        match submitBatches plane handler options b s w with
        | ⟨.error e, s, w⟩ => ⟨.error e, s, w⟩
        | ⟨.ok more, s, w⟩ => ⟨.ok (tasks ++ more), s, w⟩ := by
  induction a generalizing s w with
  | nil =>
    simp only [List.nil_append, submitBatches]
    rcases submitBatches plane handler options b s w with ⟨_ | _, _, _⟩ <;> rfl
  | cons batch r ih =>
    simp only [List.cons_append, submitBatches, ih]
    rcases submitBatch plane handler options batch s w with ⟨_ | tasks, s', w'⟩
    · rfl
    · dsimp only
      rcases submitBatches plane handler options r s' w' with ⟨_ | more, s'', w''⟩
      · rfl
      · dsimp only
        rcases submitBatches plane handler options b s'' w'' with ⟨_ | _, _, _⟩
        · rfl
        · simp

/-- The first batch that fails: the tasks of the batches before it are taken and tracked. -/
theorem submitBatches_of_some {batches : List (List Payload)} {u : UnsteadyPlane} {j : Nat}
    {batch : List Payload} {e : ClientError} (s : Session) (hj : batches[j]? = some batch)
    (hbefore : ∀ k < j, ∀ earlier, batches[k]? = some earlier → u.batchFailure? k earlier = none)
    (h : u.batchFailure? j batch = some e) :
    ∃ u' u'', submitBatches UnsteadyPlane.plane handler options batches s u =
        ⟨.error e, s.track handler (pairsOf (u.base.prospects (batches.take j).flatten)), u''⟩ ∧
      u.Accepts s.id options (batches.take j).flatten ((batches.take j).map List.length) u' ∧
      u'.Refuses u'' := by
  have hlt : j < batches.length := (List.getElem?_eq_some_iff.mp hj).1
  have hlen : (batches.take j).length = j := by
    rw [List.length_take]
    omega
  have hsplit : batches.take j ++ batch :: batches.drop (j + 1) = batches := by
    rw [← (List.getElem?_eq_some_iff.mp hj).2, ← List.drop_eq_getElem_cons hlt,
      List.take_append_drop]
  have hcalm : ∀ k earlier, (batches.take j)[k]? = some earlier → u.batchFailure? k earlier = none := by
    intro k earlier hk
    have hkj : k < j := hlen ▸ (List.getElem?_eq_some_iff.mp hk).1
    rw [List.getElem?_take_of_lt hkj] at hk
    exact hbefore k hkj earlier hk
  obtain ⟨u₁, hdone, hacc⟩ := submitBatches_of_none handler options s hcalm
  have hfail : u₁.batchFailure? 0 batch = some e := by
    rw [hacc.batchFailure?, List.length_map, hlen]
    exact h
  obtain ⟨u₂, hbatch, hr⟩ := submitBatch_of_some handler options
    (s.track handler (pairsOf (u.base.prospects (batches.take j).flatten))) hfail
  have happ := submitBatches_append handler options UnsteadyPlane.plane (batches.take j)
    (batch :: batches.drop (j + 1)) s u
  rw [hsplit, hdone] at happ
  refine ⟨u₁, u₂, ?_, hacc, hr⟩
  rw [happ]
  simp only [submitBatches, hbatch]

def batching (s : Session) (b : Nat) (hb : 0 < b) : Session :=
  { s with submitBatchSize := b, submit_pos := hb }

/-- What a submission leaves behind once its requests became tasks, in submissions of these sizes. -/
structure Brings (requests : List Payload) (sizes : List Nat) (s : Session) (p : MemoryPlane)
    (r : SessionResult UnsteadyPlane (List String)) : Prop where
  written : ∀ t ∈ p.prospects requests, t.request.encode = .ok t.bytes
  records : r.plane.base.submitted =
    p.submitted ++ (p.prospects requests).map (Taken.record s.id (some options))
  sizes : r.plane.base.submitBatchSizes = p.submitBatchSizes ++ sizes
  distinct : ((p.prospects requests).map Taken.result).Nodup
  fresh : ∀ t ∈ p.prospects requests, s.tracker.byResult.get? t.result = none
  session : r.session = s.track handler (pairsOf (p.prospects requests))
  entries : r.session.tracker.byResult.entries =
    s.tracker.byResult.entries ++ entriesOf handler (p.prospects requests)
  pending : r.session.pendingCount = s.pendingCount + requests.length

/-- New tasks come after all that was tracked. -/
theorem Anchored.brings {s : Session} {p : MemoryPlane} (hs : s.Anchored p) (hp : p.Sound)
    {requests : List Payload} {sizes : List Nat} {answer : Except ClientError (List String)}
    {u : UnsteadyPlane} (written : requests.findSome? Payload.writeError? = none)
    (records : u.base.submitted =
      p.submitted ++ (p.prospects requests).map (Taken.record s.id (some options)))
    (hsizes : u.base.submitBatchSizes = p.submitBatchSizes ++ sizes) :
    Brings handler options requests sizes s p
      ⟨answer, s.track handler (pairsOf (p.prospects requests)), u⟩ := by
  have hfresh : ∀ t ∈ p.prospects requests, ∃ k, p.resultCount < k ∧ t.result = resultId k := by
    intro t ht
    have hm := List.mem_map_of_mem (f := Taken.result) ht
    rw [prospects, Taken.map_result_following] at hm
    obtain ⟨k, hk, e⟩ := List.mem_map.mp hm
    rw [List.mem_range'_1] at hk
    exact ⟨k, by omega, e.symm⟩
  obtain ⟨-, he⟩ := hs.track hp handler (nodup_prospects p requests)
    (Taken.numbered_following _ _ requests) hfresh
  constructor
  case written => exact Taken.encode_following written
  case records => exact records
  case sizes => exact hsizes
  case distinct => exact nodup_prospects p requests
  case session => rfl
  case entries => exact he
  case pending =>
    rw [pendingCount, Tracker.size, Table.size, he]
    simp [entriesOf, prospects, pendingCount, Tracker.size, Table.size]
  case fresh =>
    intro t ht
    obtain ⟨k, hk, hid⟩ := hfresh t ht
    rw [hid]
    exact hs.get?_resultId hp hk

/-! ### Submissions to a plane on which nothing is scripted meanwhile -/

theorem freshNames_steady (n : Nat) (p : MemoryPlane) :
    freshNames UnsteadyPlane.plane.freshName n ⟨p, []⟩ =
      ((freshNames MemoryPlane.plane.freshName n p).1,
        ⟨(freshNames MemoryPlane.plane.freshName n p).2, []⟩) := by
  induction n generalizing p with
  | zero => rfl
  | succ n ih =>
    have h := ih (MemoryPlane.freshName p).2
    show (_ :: (freshNames UnsteadyPlane.plane.freshName n ⟨(MemoryPlane.freshName p).2, []⟩).1,
      (freshNames UnsteadyPlane.plane.freshName n ⟨(MemoryPlane.freshName p).2, []⟩).2) = _
    rw [h]
    rfl

/-- What a call to a plane in memory left behind, on a plane on which nothing is scripted. -/
def steady {α : Type} (r : SessionResult MemoryPlane α) : SessionResult UnsteadyPlane α :=
  ⟨r.answer, r.session, ⟨r.plane, []⟩⟩

theorem submitBatch_steady (batch : List Payload) (s : Session) (p : MemoryPlane) :
    submitBatch UnsteadyPlane.plane handler options batch s ⟨p, []⟩ =
      steady (submitBatch MemoryPlane.plane handler options batch s p) := by
  simp only [submitBatch, freshNames_steady]
  rcases freshNames MemoryPlane.plane.freshName batch.length p with ⟨names, p₀⟩
  have hc : UnsteadyPlane.plane.createResults s.id names ⟨p₀, []⟩ =
    ((plane.createResults s.id names p₀).1, ⟨(plane.createResults s.id names p₀).2, []⟩) := rfl
  rw [hc]
  rcases plane.createResults s.id names p₀ with ⟨e | made, p₁⟩
  · rfl
  · dsimp only
    split
    · rfl
    · cases (batch.zip made).mapM fun e => submission e.1 e.2 with
      | error e => rfl
      | ok submissions =>
        have hs : UnsteadyPlane.plane.submitTasks s.id (some options) submissions ⟨p₁, []⟩ =
          ((plane.submitTasks s.id (some options) submissions p₁).1,
            ⟨(plane.submitTasks s.id (some options) submissions p₁).2, []⟩) := rfl
        dsimp only
        rw [hs]
        rcases plane.submitTasks s.id (some options) submissions p₁ with ⟨_ | _, _⟩ <;> rfl

theorem submitBatches_steady (batches : List (List Payload)) (s : Session) (p : MemoryPlane) :
    submitBatches UnsteadyPlane.plane handler options batches s ⟨p, []⟩ =
      steady (submitBatches MemoryPlane.plane handler options batches s p) := by
  induction batches generalizing s p with
  | nil => rfl
  | cons batch r ih =>
    simp only [submitBatches, submitBatch_steady]
    rcases submitBatch MemoryPlane.plane handler options batch s p with ⟨_ | tasks, s', p'⟩
    · rfl
    · simp only [steady, ih]
      rcases submitBatches MemoryPlane.plane handler options r s' p' with ⟨_ | _, _, _⟩ <;> rfl

/-- With nothing scripted meanwhile a submission is one to the plane in memory. -/
theorem submit_steady (s : Session) (requests : List Payload) (options : Option TaskOptions)
    (p : MemoryPlane) :
    s.submit UnsteadyPlane.plane requests handler options ⟨p, []⟩ =
      steady (s.submit MemoryPlane.plane requests handler options p) := by
  unfold submit
  split
  · rfl
  · exact submitBatches_steady handler _ _ s p

end Session
end TaskGrid
