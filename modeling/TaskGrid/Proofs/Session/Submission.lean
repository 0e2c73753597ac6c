import TaskGrid.Proofs.Plane.Submission
import TaskGrid.Session.Basic

/-! What a submission to a control plane in memory does, also when it fails on the way: some tasks are
taken, in the order of the requests, and exactly those are tracked. -/
namespace TaskGrid
namespace Session
open MemoryPlane

def entriesOf (handler : Handler) (taken : List Taken) : List (String × Tracked) :=
  taken.map fun t => (t.result, ⟨t.task, handler⟩)

def pairsOf (taken : List Taken) : List (String × String) := taken.map fun t => (t.task, t.result)

/-- Tasks taken by a plane and tracked by a session. -/
structure Takes (handler : Handler) (options : TaskOptions) (taken : List Taken) (s : Session)
    (p : MemoryPlane) (s' : Session) (p' : MemoryPlane) : Prop where
  encoded : ∀ t ∈ taken, t.request.encode = .ok t.bytes
  numbered : Taken.Numbered p.submitted.length taken
  fresh : ∀ t ∈ taken, ∃ k, p.resultCount < k ∧ k ≤ p'.resultCount ∧ t.result = resultId k
  distinct : (taken.map Taken.result).Nodup
  session : s' = s.track handler (pairsOf taken)
  submitted : p'.submitted = p.submitted ++ taken.map (Taken.record s.id (some options))
  stored : ∀ t ∈ taken, p'.result t.result = p.owned t
  others : ∀ id, id ∉ taken.map Taken.result → p'.result id = p.result id
  tasks : ∀ task outputs, p'.tasks.get? task = some outputs →
    p.tasks.get? task = some outputs ∨ ∃ t ∈ taken, outputs = [t.result]
  count : p.resultCount ≤ p'.resultCount
  responder : p'.responder = p.responder
  pollDelay : p'.pollDelay = p.pollDelay
  deleted : p'.deleted = p.deleted
  failures : ∀ call, p'.failures call <:+ p.failures call

section
variable {handler : Handler} {options : TaskOptions} {taken taken' : List Taken} {s s' s'' : Session}
  {p p' p'' : MemoryPlane}

theorem Takes.length_submitted (h : Takes handler options taken s p s' p') :
    p'.submitted.length = p.submitted.length + taken.length := by
  simp [h.submitted]

/-- The results of earlier tasks are not those of later ones. -/
theorem Takes.result_not_mem (h : Takes handler options taken s p s' p')
    (h' : Takes handler options taken' s' p' s'' p'') {t : Taken} (ht : t ∈ taken) :
    t.result ∉ taken'.map Taken.result := by
  intro hm
  obtain ⟨u, hu, he⟩ := List.mem_map.mp hm
  obtain ⟨k, -, hk, hrk⟩ := h.fresh t ht
  obtain ⟨j, hj, -, hrj⟩ := h'.fresh u hu
  rw [hrk, hrj, resultId_inj] at he
  omega

theorem Takes.owned_eq (h : Takes handler options taken s p s' p') {t : Taken}
    (ht : t.result ∉ taken.map Taken.result) : p'.owned t = p.owned t := by
  unfold owned answerTo
  rw [h.others _ ht, h.pollDelay, h.responder]

theorem Takes.trans (h : Takes handler options taken s p s' p')
    (h' : Takes handler options taken' s' p' s'' p'') :
    Takes handler options (taken ++ taken') s p s'' p'' := by
  have hid : s'.id = s.id := by rw [h.session]; rfl
  have hback : ∀ u ∈ taken', u.result ∉ taken.map Taken.result := by
    intro u hu hm
    obtain ⟨t, ht, he⟩ := List.mem_map.mp hm
    exact h.result_not_mem h' ht (List.mem_map.mpr ⟨u, hu, he.symm⟩)
  constructor
  case encoded => exact List.forall_mem_append.mpr ⟨h.encoded, h'.encoded⟩
  case numbered => exact h.numbered.append (h.length_submitted ▸ h'.numbered)
  case fresh =>
    refine List.forall_mem_append.mpr ⟨fun t ht => ?_, fun t ht => ?_⟩
    · obtain ⟨k, hk, hk', e⟩ := h.fresh t ht
      exact ⟨k, hk, Nat.le_trans hk' h'.count, e⟩
    · obtain ⟨k, hk, hk', e⟩ := h'.fresh t ht
      exact ⟨k, Nat.lt_of_le_of_lt h.count hk, hk', e⟩
  case distinct =>
    rw [List.map_append]
    refine List.nodup_append.mpr ⟨h.distinct, h'.distinct, ?_⟩
    rintro a ha b hb rfl
    obtain ⟨u, hu, rfl⟩ := List.mem_map.mp hb
    exact hback u hu ha
  case session => rw [h'.session, h.session]; simp [track, pairsOf]
  case submitted => rw [h'.submitted, h.submitted, hid]; simp
  case stored =>
    refine List.forall_mem_append.mpr ⟨fun t ht => ?_, fun t ht => ?_⟩
    · rw [h'.others _ (h.result_not_mem h' ht), h.stored t ht]
    · rw [h'.stored t ht, h.owned_eq (hback t ht)]
  case others =>
    intro id hid
    simp only [List.map_append, List.mem_append, not_or] at hid
    rw [h'.others id hid.2, h.others id hid.1]
  case tasks =>
    intro task outputs ho
    rcases h'.tasks task outputs ho with ho | ⟨t, ht, e⟩
    · rcases h.tasks task outputs ho with ho | ⟨t, ht, e⟩
      · exact .inl ho
      · exact .inr ⟨t, List.mem_append_left _ ht, e⟩
    · exact .inr ⟨t, List.mem_append_right _ ht, e⟩
  case count => exact Nat.le_trans h.count h'.count
  case responder => exact h'.responder.trans h.responder
  case pollDelay => exact h'.pollDelay.trans h.pollDelay
  case deleted => exact h'.deleted.trans h.deleted
  case failures => exact fun call => (h'.failures call).trans (h.failures call)

/-- Nothing is taken; results may have been made. -/
theorem takes_nil (s : Session) (results : ∀ id, p'.result id = p.result id)
    (count : p.resultCount ≤ p'.resultCount) (submitted : p'.submitted = p.submitted)
    (tasks : p'.tasks = p.tasks) (responder : p'.responder = p.responder)
    (pollDelay : p'.pollDelay = p.pollDelay) (deleted : p'.deleted = p.deleted)
    (failures : ∀ call, p'.failures call <:+ p.failures call) :
    Takes handler options [] s p s p' where
  encoded := by simp
  numbered := by simp [Taken.Numbered]
  fresh := by simp
  distinct := List.nodup_nil
  session := rfl
  submitted := by simp [submitted]
  stored := by simp
  others id _ := results id
  tasks task outputs h := .inl (tasks ▸ h)
  count := count
  responder := responder
  pollDelay := pollDelay
  deleted := deleted
  failures := failures

/-- Nothing is taken and no result is made. -/
theorem takes_silent (s : Session) (results : p'.results = p.results)
    (count : p'.resultCount = p.resultCount) (submitted : p'.submitted = p.submitted)
    (tasks : p'.tasks = p.tasks) (responder : p'.responder = p.responder)
    (pollDelay : p'.pollDelay = p.pollDelay) (deleted : p'.deleted = p.deleted)
    (failures : ∀ call, p'.failures call <:+ p.failures call) :
    Takes handler options [] s p s p' :=
  takes_nil s (fun _ => by unfold result; rw [results]) (Nat.le_of_eq count.symm) submitted tasks
    responder pollDelay deleted failures

theorem takes_failed (s : Session) (p : MemoryPlane) (call : PlaneCall) (target : String) :
    Takes handler options [] s p s (p.failed call target) :=
  takes_silent s rfl rfl rfl rfl rfl rfl rfl (undisturbed_failed p call target).failures

theorem takes_addResults (s : Session) (n : Nat) (p : MemoryPlane) :
    Takes handler options [] s p s (addResults n p).1 := by
  have hf := addResults_frame n p
  refine takes_nil s (result_addResults n p) ?_ ?_ ?_ ?_ ?_ ?_ ?_
  all_goals rw [hf]
  · exact Nat.le_add_right _ _
  · exact fun _ => List.suffix_refl _

/-- Tasks that are taken after results were made for them. -/
theorem Takes.adds (h : Takes handler options [] s p s p')
    (hnum : Taken.Numbered p.submitted.length taken)
    (henc : ∀ t ∈ taken, t.request.encode = .ok t.bytes) (hd : (taken.map Taken.result).Nodup)
    (hmade : ∀ t ∈ taken, ∃ k, p.resultCount < k ∧ k ≤ p'.resultCount ∧ t.result = resultId k)
    (ha : AddsTasks s.id (some options) taken p' p'') :
    Takes handler options taken s p (s.track handler (pairsOf taken)) p'' := by
  have hf := ha.frame
  constructor
  case encoded => exact henc
  case numbered => exact hnum
  case fresh => rw [hf]; exact hmade
  case distinct => exact hd
  case session => rfl
  case submitted => rw [ha.submitted, h.submitted]; simp
  case stored => exact fun t ht => by rw [ha.stored t ht, h.owned_eq (by simp)]
  case others => exact fun id hid => by rw [ha.others id hid, h.others id (by simp)]
  case tasks =>
    intro task outputs ho
    rcases ha.tasks task outputs ho with ho | ho
    · exact (h.tasks task outputs ho).imp_right fun ⟨t, ht, _⟩ => absurd ht List.not_mem_nil
    · exact .inr ho
  case count => rw [hf]; exact h.count
  case responder => rw [hf]; exact h.responder
  case pollDelay => rw [hf]; exact h.pollDelay
  case deleted => rw [hf]; exact h.deleted
  case failures => rw [hf]; exact h.failures

end

/-- The requests of a batch with the results made for them, as the tasks they become. -/
theorem exists_taken (n : Nat) {batch : List Payload} {made : List String}
    {submissions : List TaskSubmission} (hl : made.length = batch.length)
    (h : (batch.zip made).mapM (fun e => submission e.1 e.2) = .ok submissions) :
    ∃ taken : List Taken, taken.map Taken.request = batch ∧ taken.map Taken.result = made ∧
      taken.map Taken.submission = submissions ∧ Taken.Numbered n taken ∧
      ∀ t ∈ taken, t.request.encode = .ok t.bytes := by
  induction batch generalizing n made submissions with
  | nil =>
    cases made with
    | nil => cases h; exact ⟨[], by simp [Taken.Numbered]⟩
    | cons _ _ => simp at hl
  | cons request batch ih =>
    cases made with
    | nil => simp at hl
    | cons result made =>
      rw [List.zip_cons_cons, List.mapM_cons] at h
      unfold submission at h
      cases he : request.encode with
      | error flaw => simp only [he] at h; cases h
      | ok bytes =>
        cases hr : (batch.zip made).mapM (fun e => submission e.1 e.2) with
        | error e => unfold submission at hr; simp only [he, hr] at h; cases h
        | ok rest =>
          obtain ⟨taken, rfl, rfl, rfl, hn, henc⟩ := ih (n + 1) (by simpa using hl) hr
          unfold submission at hr
          simp only [he, hr] at h
          cases h
          refine ⟨⟨taskId (n + 1), result, request, bytes⟩ :: taken, rfl, rfl, rfl, ?_, ?_⟩
          · exact Taken.numbered_cons.mpr ⟨rfl, hn⟩
          · exact List.forall_mem_cons.mpr ⟨he, henc⟩

theorem accepted_map (made : List String) (index : Nat) (taken : List Taken) :
    accepted made index (taken.map fun t => ⟨t.task, [t.result]⟩) = pairsOf taken := by
  induction taken generalizing index with
  | nil => rfl
  | cons t r ih => simp only [List.map_cons, accepted, resultFor, ih]; rfl

variable (handler : Handler) (options : TaskOptions)

/-- What became of a batch, or of several: the tasks taken are those of the answer if there is one. -/
structure Submits (requests : List Payload) (s : Session) (p : MemoryPlane)
    (r : SessionResult MemoryPlane (List String)) (taken : List Taken) : Prop where
  takes : Takes handler options taken s p r.session r.plane
  sent : taken.map Taken.request <+: requests
  answered : ∀ ids, r.answer = .ok ids → ids = taken.map Taken.task ∧ taken.map Taken.request = requests

variable {handler options}

theorem submits_error {requests : List Payload} {s : Session} {p p' : MemoryPlane} {e : ClientError}
    (h : Takes handler options [] s p s p') :
    ∃ taken, Submits handler options requests s p ⟨.error e, s, p'⟩ taken :=
  ⟨[], h, List.nil_prefix, by simp⟩

variable (handler options)

theorem submitBatch_submits (batch : List Payload) (s : Session) (p : MemoryPlane) :
    ∃ taken, Submits handler options batch s p (submitBatch plane handler options batch s p) taken := by
  obtain ⟨hnames, hp⟩ := freshNames_eq batch.length p
  have hf : freshNames plane.freshName batch.length p = freshNames freshName batch.length p := rfl
  simp only [submitBatch, hf]
  generalize freshNames freshName batch.length p = fresh at *
  obtain ⟨names, p0⟩ := fresh
  have h0 : Takes handler options [] s p s p0 := by
    cases hp
    exact takes_silent s rfl rfl rfl rfl rfl rfl rfl fun _ => List.suffix_refl _
  cases hc : p0.failures .createResults with
  | cons e rest =>
    simp only [plane, createResults_of_cons s.id names hc]
    exact submits_error (h0.trans (takes_failed s p0 .createResults s.id))
  | nil =>
    simp only [plane, createResults_of_nil s.id names hc, hnames]
    have h1 : Takes handler options [] s p s (p0.logged .createResults s.id) :=
      h0.trans (takes_silent s rfl rfl rfl rfl rfl rfl rfl fun _ => List.suffix_refl _)
    generalize p0.logged .createResults s.id = p1 at *
    have h2 : Takes handler options [] s p s (addResults batch.length p1).1 :=
      h1.trans (takes_addResults s batch.length p1)
    have hids : (addResults batch.length p1).2.length = batch.length := by simp [addResults_ids]
    have hmade := @mem_addResults batch.length p1
    have hdistinct := nodup_addResults batch.length p1
    have hcount : (addResults batch.length p1).1.resultCount = p1.resultCount + batch.length := by
      rw [addResults_frame]
    generalize addResults batch.length p1 = made at *
    obtain ⟨p2, ids⟩ := made
    rw [if_neg (by simpa using hids)]
    cases hm : (batch.zip ids).mapM (fun e => submission e.1 e.2) with
    | error e => exact submits_error h2
    | ok submissions =>
      cases ht : p2.failures .submitTasks with
      | cons e rest =>
        simp only [submitTasks_of_cons s.id (some options) submissions ht]
        exact submits_error (h2.trans (takes_failed s p2 .submitTasks s.id))
      | nil =>
        obtain ⟨taken, hreq, hres, rfl, hnum, henc⟩ := exists_taken p2.submitted.length hids hm
        simp only [submitTasks_of_nil s.id (some options) _ ht]
        have h3 : Takes handler options [] s p s (p2.offered s.id (taken.map Taken.submission).length) :=
          h2.trans (takes_silent s rfl rfl rfl rfl rfl rfl rfl fun _ => List.suffix_refl _)
        have hd : (taken.map Taken.result).Nodup := hres ▸ hdistinct
        obtain ⟨htasks, ha⟩ := addTasks_eq s.id (some options) taken
          (p := p2.offered s.id (taken.map Taken.submission).length) hnum henc hd
        have hpairs := accepted_map ids 0 taken
        rw [← htasks] at hpairs
        rw [hpairs]
        have hlen : p2.submitted.length = p.submitted.length := h2.length_submitted
        refine ⟨taken, h3.adds (hlen ▸ hnum) henc hd (fun t ht => ?_) ha, hreq ▸ List.prefix_refl _, ?_⟩
        · obtain ⟨k, hk, hk', e⟩ := hmade (hres ▸ List.mem_map.mpr ⟨t, ht, rfl⟩)
          exact ⟨k, Nat.lt_of_le_of_lt h1.count hk, Nat.le_trans hk' (Nat.le_of_eq hcount.symm), e⟩
        · rintro _ ⟨⟩
          simp [pairsOf, hreq]

/-- Batches are taken one after the other up to the first that fails. -/
theorem submitBatches_submits (batches : List (List Payload)) (s : Session) (p : MemoryPlane) :
    ∃ taken, Submits handler options batches.flatten s p
      (submitBatches plane handler options batches s p) taken := by
  induction batches generalizing s p with
  | nil =>
    refine ⟨[], takes_silent s rfl rfl rfl rfl rfl rfl rfl fun _ => List.suffix_refl _, ?_, ?_⟩
    · exact List.nil_prefix
    · rintro _ ⟨⟩
      exact ⟨rfl, rfl⟩
  | cons batch r ih =>
    obtain ⟨taken, h⟩ := submitBatch_submits handler options batch s p
    rw [submitBatches, List.flatten_cons]
    generalize submitBatch plane handler options batch s p = b at h
    obtain ⟨e | ids, s', p'⟩ := b
    · exact ⟨taken, h.takes, h.sent.trans (List.prefix_append _ _), by simp⟩
    · obtain ⟨rfl, hreq⟩ := h.answered ids rfl
      obtain ⟨taken', h'⟩ := ih s' p'
      dsimp only
      generalize submitBatches plane handler options r s' p' = b' at h'
      obtain ⟨e | ids', s'', p''⟩ := b'
      · refine ⟨taken ++ taken', h.takes.trans h'.takes, ?_, by simp⟩
        rw [List.map_append, hreq]
        exact List.prefix_append_right_inj batch |>.mpr h'.sent
      · obtain ⟨rfl, hreq'⟩ := h'.answered ids' rfl
        refine ⟨taken ++ taken', h.takes.trans h'.takes, ?_, ?_⟩
        · simp only [List.map_append, hreq, hreq', List.prefix_rfl]
        · rintro _ ⟨⟩
          simp [hreq, hreq']

theorem submit_submits (s : Session) (requests : List Payload) (options : Option TaskOptions)
    (p : MemoryPlane) :
    ∃ taken, Submits handler (options.getD s.options) requests s p
      (s.submit plane requests handler options p) taken := by
  unfold submit
  split
  · exact submits_error (takes_silent s rfl rfl rfl rfl rfl rfl rfl fun _ => List.suffix_refl _)
  · have h := submitBatches_submits handler (options.getD s.options) (chunks s.submitBatchSize requests) s p
    rwa [flatten_chunks] at h

end Session
end TaskGrid
