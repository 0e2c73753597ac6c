import TaskGrid.Proofs.Fleet.Conservation
import TaskGrid.Proofs.Shared.Basic

/-! Interleaved callers never deliver twice and never lose a task: every entry is in one place at a time,
whatever the order of their steps. -/
namespace TaskGrid

theorem Ledger.share_singleton {α : Type} (i : Nat) (x : α) : share i [(i, x)] = [x] :=
  share_map_self i [x]

namespace SharedSession

inductive Custody where
  | tracked
  | handed (caller : Nat)
  | cleared
  deriving DecidableEq, Repr

variable {σ : Type}

def Has (h : SharedSession σ) (e : String × Tracked) : Custody → Prop
  | .tracked => e ∈ h.session.tracker.byResult.entries
  | .handed i => (i, e) ∈ h.handed
  | .cleared => e ∈ h.cleared

def holding (h : SharedSession σ) (i : Nat) : List (String × Tracked) :=
  (h.callers[i]?).elim [] Caller.holding

def callbacks (h : SharedSession σ) (task : String) : List (Nat × Delivery) :=
  h.called.filter (·.2.task = task)

/-- What came in is tracked, was handed out or was cleared, and a caller passes on what it was handed. -/
structure Kept (h : SharedSession σ) : Prop where
  conserved : h.inserted.Perm
    (h.session.tracker.byResult.entries ++ (h.handed.map Prod.snd ++ h.cleared))
  results : (h.inserted.map Prod.fst).Nodup
  tasks : (h.inserted.map (·.2.task)).Nodup
  passed : ∀ i, ((Ledger.share i h.handed).map Prod.snd).Perm
    ((Ledger.share i h.called).map Delivery.tracked ++
      (Ledger.share i h.discarded ++ (h.holding i).map Prod.snd))

theorem kept_start (s : Session) (w : σ) : (start s w).Kept :=
  ⟨.refl _, .nil, .nil, fun _ => .refl _⟩

variable {h : SharedSession σ} {i : Nat} {c : Caller}

theorem holding_setCaller (hc : h.callers[i]? = some c) (c' : Caller) (j : Nat) :
    (h.setCaller i c').holding j = if i = j then c'.holding else h.holding j := by
  unfold holding
  split
  · next e =>
    subst e
    rw [getElem?_setCaller hc]
    rfl
  · next e => rw [setCaller, List.getElem?_set_ne e]

theorem holding_of_getElem? (hc : h.callers[i]? = some c) : h.holding i = c.holding := by
  rw [holding, hc]
  rfl

/-- A caller may change in all but what it holds. -/
theorem Kept.setCaller (k : h.Kept) (hc : h.callers[i]? = some c) {c' : Caller}
    (he : c'.holding = c.holding) : (h.setCaller i c').Kept where
  conserved := k.conserved
  results := k.results
  tasks := k.tasks
  passed j := by
    have hj : (h.setCaller i c').holding j = h.holding j := by
      rw [holding_setCaller hc]
      split
      · next e => rw [← e, holding_of_getElem? hc, he]
      · rfl
    rw [hj]
    exact k.passed j

theorem Kept.join (k : h.Kept) (hc : c.holding = []) :
    Kept { h with callers := h.callers ++ [c] } where
  conserved := k.conserved
  results := k.results
  tasks := k.tasks
  passed j := by
    have hj : holding { h with callers := h.callers ++ [c] } j = h.holding j := by
      simp only [holding, List.getElem?_append]
      split
      · rfl
      · next hle =>
        rw [List.getElem?_eq_none (Nat.le_of_not_lt hle)]
        cases hn : [c][j - h.callers.length]? with
        | none => rfl
        | some c' =>
          rw [List.mem_singleton.mp (List.mem_of_getElem? hn)]
          exact hc
    rw [hj]
    exact k.passed j

theorem Kept.elsewhere (k : h.Kept) (w : σ) : Kept { h with world := w } :=
  ⟨k.conserved, k.results, k.tasks, k.passed⟩

theorem Kept.claim (k : h.Kept) (hc : h.callers[i]? = some c) (hh : c.holding = [])
    (statuses : Table String ResultStatus) (visit : Visit) : (h.claim i c statuses visit).Kept := by
  have hclaim := h.session.tracker.entries_perm_claim (visit.arrange statuses.entries)
  generalize hcl : h.session.tracker.claim (visit.arrange statuses.entries) = claimed at hclaim
  obtain ⟨tracker, claims⟩ := claimed
  have hstep : h.claim i c statuses visit =
      { h.setCaller i ⟨Session.settle c.waiter claims, c.behavior, c.options,
          .delivering claims false⟩ with
        session := { h.session with tracker }
        handed := h.handed ++ (claims.filterMap Tracker.Claim.held?).map fun e => (i, e) } := by
    simp only [SharedSession.claim, hcl]
  rw [hstep]
  constructor
  case conserved =>
    have hk := k.conserved
    rw [List.perm_iff_count] at *
    intro x
    have hx := hk x
    have hx' := hclaim x
    simp only [SharedSession.setCaller, List.map_append, List.map_map, List.count_append,
      Function.comp_def, List.map_id'] at hx hx' ⊢
    omega
  case results => exact k.results
  case tasks => exact k.tasks
  case passed =>
    intro j
    have hj := k.passed j
    have hold := holding_setCaller hc
      ⟨Session.settle c.waiter claims, c.behavior, c.options, .delivering claims false⟩ j
    by_cases e : i = j
    · subst e
      rw [holding_of_getElem? hc, hh, List.map_nil, List.append_nil] at hj
      rw [if_pos rfl] at hold
      simp only [Ledger.share_append, Ledger.share_map_self, List.map_append]
      rw [← List.append_assoc]
      exact hj.append (.of_eq (congrArg _ hold.symm))
    · rw [if_neg e] at hold
      simp only [Ledger.share_append, Ledger.share_map_of_ne e, List.append_nil]
      exact hold ▸ hj

/-- A callback reports to the handler that the claimed entry came with. -/
theorem dispatch_cases (plane : ControlPlane σ) (session result : String) (status : ResultStatus)
    (t : Tracked) (w : σ) :
    (Session.dispatch plane session result status t w).1 = none ∨
      ∃ d, (Session.dispatch plane session result status t w).1 = some d ∧ d.tracked = t := by
  unfold Session.dispatch
  split
  · exact .inl rfl
  · exact .inr ⟨_, rfl, rfl⟩

/-- A caller passes the next entry it holds on, or the control plane does not know the result. -/
theorem Kept.deliver (plane : ControlPlane σ) (k : h.Kept) (hc : h.callers[i]? = some c)
    {claim : Tracker.Claim} {rest : List Tracker.Claim} {failed : Bool}
    (hp : c.phase = .delivering (claim :: rest) failed) :
    (h.deliver plane i c claim rest failed).Kept := by
  obtain ⟨result, status, _ | t⟩ := claim
  · refine k.setCaller hc ?_
    simp only [Caller.holding, hp]
    rfl
  · have hcases := dispatch_cases plane h.session.id result status t h.world
    have hheld : c.holding = (result, t) :: rest.filterMap Tracker.Claim.held? := by
      simp [Caller.holding, hp, Tracker.Claim.held?]
    simp only [SharedSession.deliver]
    generalize Session.dispatch plane h.session.id result status t h.world = sent at hcases
    obtain ⟨delivery, failed', w⟩ := sent
    refine ⟨k.conserved, k.results, k.tasks, fun j => ?_⟩
    have hj := k.passed j
    have hold := holding_setCaller hc
      ⟨c.waiter, c.behavior, c.options, .delivering rest (failed || failed')⟩ j
    show ((Ledger.share j h.handed).map Prod.snd).Perm
      (_ ++ (_ ++ ((h.setCaller i _).holding j).map Prod.snd))
    rw [hold]
    -- only the caller that delivers changes: the entry leaves its hands for one log or the other
    by_cases e : i = j
    · subst e
      rw [holding_of_getElem? hc, hheld] at hj
      rw [if_pos rfl]
      rcases hcases with hnone | ⟨d, hd, ht⟩
      · cases hnone
        simpa [Ledger.share_singleton, Caller.holding] using hj
      · cases hd
        refine hj.trans ?_
        simpa [Ledger.share_singleton, Caller.holding, ht] using
          (List.perm_middle (a := t)).append_left _
    · rw [if_neg e]
      have hcalled := Ledger.share_map_of_ne e delivery.toList
      have hgone : Ledger.share j (if delivery.isNone then [(i, t)] else []) = [] := by
        split
        · exact Ledger.share_map_of_ne e [t]
        · rfl
      simpa only [Ledger.share_append, hcalled, hgone, List.append_nil] using hj

theorem Kept.insert (k : h.Kept) {task result : String} (handler : Handler)
    (hk : h.knows task result = false) :
    Kept { h with
      session := { h.session with tracker := h.session.tracker.insert task result handler }
      inserted := h.inserted ++ [(result, ⟨task, handler⟩)] } := by
  have hnew : ∀ e ∈ h.inserted, e.1 ≠ result ∧ e.2.task ≠ task := by
    simpa [knows] using hk
  have hentries : (h.session.tracker.insert task result handler).byResult.entries =
      h.session.tracker.byResult.entries ++ [(result, ⟨task, handler⟩)] := by
    apply Table.entries_insert
    intro hm
    obtain ⟨e, he, rfl⟩ := List.mem_map.mp hm
    exact (hnew e (k.conserved.mem_iff.mpr (List.mem_append_left _ he))).1 rfl
  constructor
  case conserved =>
    have hc := k.conserved
    rw [List.perm_iff_count] at *
    intro x
    have hx := hc x
    simp only [hentries, List.count_append] at hx ⊢
    omega
  case results =>
    rw [List.map_append]
    refine List.nodup_append.mpr ⟨k.results, List.nodup_singleton _, ?_⟩
    intro a ha b hb
    obtain ⟨e, he, rfl⟩ := List.mem_map.mp ha
    exact List.mem_singleton.mp hb ▸ (hnew e he).1
  case tasks =>
    rw [List.map_append]
    refine List.nodup_append.mpr ⟨k.tasks, List.nodup_singleton _, ?_⟩
    intro a ha b hb
    obtain ⟨e, he, rfl⟩ := List.mem_map.mp ha
    exact List.mem_singleton.mp hb ▸ (hnew e he).2
  case passed => exact k.passed

/-- A session that is dropped forgets what it tracks; what callers hold stays with them. -/
theorem Kept.clear (k : h.Kept) :
    Kept { h with
      session := { h.session with dropped := true, tracker := {} }
      cleared := h.cleared ++ h.session.tracker.byResult.entries } where
  conserved := by
    have hc := k.conserved
    rw [List.perm_iff_count] at *
    intro x
    have hx := hc x
    show _ = List.count x ([] ++ (_ ++ (_ ++ _)))
    simp only [List.count_append, List.count_nil] at hx ⊢
    omega
  results := k.results
  tasks := k.tasks
  passed := k.passed

variable (plane : ControlPlane σ)

theorem Kept.advance (k : h.Kept) (hc : h.callers[i]? = some c) (visit : Visit) :
    (h.advance plane i c visit).Kept := by
  unfold SharedSession.advance
  split
  · next hp =>
    refine k.setCaller hc ?_
    simp only [Caller.holding, hp]
    by_cases hnil : visit.arrange (h.session.awaited c.waiter) = [] <;> simp [hnil]
  · next batch rest statuses hp =>
    unfold SharedSession.poll
    split
    all_goals
      refine (k.setCaller hc ?_).elsewhere _
      simp only [Caller.holding, hp]
  · next statuses hp =>
    refine k.claim hc ?_ statuses visit
    simp only [Caller.holding, hp]
  · next claim rest failed hp => exact k.deliver plane hc hp
  · next failed hp =>
    unfold SharedSession.conclude
    split
    all_goals
      refine k.setCaller hc ?_
      simp only [Caller.holding, hp, List.filterMap_nil]
  · exact k

theorem Kept.step (k : h.Kept) (step : SharedStep σ) : (h.step plane step).Kept := by
  cases step with
  | join tasks behavior options => exact k.join rfl
  | advance i visit =>
    simp only [SharedSession.step]
    split
    · next c hc => exact k.advance plane hc visit
    · exact k
  | insert task result handler =>
    simp only [SharedSession.step]
    split
    · exact k
    · next hk => exact k.insert handler (eq_false_of_ne_true hk)
  | clear => exact k.clear
  | elsewhere w => exact k.elsewhere w

theorem Kept.run (k : h.Kept) (steps : List (SharedStep σ)) : (h.run plane steps).Kept := by
  induction steps generalizing h with
  | nil => exact k
  | cons step rest ih => exact ih (k.step plane step)

variable {e : String × Tracked}

theorem Kept.nodup_places (k : h.Kept) :
    (h.session.tracker.byResult.entries ++ (h.handed.map Prod.snd ++ h.cleared)).Nodup :=
  k.conserved.nodup_iff.mp (.of_map _ k.results)

theorem Kept.inserted_of_handed (k : h.Kept) (he : (i, e) ∈ h.handed) : e ∈ h.inserted := by
  rw [k.conserved.mem_iff]
  exact List.mem_append_right _ (List.mem_append_left _ (List.mem_map_of_mem he))

/-- An entry is handed out by one claim. -/
theorem Kept.countP_handed (k : h.Kept) (e : String × Tracked) :
    h.handed.countP (fun x => x.2 = e) ≤ 1 := by
  obtain ⟨-, hn, -⟩ := List.nodup_append.mp k.nodup_places
  have hc := List.nodup_iff_count_le_one.mp (List.nodup_append.mp hn).1 e
  simpa [List.count, List.countP_map, Function.comp_def, beq_eq_decide] using hc

theorem Kept.existsUnique_custody (k : h.Kept) (he : e ∈ h.inserted) : ∃! place, h.Has e place := by
  obtain ⟨-, hn, htracked⟩ := List.nodup_append.mp k.nodup_places
  obtain ⟨hhanded, -, hcleared⟩ := List.nodup_append.mp hn
  have hsome : ∃ place, h.Has e place := by
    rw [k.conserved.mem_iff, List.mem_append, List.mem_append, List.mem_map] at he
    rcases he with he | ⟨⟨i, e⟩, he, rfl⟩ | he
    · exact ⟨.tracked, he⟩
    · exact ⟨.handed i, he⟩
    · exact ⟨.cleared, he⟩
  obtain ⟨place, hp⟩ := hsome
  have hleft {i : Nat} (ht : h.Has e .tracked) : ¬ h.Has e (.handed i) := fun hh =>
    htracked _ ht _ (List.mem_append_left _ (List.mem_map_of_mem hh)) rfl
  have hright (ht : h.Has e .tracked) : ¬ h.Has e .cleared := fun hh =>
    htracked _ ht _ (List.mem_append_right _ hh) rfl
  have hmiddle {i : Nat} (ht : h.Has e (.handed i)) : ¬ h.Has e .cleared := fun hh =>
    hcleared _ (List.mem_map_of_mem ht) _ hh rfl
  -- what was handed out has no duplicates, so it cannot have gone to two callers
  have hcaller {i j : Nat} (hi : h.Has e (.handed i)) (hj : h.Has e (.handed j)) : i = j :=
    congrArg Prod.fst (List.inj_on_of_nodup_map hhanded hi hj rfl)
  refine ⟨place, hp, fun other ho => ?_⟩
  cases place <;> cases other
  case tracked.tracked | cleared.cleared => rfl
  case handed.handed i j => exact congrArg _ (hcaller ho hp)
  case tracked.handed => exact absurd ho (hleft hp)
  case handed.tracked => exact absurd hp (hleft ho)
  case tracked.cleared => exact absurd ho (hright hp)
  case cleared.tracked => exact absurd hp (hright ho)
  case handed.cleared => exact absurd ho (hmiddle hp)
  case cleared.handed => exact absurd hp (hmiddle ho)

/-- A task comes in with one entry. -/
theorem Kept.eq_of_task_eq (k : h.Kept) {e' : String × Tracked} (he : e ∈ h.inserted)
    (he' : e' ∈ h.inserted) (ht : e'.2.task = e.2.task) : e' = e :=
  List.inj_on_of_nodup_map k.tasks he' he ht

theorem Kept.exists_handed (k : h.Kept) {d : Delivery} (hd : (i, d) ∈ h.called) :
    ∃ e, (i, e) ∈ h.handed ∧ d.tracked = e.2 := by
  have hm : d.tracked ∈ (Ledger.share i h.handed).map Prod.snd := by
    rw [(k.passed i).mem_iff]
    exact List.mem_append_left _ (List.mem_map_of_mem (Ledger.mem_share.mpr hd))
  obtain ⟨e, he, ht⟩ := List.mem_map.mp hm
  exact ⟨e, Ledger.mem_share.mp he, ht.symm⟩

/-- A task is called back by the caller that its entry was handed to. -/
theorem Kept.callbacks_eq (k : h.Kept) (he : (i, e) ∈ h.handed) :
    h.callbacks e.2.task = h.called.filter fun x => decide (x.1 = i) && decide (x.2.tracked = e.2) := by
  apply List.filter_congr
  rintro ⟨j, d⟩ hd
  by_cases ht : d.task = e.2.task
  · obtain ⟨e', he', hd'⟩ := k.exists_handed hd
    have hsame : e' = e :=
      k.eq_of_task_eq (k.inserted_of_handed he) (k.inserted_of_handed he') (hd' ▸ ht)
    subst hsame
    obtain ⟨hhanded, -, -⟩ := List.nodup_append.mp (List.nodup_append.mp k.nodup_places).2.1
    have hj : j = i := congrArg Prod.fst (List.inj_on_of_nodup_map hhanded he' he rfl)
    simp [ht, hj, hd']
  · have hne : d.tracked ≠ e.2 := fun h' => ht (h' ▸ rfl)
    simp [ht, hne]

theorem Kept.length_callbacks (k : h.Kept) (he : (i, e) ∈ h.handed) :
    (h.callbacks e.2.task).length =
      ((Ledger.share i h.called).map Delivery.tracked).count e.2 := by
  rw [k.callbacks_eq he, Ledger.share, List.map_map, List.count, List.countP_map,
    List.countP_filter, List.countP_eq_length_filter]
  refine congrArg List.length (List.filter_congr fun x _ => ?_)
  simp [Function.comp_def, Bool.and_comm, beq_eq_decide]

/-- What was handed to a caller was called back, was discarded or is still in its hands. -/
theorem Kept.count_passed (k : h.Kept) (he : (i, e) ∈ h.handed) :
    (h.callbacks e.2.task).length + (Ledger.share i h.discarded).count e.2 +
      ((h.holding i).map Prod.snd).count e.2 = 1 := by
  have hn : ((Ledger.share i h.handed).map Prod.snd).Nodup := by
    have htasks := (k.conserved.map (·.2.task)).nodup_iff.mp k.tasks
    rw [List.map_append, List.map_append, List.map_map] at htasks
    have hhanded := (List.nodup_append.mp (List.nodup_append.mp htasks).2.1).1
    refine .of_map Tracked.task (hhanded.sublist ?_)
    simp only [Ledger.share, List.map_map]
    exact List.Sublist.map _ List.filter_sublist
  have hc := (k.passed i).count_eq e.2
  rw [List.count_eq_one_of_mem hn (List.mem_map_of_mem (Ledger.mem_share.mpr he))] at hc
  simp only [List.count_append] at hc
  rw [k.length_callbacks he]
  omega

theorem Kept.length_callbacks_le (k : h.Kept) (he : e ∈ h.inserted) :
    (h.callbacks e.2.task).length ≤ 1 := by
  cases hc : h.callbacks e.2.task with
  | nil => exact Nat.zero_le 1
  | cons x rest =>
    obtain ⟨hd, ht⟩ := List.mem_filter.mp (hc ▸ List.mem_cons_self : x ∈ h.callbacks e.2.task)
    obtain ⟨e', he', hd'⟩ := k.exists_handed hd
    have hsame : e' = e :=
      k.eq_of_task_eq he (k.inserted_of_handed he') (hd' ▸ of_decide_eq_true ht)
    have hone := k.count_passed (hsame ▸ he')
    rw [hc] at hone
    omega

/-- However the steps of callers interleave with each other, with insertions and with clearing: an entry is
handed out by at most one claim, its handler is called at most once, and it is tracked, in the hands of one
caller, or cleared. What a caller was handed it passes on, unless the control plane does not know it. -/
theorem entries_in_one_place (s : Session) (w : σ) (steps : List (SharedStep σ)) :
    let h := (start s w).run plane steps
    ((h.inserted.map Prod.fst).Nodup ∧ (h.inserted.map (·.2.task)).Nodup) ∧
      (∀ e ∈ h.inserted, (∃! place, h.Has e place) ∧ h.handed.countP (fun x => x.2 = e) ≤ 1 ∧
        (h.callbacks e.2.task).length ≤ 1) ∧
      (∀ i e, (i, e) ∈ h.handed → e ∈ h.inserted ∧
        (h.callbacks e.2.task).length + (Ledger.share i h.discarded).count e.2 +
          ((h.holding i).map Prod.snd).count e.2 = 1) ∧
      (∀ i d, (i, d) ∈ h.called → ∃ e, (i, e) ∈ h.handed ∧ d.tracked = e.2) ∧
      h.session.pendingCount + h.handed.length + h.cleared.length = h.inserted.length := by
  intro h
  have k : h.Kept := (kept_start s w).run plane steps
  refine ⟨⟨k.results, k.tasks⟩, fun e he => ?_, fun i e he => ?_, fun i d hd => k.exists_handed hd, ?_⟩
  · exact ⟨k.existsUnique_custody he, k.countP_handed e, k.length_callbacks_le he⟩
  · exact ⟨k.inserted_of_handed he, k.count_passed he⟩
  · have hl := k.conserved.length_eq
    simp only [List.length_append, List.length_map] at hl
    simp only [Session.pendingCount, Tracker.size, Table.size]
    omega

/-- Two callers that heard of the same results: the first claims both and calls back once before a third
task is tracked and all is cleared. -/
def contended : SharedSession MemoryPlane :=
  let session : Session := ⟨"a", {}, 2, 1, by decide, by decide, {}, false⟩
  let world := ((Fleet.start 0).run [.attach "a" {}, .call 0 (.submit [⟨"one", [], []⟩,
    ⟨"two", [], []⟩] ⟨"h", false⟩ none) 0 fun _ => .listed]).plane
  let each := [.advance 0 .listed, .advance 1 .listed]
  (start session world).run MemoryPlane.plane
    ([.insert "t1" "r1" ⟨"h", false⟩, .insert "t2" "r2" ⟨"h", false⟩, .join [] {} {}, .join [] {} {}] ++
      each ++ each ++ each ++ each ++ [.advance 0 .listed, .insert "t3" "r3" ⟨"k", true⟩, .clear])

theorem entries_in_one_place_contended :
    (("r3", ⟨"t3", ⟨"k", true⟩⟩) ∈ contended.inserted ∧
        (∃! place, contended.Has ("r3", ⟨"t3", ⟨"k", true⟩⟩) place) ∧
        contended.handed.countP (fun x => x.2 = ("r3", ⟨"t3", ⟨"k", true⟩⟩)) ≤ 1 ∧
        (contended.callbacks "t3").length ≤ 1) ∧
      ((0, ("r2", ⟨"t2", ⟨"h", false⟩⟩)) ∈ contended.handed ∧
        (contended.callbacks "t2").length +
          (Ledger.share 0 contended.discarded).count ⟨"t2", ⟨"h", false⟩⟩ +
          ((contended.holding 0).map Prod.snd).count ⟨"t2", ⟨"h", false⟩⟩ = 1) ∧
      ∃ d, (0, d) ∈ contended.called ∧ ∃ e, (0, e) ∈ contended.handed ∧ d.tracked = e.2 := by
  obtain ⟨-, hplace, hhanded, hcalled, -⟩ := entries_in_one_place MemoryPlane.plane
    ⟨"a", {}, 2, 1, by decide, by decide, {}, false⟩ _ _
  have h3 : ("r3", (⟨"t3", ⟨"k", true⟩⟩ : Tracked)) ∈ contended.inserted := by decide +kernel
  have h2 : (0, ("r2", (⟨"t2", ⟨"h", false⟩⟩ : Tracked))) ∈ contended.handed := by decide +kernel
  have hsome : contended.called.head?.isSome := by decide +kernel
  obtain ⟨⟨i, d⟩, hd⟩ := Option.isSome_iff_exists.mp hsome
  have h0 : ∀ x ∈ contended.called, x.1 = 0 := by decide +kernel
  obtain rfl : i = 0 := h0 _ (List.mem_of_head? hd)
  have h1 := List.mem_of_head? hd
  exact ⟨⟨h3, hplace _ h3⟩, ⟨h2, (hhanded 0 _ h2).2⟩, d, h1, hcalled 0 d h1⟩

end SharedSession
end TaskGrid
