import TaskGrid.Proofs.Jobs.Moves

/-! The threads of a pool: how many there are, how many of them wait, and why no job is left in the queue
without a thread that will come for it. -/
namespace TaskGrid
namespace JobPool
open ThreadPhase

variable {p p' : JobPool} {s : Step}

/-- The counts of a pool are those of its threads, and a thread exits only when no job is left and none
will come. -/
structure Manned (p : JobPool) : Prop where
  idle : p.idle = p.threads.countP isIdle
  count : p.threadCount = p.threads.length + (p.offering.any (·.start)).toNat
  bound : p.threadCount ≤ p.limit
  working : p.offering.isSome → p.stopped = false
  exits : .exited ∈ p.threads → p.stopped = true ∧ p.queue = []

theorem manned_start (limit : Nat) : (start limit).Manned where
  idle := rfl
  count := rfl
  bound := Nat.zero_le limit
  working h := by cases h
  exits h := by cases h

/-- A thread that moves on within its life. -/
theorem Manned.setThread (h : p.Manned) {thread : Nat} {old : ThreadPhase}
    (found : p.threads[thread]? = some old) (new : ThreadPhase)
    (hidle : p'.idle + old.isIdle.toNat = p.idle + new.isIdle.toNat)
    (hthreads : p'.threads = p.threads.set thread new) (hcount : p'.threadCount = p.threadCount)
    (hlimit : p'.limit = p.limit) (hstart : p'.offering.any (·.start) = p.offering.any (·.start))
    (hworking : p'.offering.isSome → p'.stopped = false)
    (hold : .exited ∈ p.threads → p'.stopped = true ∧ p'.queue = [])
    (hnew : new = .exited → p'.stopped = true ∧ p'.queue = []) : p'.Manned where
  idle := by
    have hc := countP_set_add isIdle found new
    have hi := h.idle
    rw [hthreads]
    omega
  count := by rw [hcount, hthreads, List.length_set, hstart, h.count]
  bound := by rw [hcount, hlimit]; exact h.bound
  working := hworking
  exits he := by
    rw [hthreads] at he
    rcases List.mem_or_eq_of_mem_set he with he | he
    · exact hold he
    · exact hnew he.symm

theorem Manned.idle_pos (h : p.Manned) {thread : Nat} {phase : ThreadPhase}
    (found : p.threads[thread]? = some phase) : phase.isIdle.toNat ≤ p.idle := by
  cases hi : phase.isIdle with
  | false => exact Nat.zero_le _
  | true =>
    rw [h.idle]
    exact List.countP_pos_iff.mpr ⟨phase, List.mem_of_getElem? found, hi⟩

theorem Manned.move (h : p.Manned) (hm : Move p s p') : p'.Manned := by
  cases hm with
  | enter | refuse | discard | join | collect | dropSet =>
    exact ⟨h.idle, h.count, h.bound, h.working, h.exits⟩
  | accept free mem working =>
    have hc := h.count
    have hb := h.bound
    rw [free] at hc
    refine ⟨h.idle, ?_, ?_, fun _ => working, fun he => ?_⟩
    · show (if p.wantsThread then _ else _) = p.threads.length + p.wantsThread.toNat
      simp only [Option.any_none, Bool.toNat_false] at hc
      cases p.wantsThread <;> simpa using hc
    · show (if p.wantsThread then _ else _) ≤ p.limit
      split
      · next hw => exact of_decide_eq_true (Bool.and_eq_true_iff.mp hw).2
      · exact hb
    · obtain ⟨hstopped, -⟩ := h.exits he
      cases working.symm.trans hstopped
  | announce offering parked =>
    have hw := h.working (offering ▸ rfl)
    exact h.setThread parked .notified rfl rfl rfl rfl (by rw [offering]; rfl) (fun _ => hw) h.exits nofun
  | announceNone offering unparked =>
    have hw := h.working (offering ▸ rfl)
    exact ⟨h.idle, by rw [h.count, offering]; rfl, h.bound, fun _ => hw, h.exits⟩
  | startThread offering =>
    have hc := h.count
    rw [offering] at hc
    refine ⟨?_, ?_, h.bound, nofun, fun he => ?_⟩
    · show p.idle = (p.threads ++ [ThreadPhase.starting]).countP isIdle
      rw [List.countP_append, h.idle]
      rfl
    · show p.threadCount = (p.threads ++ [ThreadPhase.starting]).length + 0
      simpa using hc
    · exact h.exits (by simpa [startThread, note] using he)
  | failStart details offering =>
    have hc := h.count
    rw [offering] at hc
    refine ⟨h.idle, ?_, ?_, nofun, h.exits⟩
    · show p.threadCount - 1 = p.threads.length + 0
      simp only [Option.any_some, Bool.toNat_true] at hc
      omega
    · exact Nat.le_trans (Nat.sub_le _ 1) h.bound
  | endOffer failure offering =>
    have hc := h.count
    rw [offering] at hc
    exact ⟨h.idle, hc, h.bound, nofun, h.exits⟩
  | take found comes queue =>
    have hi := h.idle_pos found
    have hold (he : .exited ∈ p.threads) : False := by
      obtain ⟨-, hq⟩ := h.exits he
      cases queue.symm.trans hq
    refine h.setThread found (.running _) ?_ rfl rfl rfl rfl h.working (fun he => (hold he).elim) nofun
    exact Nat.sub_add_cancel hi
  | park found comes queue working =>
    have hi := h.idle_pos found
    refine h.setThread found .parked ?_ rfl rfl rfl rfl h.working h.exits nofun
    show p.idle - _ + 1 + _ = p.idle + 1
    omega
  | exit found comes queue stopped =>
    have hi := h.idle_pos found
    refine h.setThread found .exited ?_ rfl rfl rfl rfl h.working h.exits fun _ => ⟨stopped, queue⟩
    exact Nat.sub_add_cancel hi
  | finish outcome found =>
    exact h.setThread found (.retiring _) rfl rfl rfl rfl rfl h.working h.exits nofun
  | retire found => exact h.setThread found .ready rfl rfl rfl rfl rfl h.working h.exits nofun
  | stop caller free =>
    refine ⟨h.idle, h.count, h.bound, fun ho => ?_, fun he => ⟨rfl, (h.exits he).2⟩⟩
    cases (congrArg Option.isSome free).symm.trans ho
  | alarm call =>
    refine ⟨?_, ?_, h.bound, h.working, fun he => ?_⟩
    · show p.idle = (p.threads.map alerted).countP isIdle
      rw [List.countP_map, h.idle]
      exact List.countP_congr fun phase _ => by rw [Function.comp, isIdle_alerted]
    · show p.threadCount = (p.threads.map alerted).length + _
      rw [List.length_map, h.count]
      rfl
    · obtain ⟨phase, hp, ha⟩ := List.mem_map.mp he
      exact h.exits (alerted_eq_exited.mp ha ▸ hp)

/-- With threads that start whenever they are asked to, no job is left in the queue without a thread that
will come for it, and there are enough of those if more could be started. An offer under way makes up for
what is still missing. -/
structure Supplied (p : JobPool) : Prop where
  pos : 0 < p.limit
  attended : p.queue ≠ [] →
    (∃ phase ∈ p.threads, phase.isAlert) ∨ p.offering.any fun o => o.start || !o.announced
  crewed : (p.offering.any fun o => !o.start) → p.threads ≠ []
  enough : p.threadCount < p.limit →
    p.queue.length ≤ p.idle + p.threads.count .starting + (p.offering.any (·.start)).toNat

theorem supplied_start {limit : Nat} (h : 0 < limit) : (start limit).Supplied where
  pos := h
  attended hq := absurd rfl hq
  crewed ho := by cases ho
  enough _ := Nat.zero_le _

/-- While a job is offered every thread is alert that does not wait to be notified. -/
theorem Manned.isAlert_of_unparked (h : p.Manned) (ho : p.offering.isSome) (unparked : .parked ∉ p.threads)
    {phase : ThreadPhase} (hp : phase ∈ p.threads) : phase.isAlert := by
  have hexited : phase ≠ .exited := by
    rintro rfl
    cases (h.working ho).symm.trans (h.exits hp).1
  have hparked : phase ≠ .parked := by
    rintro rfl
    exact unparked hp
  cases phase <;> first | rfl | contradiction

/-- A thread that moves on leaves an empty queue, or is alert and makes up for what it takes. -/
theorem Supplied.setThread (h : p.Supplied) {thread : Nat} {old : ThreadPhase}
    (found : p.threads[thread]? = some old) (new : ThreadPhase)
    (hthreads : p'.threads = p.threads.set thread new) (hlimit : p'.limit = p.limit)
    (hcount : p'.threadCount = p.threadCount)
    (hstart : p'.offering.any (·.start) = p.offering.any (·.start))
    (hqueue : p'.queue = [] ∨ new.isAlert ∧ p'.queue.length + p.idle + (old == .starting).toNat ≤
      p.queue.length + p'.idle + (new == .starting).toNat) : p'.Supplied := by
  have hmem : new ∈ p'.threads := hthreads ▸ List.mem_set (List.getElem?_eq_some_iff.mp found).1 new
  refine ⟨hlimit ▸ h.pos, fun hq => ?_, fun _ => List.ne_nil_of_mem hmem, fun hlt => ?_⟩
  · rcases hqueue with hnil | ⟨halert, -⟩
    · exact absurd hnil hq
    · exact .inl ⟨new, hmem, halert⟩
  · rcases hqueue with hnil | ⟨-, hle⟩
    · exact hnil ▸ Nat.zero_le _
    · rw [hcount, hlimit] at hlt
      have hc := countP_set_add (· == .starting) found new
      have he := h.enough hlt
      rw [hthreads, hstart]
      simp only [List.count] at he ⊢
      omega

theorem Supplied.move (h : p.Supplied) (hm : p.Manned) (hs : s.startsThread) (move : Move p s p') :
    p'.Supplied := by
  cases move with
  | enter | refuse | discard | join | stop | collect | dropSet =>
    exact ⟨h.pos, h.attended, h.crewed, h.enough⟩
  | accept free mem working =>
    have hcount := hm.count
    have henough := h.enough
    simp only [free, Option.any_none, Bool.toNat_false, Nat.add_zero] at hcount henough
    refine ⟨h.pos, fun _ => .inr (by simp [accept, note]), fun ho => ?_, fun hlt => ?_⟩
    · -- no thread is wanted because some wait already, or because there are as many as may be
      have hpos := h.pos
      have hidle : p.idle ≤ p.threads.length := hm.idle ▸ List.countP_le_length
      have hwants : p.wantsThread = false := (Bool.not_eq_true' _).mp ho
      simp only [wantsThread, Bool.and_eq_false_iff, decide_eq_false_iff_not] at hwants
      show p.threads ≠ []
      rw [← List.length_pos_iff]
      omega
    · show p.queue.length + 1 ≤ p.idle + p.threads.count .starting + p.wantsThread.toNat
      replace hlt : (if p.wantsThread then p.threadCount + 1 else p.threadCount) < p.limit := hlt
      cases hw : p.wantsThread with
      | true =>
        simp only [hw, if_true, Bool.toNat_true] at hlt ⊢
        have := henough (by omega)
        omega
      | false =>
        simp only [hw, Bool.false_eq_true, if_false] at hlt
        simp only [wantsThread, decide_eq_true hlt, Bool.and_true, decide_eq_false_iff_not] at hw
        omega
  | announce offering parked =>
    exact h.setThread parked .notified rfl rfl rfl (by rw [offering]; rfl) (.inr ⟨rfl, Nat.le_refl _⟩)
  | @announceNone job start offering unparked =>
    have ho : p.offering.isSome := offering ▸ rfl
    have hcrewed := h.crewed
    have henough := h.enough
    rw [offering] at hcrewed henough
    refine ⟨h.pos, fun _ => ?_, hcrewed, henough⟩
    cases start with
    | true => exact .inr rfl
    | false =>
      -- without a parked thread to notify, any thread there is will come by itself
      obtain ⟨phase, hp⟩ := List.exists_mem_of_ne_nil _ (hcrewed rfl)
      exact .inl ⟨phase, hp, hm.isAlert_of_unparked ho unparked hp⟩
  | startThread offering =>
    have henough := h.enough
    rw [offering] at henough
    refine ⟨h.pos, fun _ => .inl ⟨.starting, ?_, rfl⟩, nofun, fun hlt => ?_⟩
    · exact List.mem_append_right _ (List.mem_singleton_self _)
    · show p.queue.length ≤ p.idle + (p.threads ++ [ThreadPhase.starting]).count .starting + 0
      rw [List.count_append]
      exact henough hlt
  | failStart details offering => cases hs
  | endOffer failure offering =>
    have hattended := h.attended
    have henough := h.enough
    rw [offering] at hattended henough
    refine ⟨h.pos, fun hq => .inl ?_, nofun, henough⟩
    rcases hattended hq with ha | ho
    · exact ha
    · cases ho
  | @take _ phase job rest found comes queue =>
    have hidle := hm.idle_pos found
    have hone := phase.toNat_starting_add_isIdle
    refine h.setThread found (.running job) rfl rfl rfl rfl (.inr ⟨rfl, ?_⟩)
    show rest.length + p.idle + _ ≤ p.queue.length + (p.idle - phase.isIdle.toNat) + 0
    rw [queue, List.length_cons]
    omega
  | park found comes queue working => exact h.setThread found .parked rfl rfl rfl rfl (.inl queue)
  | exit found comes queue stopped => exact h.setThread found .exited rfl rfl rfl rfl (.inl queue)
  | @finish _ job outcome found =>
    exact h.setThread found (.retiring job) rfl rfl rfl rfl (.inr ⟨rfl, Nat.le_refl _⟩)
  | retire found => exact h.setThread found .ready rfl rfl rfl rfl (.inr ⟨rfl, Nat.le_refl _⟩)
  | alarm call =>
    refine ⟨h.pos, fun hq => ?_, fun ho he => h.crewed ho (List.map_eq_nil_iff.mp he), fun hlt => ?_⟩
    · refine (h.attended hq).imp_left ?_
      rintro ⟨phase, hp, ha⟩
      exact ⟨phase.alerted, List.mem_map_of_mem hp, isAlert_alerted ha⟩
    · have hc : (p.threads.map alerted).count .starting = p.threads.count .starting := by
        rw [List.count, List.countP_map]
        exact List.countP_congr fun phase _ => by simp
      exact hc ▸ h.enough hlt

theorem supplied_run {limit : Nat} (hl : 0 < limit) {steps : List Step}
    (hs : ∀ s ∈ steps, s.startsThread) : ((start limit).run steps).Supplied := by
  have h := run_keeps_of_admitted (fun p => p.Manned ∧ p.Supplied) (·.startsThread)
    (fun hs h hm => ⟨h.1.move hm, h.2.move h.1 hs hm⟩) ⟨manned_start limit, supplied_start hl⟩ hs
  exact h.2

/-- Whenever no offer is under way, a job in the queue has a thread that is awake or was notified; and if
more threads could be started, there are as many that wait or were just started as there are jobs in the
queue. -/
theorem queue_attended {limit : Nat} (hl : 0 < limit) {steps : List Step}
    (hs : ∀ s ∈ steps, s.startsThread) :
    let p := (start limit).run steps
    p.offering = none →
      (p.queue ≠ [] → ∃ phase ∈ p.threads, phase.isAwake ∨ phase = .notified) ∧
      (p.threadCount < p.limit → p.queue.length ≤ p.idle + p.threads.count .starting) := by
  intro p free
  have h : p.Supplied := supplied_run hl hs
  constructor
  · intro hq
    rcases h.attended hq with ⟨phase, hp, ha⟩ | ho
    · exact ⟨phase, hp, isAlert_iff.mp ha⟩
    · rw [free] at ho
      cases ho
  · intro hlt
    have he := h.enough hlt
    rw [free] at he
    exact he

/-- Two jobs wait, for a thread that was notified and for one that has just been started. -/
def twoComing : List Step :=
  [.enter none, .offer ⟨0, none⟩, .announce none, .complete none, .reach 0, .finish 0 .done, .retire 0,
    .reach 0, .enter none, .offer ⟨1, none⟩, .announce (some 0), .complete none, .enter none,
    .offer ⟨2, none⟩, .announce none, .complete none]

theorem queue_attended_twoComing :
    let p := (start 3).run twoComing
    (p.queue ≠ [] ∧ ∃ phase ∈ p.threads, phase.isAwake ∨ phase = .notified) ∧
      p.threadCount < p.limit ∧ p.queue.length ≤ p.idle + p.threads.count .starting := by
  intro p
  have hstart : ∀ s ∈ twoComing, s.startsThread := by decide
  have hqueue : p.queue ≠ [] := by decide
  have hlt : p.threadCount < p.limit := by decide
  obtain ⟨hattended, henough⟩ := queue_attended (show 0 < 3 by decide) hstart rfl
  exact ⟨⟨hqueue, hattended hqueue⟩, hlt, henough hlt⟩

end JobPool
end TaskGrid
