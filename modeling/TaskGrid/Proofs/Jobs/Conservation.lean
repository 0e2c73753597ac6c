import Mathlib.Data.List.Nodup
import TaskGrid.Proofs.Jobs.Crew

/-! A job that was accepted is queued, running or finished, and is begun once at most. Once a call has shut
the pool down it is finished. -/
namespace TaskGrid

namespace JobEvent

def accepted? : JobEvent → Option Job
  | .accepted job => some job
  | _ => none

def ended? : JobEvent → Option Job
  | .ended job _ => some job
  | _ => none

end JobEvent

namespace JobPool
open ThreadPhase

def accepted (p : JobPool) : List Job := p.log.filterMap JobEvent.accepted?

def ended (p : JobPool) : List Job := p.log.filterMap JobEvent.ended?

def running (p : JobPool) : List Job := p.threads.filterMap running?

variable {p p' : JobPool} {s : Step}

theorem accepted_note (p : JobPool) (e : JobEvent) :
    (p.note e).accepted = p.accepted ++ e.accepted?.toList := by
  simp only [accepted, note, List.filterMap_append]
  cases e <;> rfl

theorem accepted_note_of_none (p : JobPool) {e : JobEvent} (he : e.accepted? = none) :
    (p.note e).accepted = p.accepted := by
  rw [accepted_note, he]
  exact List.append_nil _

theorem accepted_congr (h : p'.log = p.log) : p'.accepted = p.accepted := congrArg (List.filterMap _) h

theorem begun_note (p : JobPool) (e : JobEvent) : (p.note e).begun = p.begun ++ e.begun?.toList := by
  simp only [begun, note, List.filterMap_append]
  cases e <;> rfl

theorem ended_note (p : JobPool) (e : JobEvent) : (p.note e).ended = p.ended ++ e.ended?.toList := by
  simp only [ended, note, List.filterMap_append]
  cases e <;> rfl

/-- A job is entered once and accepted once, and only jobs that were accepted are answered well. -/
structure Enrolled (p : JobPool) : Prop where
  numbered : ∀ job ∈ p.entering ++ p.accepted, job.number < p.entered
  distinct : (p.entering ++ p.accepted).Nodup
  offered : ∀ o, p.offering = some o → o.job ∈ p.accepted
  answered : ∀ job, .answered job (.ok ()) ∈ p.log → job ∈ p.accepted

theorem enrolled_start (limit : Nat) : (start limit).Enrolled where
  numbered _ h := by cases h
  distinct := List.nodup_nil
  offered _ h := by cases h
  answered _ h := by cases h

/-- Whatever else is noted, no job is enrolled by it. -/
theorem Enrolled.note (h : p.Enrolled) {e : JobEvent} (he : e.accepted? = none)
    (hok : ∀ job, e = .answered job (.ok ()) → job ∈ p.accepted) : (p.note e).Enrolled := by
  have ha := p.accepted_note_of_none he
  refine ⟨?_, ?_, ?_, fun job hj => ?_⟩
  · rw [ha]; exact h.numbered
  · rw [ha]; exact h.distinct
  · rw [ha]; exact h.offered
  · rw [ha]
    rcases List.mem_append.mp hj with hj | hj
    · exact h.answered job hj
    · exact hok job (List.mem_singleton.mp hj).symm

theorem Enrolled.move (h : p.Enrolled) (move : Move p s p') : p'.Enrolled := by
  cases move with
  | enter set =>
    refine ⟨fun job hj => ?_, ?_, h.offered, h.answered⟩
    · rcases List.mem_cons.mp hj with rfl | hj
      · exact Nat.lt_succ_self _
      · exact Nat.lt_succ_of_lt (h.numbered job hj)
    · -- the number of the new job is that of no job before it
      exact List.nodup_cons.mpr ⟨fun hm => Nat.lt_irrefl _ (h.numbered _ hm), h.distinct⟩
  | @refuse job free mem stopped =>
    have hsub : (p.entering.erase job ++ p.accepted).Sublist (p.entering ++ p.accepted) :=
      List.erase_sublist.append_right p.accepted
    exact ⟨fun job hj => h.numbered job (hsub.subset hj), h.distinct.sublist hsub, h.offered, h.answered⟩
  | @accept job free mem working =>
    have hacc : ({ p with entering := p.entering.erase job }.accept job).accepted =
        p.accepted ++ [job] := accepted_note _ _
    have hperm : (p.entering.erase job ++ (p.accepted ++ [job])).Perm (p.entering ++ p.accepted) := by
      rw [← List.append_assoc]
      exact (List.perm_append_singleton job _).trans
        ((List.perm_cons_erase mem).symm.append_right p.accepted)
    refine ⟨fun j hj => ?_, ?_, fun o ho => ?_, fun j hj => ?_⟩
    · rw [hacc] at hj
      exact h.numbered j (hperm.mem_iff.mp hj)
    · rw [hacc]
      exact hperm.nodup_iff.mpr h.distinct
    · cases ho
      rw [hacc]
      exact List.mem_append_right _ (List.mem_singleton_self job)
    · rw [hacc]
      rcases List.mem_append.mp hj with hj | hj
      · exact List.mem_append_left _ (h.answered j hj)
      · cases List.mem_singleton.mp hj
  | announce offering parked =>
    refine ⟨h.numbered, h.distinct, ?_, h.answered⟩
    rintro o ⟨⟩
    exact h.offered ⟨_, _, false⟩ offering
  | announceNone offering unparked =>
    refine ⟨h.numbered, h.distinct, ?_, h.answered⟩
    rintro o ⟨⟩
    exact h.offered ⟨_, _, false⟩ offering
  | startThread offering =>
    apply Enrolled.note
    · exact ⟨h.numbered, h.distinct, nofun, h.answered⟩
    · rfl
    · rintro job ⟨⟩
      exact h.offered _ offering
  | failStart details offering =>
    apply Enrolled.note
    · exact ⟨h.numbered, h.distinct, nofun, h.answered⟩
    · rfl
    · nofun
  | endOffer failure offering =>
    apply Enrolled.note
    · exact ⟨h.numbered, h.distinct, nofun, h.answered⟩
    · rfl
    · rintro job ⟨⟩
      exact h.offered _ offering
  | discard | take | finish | collect | dropSet =>
    apply Enrolled.note
    · exact ⟨h.numbered, h.distinct, h.offered, h.answered⟩
    · rfl
    · nofun
  | _ => exact ⟨h.numbered, h.distinct, h.offered, h.answered⟩

/-- A job that was accepted is in one place, and one that was begun runs or has ended. -/
structure Placed (p : JobPool) : Prop where
  accepted : ∀ job, p.accepted.count job =
    p.queue.count job + (p.running.count job + p.ended.count job)
  begun : ∀ job, p.begun.count job = p.running.count job + p.ended.count job

theorem placed_start (limit : Nat) : (start limit).Placed where
  accepted _ := rfl
  begun _ := rfl

/-- What is noted of a job goes with where the job is. -/
theorem Placed.note (h : p.Placed) (hlog : p'.log = p.log) (e : JobEvent)
    (haccepted : ∀ job, p'.queue.count job + p'.running.count job + e.ended?.toList.count job =
      p.queue.count job + p.running.count job + e.accepted?.toList.count job)
    (hbegun : ∀ job, p'.running.count job + e.ended?.toList.count job =
      p.running.count job + e.begun?.toList.count job) : (p'.note e).Placed := by
  have hacc : p'.accepted = p.accepted := accepted_congr hlog
  have hbeg : p'.begun = p.begun := congrArg (List.filterMap _) hlog
  have hend : p'.ended = p.ended := congrArg (List.filterMap _) hlog
  refine ⟨fun job => ?_, fun job => ?_⟩
  · have hj := h.accepted job
    have ha := haccepted job
    show (p'.note e).accepted.count job = p'.queue.count job + (p'.running.count job + _)
    rw [accepted_note, ended_note, hacc, hend, List.count_append, List.count_append]
    omega
  · have hj := h.begun job
    have hb := hbegun job
    show (p'.note e).begun.count job = p'.running.count job + _
    rw [begun_note, ended_note, hbeg, hend, List.count_append, List.count_append]
    omega

/-- Nothing is noted while threads change what they do, but for the jobs that they run. -/
theorem Placed.threads (h : p.Placed) (hlog : p'.log = p.log) (hqueue : p'.queue = p.queue)
    (hrunning : ∀ job, p'.running.count job = p.running.count job) : p'.Placed := by
  have hacc : p'.accepted = p.accepted := accepted_congr hlog
  have hbeg : p'.begun = p.begun := congrArg (List.filterMap _) hlog
  have hend : p'.ended = p.ended := congrArg (List.filterMap _) hlog
  refine ⟨fun job => ?_, fun job => ?_⟩
  · rw [hacc, hend, hqueue, hrunning]
    exact h.accepted job
  · rw [hbeg, hend, hrunning]
    exact h.begun job

/-- A thread that runs no job before a step, and none after it. -/
theorem Placed.setThread (h : p.Placed) {thread : Nat} {old new : ThreadPhase}
    (found : p.threads[thread]? = some old) (hold : old.running? = none) (hnew : new.running? = none)
    (hthreads : p'.threads = p.threads.set thread new) (hlog : p'.log = p.log)
    (hqueue : p'.queue = p.queue) : p'.Placed := by
  apply h.threads hlog hqueue
  intro job
  have hc := count_filterMap_set_add running? found new job
  rw [hold, hnew, ← hthreads] at hc
  exact Nat.add_right_cancel hc

theorem Placed.move (h : p.Placed) (move : Move p s p') : p'.Placed := by
  cases move with
  | @accept job free mem working =>
    apply h.note
    · rfl
    · intro x
      show (job :: p.queue).count x + p.running.count x + 0 = _ + [job].count x
      simp only [List.count_cons, List.count_nil]
      omega
    · exact fun _ => rfl
  | announce offering parked => exact h.setThread parked rfl rfl rfl rfl rfl
  | startThread offering =>
    have hr : ({ p.startThread with offering := none } : JobPool).running = p.running := by
      show (p.threads ++ [ThreadPhase.starting]).filterMap running? = _
      simp [running, running?]
    apply h.note
    · rfl
    all_goals
      intro x
      rw [hr]
      rfl
  | @take thread _ job rest found comes queue =>
    have hrun (x : Job) : ((p.threads.set thread (.running job)).filterMap running?).count x =
        p.running.count x + [job].count x := by
      have hc := count_filterMap_set_add running? found (.running job) x
      rw [running?_of_comes comes] at hc
      exact hc
    apply h.note
    · rfl
    · intro x
      have hq : p.queue.count x = [job].count x + rest.count x := by
        rw [queue, ← List.count_append]
        rfl
      show rest.count x + ((p.threads.set thread (.running job)).filterMap running?).count x + 0 =
        p.queue.count x + p.running.count x + 0
      rw [hrun, hq]
      omega
    · exact hrun
  | park found comes queue working =>
    exact h.setThread found (running?_of_comes comes) rfl rfl rfl rfl
  | exit found comes queue stopped =>
    exact h.setThread found (running?_of_comes comes) rfl rfl rfl rfl
  | @finish thread job outcome found =>
    have hrun (x : Job) : ((p.threads.set thread (.retiring job)).filterMap running?).count x +
        [job].count x = p.running.count x :=
      count_filterMap_set_add running? found (.retiring job) x
    apply h.note
    · rfl
    · intro x
      show p.queue.count x + ((p.threads.set thread (.retiring job)).filterMap running?).count x +
        [job].count x = p.queue.count x + p.running.count x
      rw [Nat.add_assoc, hrun]
    · exact hrun
  | retire found => exact h.setThread found rfl rfl rfl rfl rfl
  | alarm call =>
    apply h.threads
    · rfl
    · rfl
    · intro job
      show ((p.threads.map alerted).filterMap running?).count job = _
      have hcomp : running? ∘ alerted = running? := funext running?_alerted
      rw [List.filterMap_map, hcomp]
      rfl
  | discard | failStart | endOffer | collect | dropSet =>
    apply h.note
    · rfl
    all_goals exact fun _ => rfl
  | _ => exact ⟨h.accepted, h.begun⟩

theorem mem_setShutDown {call : Nat} {phase : ShutDownPhase} {c : ShutDown}
    (h : c ∈ (p.setShutDown call phase).shutDowns) :
    c ∈ p.shutDowns ∨ ∃ d, p.shutDowns[call]? = some d ∧ c = { d with phase } := by
  obtain ⟨i, hi⟩ := List.mem_iff_getElem?.mp h
  simp only [setShutDown, List.getElem?_modify] at hi
  obtain ⟨d, hd, rfl⟩ := Option.map_eq_some_iff.mp hi
  by_cases e : call = i
  · subst e
    exact .inr ⟨d, hd, if_pos rfl⟩
  · rw [if_neg e]
    exact .inl (List.mem_of_getElem? hd)

theorem joined_iff {c : ShutDown} :
    p.joined c ↔ ∀ thread ∈ c.handles, c.caller = some thread ∨ p.threads[thread]? = some .exited := by
  simp [joined]

/-- The pool keeps the handles of all its threads until a call that shuts it down takes them all. -/
structure Handed (p : JobPool) : Prop where
  kept : p.stopped = false → p.handles = List.range p.threads.length ∧ p.shutDowns = []
  gone : p.stopped = true → p.handles = []
  taken : ∀ c ∈ p.shutDowns, c.handles = [] ∨ c.handles = List.range p.threads.length
  returned : ∀ c ∈ p.shutDowns, c.phase = .returned → p.joined c

theorem handed_start (limit : Nat) : (start limit).Handed where
  kept _ := ⟨rfl, rfl⟩
  gone _ := rfl
  taken _ h := by cases h
  returned _ h := by cases h

/-- Threads may do anything but come back once they have exited. -/
theorem Handed.threads (h : p.Handed) (hhandles : p'.handles = p.handles)
    (hshutDowns : p'.shutDowns = p.shutDowns) (hstopped : p'.stopped = p.stopped)
    (hlength : p'.threads.length = p.threads.length)
    (hexited : ∀ thread : Nat, p.threads[thread]? = some .exited → p'.threads[thread]? = some .exited) :
    p'.Handed where
  kept hw := by
    rw [hhandles, hlength, hshutDowns]
    exact h.kept (hstopped ▸ hw)
  gone hst := hhandles.trans (h.gone (hstopped ▸ hst))
  taken c hc := by
    rw [hlength]
    exact h.taken c (hshutDowns ▸ hc)
  returned c hc hr := by
    refine joined_iff.mpr fun thread ht => ?_
    exact (joined_iff.mp (h.returned c (hshutDowns ▸ hc) hr) thread ht).imp_right (hexited thread)

theorem Handed.setThread (h : p.Handed) {thread : Nat} {old new : ThreadPhase}
    (found : p.threads[thread]? = some old) (hold : old ≠ .exited)
    (hthreads : p'.threads = p.threads.set thread new) (hhandles : p'.handles = p.handles)
    (hshutDowns : p'.shutDowns = p.shutDowns) (hstopped : p'.stopped = p.stopped) : p'.Handed := by
  apply h.threads hhandles hshutDowns hstopped
  · rw [hthreads, List.length_set]
  · intro other he
    have hne : thread ≠ other := by
      rintro rfl
      exact hold (Option.some.inj (found.symm.trans he))
    rwa [hthreads, List.getElem?_set_ne hne]

/-- A call goes on, and if it returns it has joined the threads. -/
theorem Handed.setShutDown (h : p.Handed) (call : Nat) (phase : ShutDownPhase)
    (hjoined : ∀ d, p.shutDowns[call]? = some d → phase = .returned → p.joined d) :
    (p.setShutDown call phase).Handed where
  kept hw := by
    obtain ⟨hhandles, hnone⟩ := h.kept hw
    refine ⟨hhandles, ?_⟩
    simp [JobPool.setShutDown, hnone]
  gone := h.gone
  taken c hc := by
    rcases mem_setShutDown hc with hc | ⟨d, hd, rfl⟩
    · exact h.taken c hc
    · exact h.taken d (List.mem_of_getElem? hd)
  returned c hc hr := by
    rcases mem_setShutDown hc with hc | ⟨d, hd, rfl⟩
    · exact h.returned c hc hr
    · exact hjoined d hd hr

theorem Handed.move (h : p.Handed) (hm : p.Manned) (move : Move p s p') : p'.Handed := by
  cases move with
  | announce offering parked => exact h.setThread parked nofun rfl rfl rfl rfl
  | startThread offering =>
    have hw := hm.working (offering ▸ rfl)
    obtain ⟨hhandles, hnone⟩ := h.kept hw
    refine ⟨fun _ => ⟨?_, hnone⟩, fun hst => ?_, fun c hc => ?_, fun c hc => ?_⟩
    · show p.handles ++ [p.threads.length] = List.range (p.threads ++ [ThreadPhase.starting]).length
      rw [hhandles, List.length_append]
      exact List.range_succ.symm
    · cases hw.symm.trans hst
    · cases hnone ▸ hc
    · cases hnone ▸ hc
  | take found comes queue => exact h.setThread found (ne_exited_of_comes comes) rfl rfl rfl rfl
  | park found comes queue working => exact h.setThread found (ne_exited_of_comes comes) rfl rfl rfl rfl
  | exit found comes queue stopped => exact h.setThread found (ne_exited_of_comes comes) rfl rfl rfl rfl
  | finish outcome found => exact h.setThread found nofun rfl rfl rfl rfl
  | retire found => exact h.setThread found nofun rfl rfl rfl rfl
  | stop caller free =>
    refine ⟨nofun, fun _ => rfl, fun c hc => ?_, fun c hc hr => ?_⟩
    · rcases List.mem_append.mp hc with hc | hc
      · exact h.taken c hc
      · cases List.mem_singleton.mp hc
        -- the first call takes all handles, and later ones find none
        cases hst : p.stopped with
        | false => exact .inr (h.kept hst).1
        | true => exact .inl (h.gone hst)
    · rcases List.mem_append.mp hc with hc | hc
      · exact h.returned c hc hr
      · cases List.mem_singleton.mp hc
        cases hr
  | alarm call =>
    refine (h.setShutDown call .joining nofun).threads rfl rfl rfl (List.length_map _) ?_
    intro thread he
    show (p.threads.map alerted)[thread]? = _
    rw [List.getElem?_map]
    exact congrArg (Option.map alerted) he
  | join found joined =>
    apply h.setShutDown
    intro d hd _
    cases found.symm.trans hd
    exact joined
  | _ => exact ⟨h.kept, h.gone, h.taken, h.returned⟩

theorem Move.stays_stopped (move : Move p s p') (h : p.stopped = true) :
    p'.stopped = true ∧ p'.accepted = p.accepted := by
  cases move with
  | accept free mem working => cases working.symm.trans h
  | stop => exact ⟨rfl, rfl⟩
  | discard | startThread | failStart | endOffer | take | finish | collect | dropSet =>
    exact ⟨h, accepted_note_of_none _ rfl⟩
  | _ => exact ⟨h, rfl⟩

/-- A pool that is stopped accepts no job any more. -/
theorem accepted_run_of_stopped (h : p.stopped = true) (steps : List Step) :
    (p.run steps).accepted = p.accepted := by
  have hr := run_keeps (fun q => q.stopped = true ∧ q.accepted = p.accepted)
    (fun hq move => ⟨(move.stays_stopped hq.1).1, (move.stays_stopped hq.1).2.trans hq.2⟩) ⟨h, rfl⟩ steps
  exact hr.2

/-- What holds of a pool whatever became of it. -/
structure Sound (p : JobPool) : Prop where
  manned : p.Manned
  enrolled : p.Enrolled
  placed : p.Placed
  handed : p.Handed

theorem sound_run (limit : Nat) (steps : List Step) : ((start limit).run steps).Sound := by
  apply run_keeps Sound
  · intro p p' s h move
    exact ⟨h.manned.move move, h.enrolled.move move, h.placed.move move, h.handed.move h.manned move⟩
  · exact ⟨manned_start limit, enrolled_start limit, placed_start limit, handed_start limit⟩

inductive JobPlace where
  | queued
  | running
  | finished
  deriving DecidableEq, Repr

def Has (p : JobPool) (job : Job) : JobPlace → Prop
  | .queued => job ∈ p.queue
  | .running => .running job ∈ p.threads
  | .finished => ∃ outcome, .ended job outcome ∈ p.log

variable {job : Job}

theorem has_queued_iff : p.Has job .queued ↔ 0 < p.queue.count job := List.count_pos_iff.symm

theorem has_running_iff : p.Has job .running ↔ 0 < p.running.count job := by
  rw [List.count_pos_iff, running, List.mem_filterMap]
  constructor
  · intro h
    exact ⟨_, h, rfl⟩
  · rintro ⟨phase, hp, hr⟩
    cases phase <;> cases hr
    exact hp

theorem has_finished_iff : p.Has job .finished ↔ 0 < p.ended.count job := by
  rw [List.count_pos_iff, ended, List.mem_filterMap]
  constructor
  · rintro ⟨outcome, h⟩
    exact ⟨_, h, rfl⟩
  · rintro ⟨e, he, hr⟩
    cases e <;> cases hr
    exact ⟨_, he⟩

/-- A job that was accepted is counted in one place. -/
theorem Sound.count_places (h : p.Sound) (ha : job ∈ p.accepted) :
    p.queue.count job + (p.running.count job + p.ended.count job) = 1 := by
  rw [← h.placed.accepted]
  exact List.count_eq_one_of_mem (List.nodup_append.mp h.enrolled.distinct).2.1 ha

theorem Sound.existsUnique_place (h : p.Sound) (ha : job ∈ p.accepted) : ∃! place, p.Has job place := by
  have hc := h.count_places ha
  have hsome : ∃ place, p.Has job place := by
    by_contra hn
    simp only [not_exists] at hn
    have hq := mt has_queued_iff.mpr (hn .queued)
    have hr := mt has_running_iff.mpr (hn .running)
    have he := mt has_finished_iff.mpr (hn .finished)
    omega
  obtain ⟨place, hp⟩ := hsome
  refine ⟨place, hp, fun other ho => ?_⟩
  cases place <;> cases other <;> first
    | rfl
    | (simp only [has_queued_iff, has_running_iff, has_finished_iff] at hp ho; omega)

/-- A job is begun once at most, and once for sure if it is finished. -/
theorem Sound.count_begun (h : p.Sound) (ha : job ∈ p.accepted) :
    p.begun.count job = 1 - p.queue.count job := by
  have hc := h.count_places ha
  rw [h.placed.begun]
  omega

theorem Sound.accepted_of_begun (h : p.Sound) (hb : job ∈ p.begun) : job ∈ p.accepted := by
  have hpos := List.count_pos_iff.mpr hb
  rw [h.placed.begun] at hpos
  rw [← List.count_pos_iff, h.placed.accepted]
  omega

/-- Whatever becomes of its job, a thread is on its way to the queue after it. -/
theorem threads_finish_retire {thread : Nat} (found : p.threads[thread]? = some (.running job))
    (outcome : JobOutcome) :
    (p.run [.finish thread outcome, .retire thread]).threads = p.threads.set thread .ready := by
  obtain ⟨hlt, -⟩ := List.getElem?_eq_some_iff.mp found
  have hfinish : p.after (.finish thread outcome) = ((p.setThread thread (.retiring job)).updateSet
      job.set (JobSet.record · outcome)).note (.ended job outcome) := by
    simp only [after, step?, finish?, found, Option.getD_some]
  have hretire : (p.after (.finish thread outcome)).threads[thread]? = some (.retiring job) := by
    rw [hfinish]
    exact List.getElem?_set_self hlt
  show ((p.after (.finish thread outcome)).after (.retire thread)).threads = _
  rw [after]
  simp only [step?, retire?, hretire, Option.getD_some]
  rw [hfinish]
  exact List.set_set ..

/-- Once a call from outside has shut the pool down, nothing waits and nothing runs. -/
theorem Sound.drained (h : p.Sound) (hs : p.Supplied) {c : ShutDown} (hc : c ∈ p.shutDowns)
    (outside : c.caller = none) (returned : c.phase = .returned)
    (took : c.handles = [] → p.threads = []) : p.queue = [] ∧ p.running = [] := by
  have hstopped : p.stopped = true := by
    by_contra hw
    obtain ⟨-, hnone⟩ := h.handed.kept (eq_false_of_ne_true hw)
    cases hnone ▸ hc
  have hoffering : p.offering = none := by
    by_contra hn
    cases hstopped.symm.trans (h.manned.working (Option.isSome_iff_ne_none.mpr hn))
  have hexited : ∀ phase ∈ p.threads, phase = .exited := by
    intro phase hp
    obtain ⟨thread, found⟩ := List.mem_iff_getElem?.mp hp
    rcases h.handed.taken c hc with hnil | hall
    · rw [took hnil] at hp
      cases hp
    · have hlt := (List.getElem?_eq_some_iff.mp found).1
      have hjoined := joined_iff.mp (h.handed.returned c hc returned) thread
        (hall ▸ List.mem_range.mpr hlt)
      rcases hjoined with hown | he
      · cases outside.symm.trans hown
      · exact Option.some.inj (found.symm.trans he)
  constructor
  · by_contra hq
    rcases hs.attended hq with ⟨phase, hp, ha⟩ | ho
    · cases hexited phase hp
      cases ha
    · rw [hoffering] at ho
      cases ho
  · refine List.filterMap_eq_nil_iff.mpr fun phase hp => ?_
    rw [hexited phase hp]
    rfl

/-- However callers and threads take turns: there are no more threads than may be, a job that was accepted is
in one place and is begun once at most, a thread outlives its jobs and exits only when no job is left and
none will come, and nothing is accepted once the pool is stopped. When a call from outside that took the
handles has shut the pool down, every job that was accepted has run. -/
theorem jobs_conserved {limit : Nat} (hl : 0 < limit) {steps : List Step}
    (hs : ∀ s ∈ steps, s.startsThread) :
    let p := (start limit).run steps
    (p.threads.length ≤ p.threadCount ∧ p.threadCount ≤ limit ∧ p.idle ≤ p.threads.length ∧
        p.running.length ≤ limit) ∧
      (∀ job, .answered job (.ok ()) ∈ p.log → job ∈ p.accepted) ∧
      (∀ job ∈ p.accepted, (∃! place, p.Has job place) ∧ p.begun.count job ≤ 1) ∧
      (∀ job ∈ p.begun, job ∈ p.accepted) ∧
      (∀ thread job, p.threads[thread]? = some (.running job) → ∀ outcome,
        (p.run [.finish thread outcome, .retire thread]).threads = p.threads.set thread .ready) ∧
      (.exited ∈ p.threads → p.stopped ∧ p.queue = []) ∧
      (p.stopped → ∀ more, (p.run more).accepted = p.accepted) ∧
      ∀ c ∈ p.shutDowns, c.caller = none → c.phase = .returned →
        (c.handles = [] → p.threads = []) →
        p.queue = [] ∧ ∀ job ∈ p.accepted, p.Has job .finished ∧ p.begun.count job = 1 := by
  intro p
  have h : p.Sound := sound_run limit steps
  have hcount := h.manned.count
  have hlimit : p.limit = limit := limit_run (start limit) steps
  have hbound : p.threadCount ≤ limit := hlimit ▸ h.manned.bound
  have hidle : p.idle ≤ p.threads.length := h.manned.idle ▸ List.countP_le_length
  have hrunning : p.running.length ≤ p.threads.length := List.length_filterMap_le ..
  refine ⟨⟨by omega, hbound, hidle, by omega⟩, h.enrolled.answered, fun job ha => ?_,
    fun job hb => h.accepted_of_begun hb, fun thread job found => threads_finish_retire found,
    h.manned.exits, fun hst => accepted_run_of_stopped hst, fun c hc outside returned took => ?_⟩
  · refine ⟨h.existsUnique_place ha, ?_⟩
    rw [h.count_begun ha]
    exact Nat.sub_le ..
  · obtain ⟨hqueue, hrun⟩ := h.drained (supplied_run hl hs) hc outside returned took
    refine ⟨hqueue, fun job ha => ?_⟩
    have hplaces := h.count_places ha
    have hbegun := h.count_begun ha
    rw [hqueue, hrun] at hplaces
    rw [hqueue] at hbegun
    simp only [List.count_nil, Nat.zero_add] at hplaces
    exact ⟨has_finished_iff.mpr (hplaces ▸ Nat.one_pos), hbegun⟩

/-- Of two jobs one has panicked and the other one runs, while the pool is being shut down and a third job is
refused. -/
def stoppedBusy : List Step :=
  [.enter none, .offer ⟨0, none⟩, .announce none, .complete none, .enter (some "s"), .offer ⟨1, some "s"⟩,
    .announce none, .complete none, .reach 0, .finish 0 (.panicked (.text "lost")), .retire 0, .stop none,
    .enter none, .offer ⟨2, none⟩, .alarm 0, .reach 1, .discard ⟨2, none⟩]

/-- The job that runs ends, both threads exit, and the call that shuts the pool down returns. -/
def stoppedDone : List Step :=
  stoppedBusy ++ [.finish 1 .done, .retire 1, .reach 0, .reach 1, .join 0]

theorem jobs_conserved_stopped :
    let p := (start 2).run stoppedBusy
    let q := (start 2).run stoppedDone
    (p.threads.length = 2 ∧ p.threadCount ≤ 2) ∧
      (.answered ⟨0, none⟩ (.ok ()) ∈ p.log ∧ ⟨0, none⟩ ∈ p.accepted ∧ (∃! place, p.Has ⟨0, none⟩ place)) ∧
      (p.threads[1]? = some (.running ⟨0, none⟩) ∧
        (p.run [.finish 1 (.panicked (.text "lost")), .retire 1]).threads = p.threads.set 1 .ready) ∧
      (p.stopped ∧ (p.run [.enter none, .offer ⟨3, none⟩]).accepted = p.accepted) ∧
      (.exited ∈ q.threads ∧ q.stopped) ∧
      ⟨none, [0, 1], .returned⟩ ∈ q.shutDowns ∧ q.queue = [] ∧
        q.Has ⟨0, none⟩ .finished ∧ q.begun.count ⟨0, none⟩ = 1 := by
  intro p q
  have hbusy : ∀ s ∈ stoppedBusy, s.startsThread := by decide
  have hdone : ∀ s ∈ stoppedDone, s.startsThread := by decide
  obtain ⟨⟨-, hcount, -⟩, hok, hplace, -, hthread, -, hstopped, -⟩ :=
    jobs_conserved (show 0 < 2 by decide) hbusy
  obtain ⟨-, -, -, -, -, hexit, -, hdrained⟩ := jobs_conserved (show 0 < 2 by decide) hdone
  have hanswered : .answered ⟨0, none⟩ (.ok ()) ∈ p.log := by decide +kernel
  have hrunning : p.threads[1]? = some (.running ⟨0, none⟩) := by decide +kernel
  have hst : p.stopped := by decide +kernel
  have hexited : .exited ∈ q.threads := by decide +kernel
  have hcall : ⟨none, [0, 1], .returned⟩ ∈ q.shutDowns := by decide +kernel
  have haccepted : ⟨0, none⟩ ∈ q.accepted := by decide +kernel
  obtain ⟨hqueue, hran⟩ := hdrained _ hcall rfl rfl nofun
  exact ⟨⟨by decide +kernel, hcount⟩, ⟨hanswered, hok _ hanswered, (hplace _ (hok _ hanswered)).1⟩,
    ⟨hrunning, hthread 1 _ hrunning _⟩, ⟨hst, hstopped hst _⟩, ⟨hexited, (hexit hexited).1⟩, hcall, hqueue,
    hran _ haccepted⟩

end JobPool
end TaskGrid
