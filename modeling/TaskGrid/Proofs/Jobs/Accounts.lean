import Mathlib.Data.List.DropRight
import TaskGrid.Proofs.Jobs.Conservation

/-! What a set of jobs counts, and which failure it tells of. The count is raised before a job is offered
and lowered when the job is over, whether it ran or was refused, so that in between it also counts jobs which
their callers still hold. -/
namespace TaskGrid

namespace JobEvent

def failure? (name : String) : JobEvent → Option ClientError
  | .ended job outcome => if job.set = some name then outcome.error? else none
  | _ => none

/-- Whether someone who waited for a set was told of a failure. -/
def isError (name : String) : JobEvent → Bool
  | .collected set (.error _) => set = name
  | _ => false

theorem isError_collected {name set : String} {answer : Except ClientError Unit} :
    (JobEvent.collected set answer).isError name ↔ set = name ∧ ∃ e, answer = .error e := by
  cases answer <;> simp [isError]

theorem eq_ended_of_failure? {name : String} {event : JobEvent} {e : ClientError}
    (h : event.failure? name = some e) :
    ∃ job outcome, event = .ended job outcome ∧ job.set = some name ∧ outcome.error? = some e := by
  cases event with
  | ended job outcome =>
    obtain ⟨hset, he⟩ := Option.ite_none_right_eq_some.mp h
    exact ⟨job, outcome, rfl, hset, he⟩
  | _ => cases h

end JobEvent

namespace JobSet

theorem live_record (s : JobSet) (outcome : JobOutcome) : (s.record outcome).live = s.live := by
  unfold record
  split <;> rfl

theorem firstError_record (s : JobSet) (outcome : JobOutcome) :
    (s.record outcome).firstError = s.firstError.or outcome.error? := by
  obtain ⟨live, first⟩ := s
  cases first <;> rfl

theorem isSome_collect? {s : JobSet} : s.collect?.isSome ↔ s.live = 0 := by
  obtain ⟨live, first⟩ := s
  cases first <;> simp [collect?]

/-- A set gives its answer once no job is left, and is as new then. -/
theorem collect?_eq_some_iff {s x : JobSet} {answer : Except ClientError Unit} :
    s.collect? = some (answer, x) ↔
      s.live = 0 ∧ answer = s.firstError.elim (.ok ()) .error ∧ x = {} := by
  obtain ⟨live, first⟩ := s
  cases first <;> by_cases h : live = 0 <;> simp [collect?, h, eq_comm]

end JobSet

namespace JobPool
open ThreadPhase

/-- The jobs that callers hold: they were entered, and not accepted, or refused and not yet discarded. -/
def spawning (p : JobPool) : List Job := p.entering ++ p.refused

def unfinished (p : JobPool) : List Job := p.queue ++ p.threads.filterMap job?

/-- The failures of the jobs of a set, the first one first, since someone who waited for the set was told of
one. -/
def standing (p : JobPool) (name : String) : List ClientError :=
  (p.log.rtakeWhile fun event => !event.isError name).filterMap (·.failure? name)

def Step.set? (p : JobPool) : Step → Option String
  | .enter set => set
  | .discard job => job.set
  | .finish thread _ | .retire thread => (p.threads[thread]?.bind job?).bind Job.set
  | .collect set | .dropSet set => some set
  | _ => none

variable {p q p' : JobPool} {s : Step} {name : String} {job : Job}

theorem setOf_updateSet (p : JobPool) (set : Option String) (f : JobSet → JobSet) (name : String) :
    (p.updateSet set f).setOf name = if set = some name then f (p.setOf name) else p.setOf name := by
  cases set with
  | none => rfl
  | some other =>
    by_cases h : other = name
    · subst h
      simp [updateSet, setOf]
    · simp [updateSet, setOf, h]

theorem standing_note (p : JobPool) (event : JobEvent) (name : String) :
    (p.note event).standing name =
      if event.isError name then [] else p.standing name ++ (event.failure? name).toList := by
  simp only [standing, note, List.rtakeWhile_concat]
  cases he : event.isError name with
  | true => rfl
  | false => cases hf : event.failure? name <;> simp [hf]

theorem standing_note_of_none (p : JobPool) {event : JobEvent} (herror : event.isError name = false)
    (hfailure : event.failure? name = none) : (p.note event).standing name = p.standing name := by
  rw [standing_note, herror, hfailure]
  exact List.append_nil _

theorem setOf_congr (h : q.sets = p.sets) : q.setOf = p.setOf := by
  unfold setOf
  rw [h]

theorem standing_congr (h : q.log = p.log) : q.standing = p.standing := by
  unfold standing
  rw [h]

/-- A set counts its jobs that are not over, and keeps the first failure that is still to be told. -/
structure Accounted (p : JobPool) : Prop where
  live : ∀ name, p.pending name = (p.spawning ++ p.unfinished).countP (·.set = some name)
  first : ∀ name, (p.setOf name).firstError = (p.standing name).head?
  known : ∀ job, p.unfinished.count job ≤ p.accepted.count job

theorem accounted_start (limit : Nat) : (start limit).Accounted where
  live _ := rfl
  first _ := rfl
  known _ := Nat.le_refl 0

/-- Jobs go from hand to hand, and no set takes note of it. -/
theorem Accounted.pass (h : p.Accounted) (hspawning : q.spawning.Perm p.spawning)
    (hunfinished : q.unfinished.Perm p.unfinished) (hsets : q.sets = p.sets) (hlog : q.log = p.log) :
    q.Accounted where
  live name := by
    rw [(hspawning.append hunfinished).countP_eq, ← h.live, pending, setOf_congr hsets]
    rfl
  first name := by
    rw [setOf_congr hsets, standing_congr hlog]
    exact h.first name
  known job := by
    rw [hunfinished.count_eq, accepted_congr hlog]
    exact h.known job

/-- What is noted of a job, but that it was accepted or has ended, is nothing to its set. -/
theorem Accounted.note (h : p.Accounted) {event : JobEvent} (haccepted : event.accepted? = none)
    (herror : ∀ name, event.isError name = false) (hfailure : ∀ name, event.failure? name = none) :
    (p.note event).Accounted where
  live := h.live
  first name := by
    rw [p.standing_note_of_none (herror name) (hfailure name)]
    exact h.first name
  known job := by
    rw [p.accepted_note_of_none haccepted]
    exact h.known job

/-- A thread that does not get rid of a job. -/
theorem Accounted.setThread (h : p.Accounted) {thread : Nat} {old : ThreadPhase}
    (found : p.threads[thread]? = some old) (new : ThreadPhase) (hjob : new.job? = old.job?)
    (hthreads : q.threads = p.threads.set thread new) (hspawning : q.spawning = p.spawning)
    (hqueue : q.queue = p.queue) (hsets : q.sets = p.sets) (hlog : q.log = p.log) : q.Accounted := by
  refine h.pass (hspawning ▸ .refl _) ?_ hsets hlog
  have hp := perm_filterMap_set job? found new
  rw [hjob] at hp
  rw [unfinished, hqueue, hthreads]
  exact ((List.perm_append_left_iff _).mp hp).append_left p.queue

/-- A job that is over leaves its set, which counted it. -/
theorem Accounted.leave (h : p.Accounted)
    (hheld : (p.spawning ++ p.unfinished).Perm (job :: (q.spawning ++ q.unfinished)))
    (hknown : ∀ x, q.unfinished.count x ≤ p.unfinished.count x) (hsets : q.sets = p.sets)
    (hlog : q.log = p.log) : (q.updateSet job.set JobSet.leave).Accounted where
  live name := by
    have hl := h.live name
    rw [hheld.countP_eq, List.countP_cons] at hl
    show ((q.updateSet job.set JobSet.leave).setOf name).live =
      (q.spawning ++ q.unfinished).countP (·.set = some name)
    rw [setOf_updateSet, setOf_congr hsets]
    by_cases he : job.set = some name
    · -- the job was counted, so that the count is lowered and does not stop at zero
      simp only [he, decide_true, if_true] at hl
      rw [if_pos he]
      show p.pending name - 1 = _
      omega
    · simp only [he, decide_false, Bool.false_eq_true, if_false] at hl
      rw [if_neg he]
      exact hl
  first name := by
    have hfirst : ((q.updateSet job.set JobSet.leave).setOf name).firstError =
        (p.setOf name).firstError := by
      rw [setOf_updateSet, setOf_congr hsets]
      split <;> rfl
    rw [hfirst, h.first, ← standing_congr hlog]
    rfl
  known x := (hknown x).trans ((h.known x).trans_eq (by rw [← accepted_congr hlog]; rfl))

/-- A job that ends tells its set how. -/
theorem Accounted.record (h : p.Accounted) (job : Job) (outcome : JobOutcome) :
    ((p.updateSet job.set (JobSet.record · outcome)).note (.ended job outcome)).Accounted where
  live name := by
    have hlive : ((p.updateSet job.set (JobSet.record · outcome)).setOf name).live = p.pending name := by
      rw [setOf_updateSet]
      split
      · exact JobSet.live_record ..
      · rfl
    exact hlive.trans (h.live name)
  first name := by
    rw [standing_note]
    show ((p.updateSet job.set (JobSet.record · outcome)).setOf name).firstError =
      (p.standing name ++ (JobEvent.failure? name (.ended job outcome)).toList).head?
    rw [setOf_updateSet, JobEvent.failure?, List.head?_append, Option.head?_toList, ← h.first]
    by_cases he : job.set = some name
    · rw [if_pos he, if_pos he, JobSet.firstError_record]
    · rw [if_neg he, if_neg he, Option.or_none]
  known x := by
    rw [accepted_note_of_none _ rfl]
    exact h.known x

/-- Nothing stands against a set that has given its answer. -/
theorem Accounted.standing_collected (h : p.Accounted) {set : String} {answer : Except ClientError Unit}
    {x : JobSet} (collected : (p.setOf set).collect? = some (answer, x)) :
    (p.note (.collected set answer)).standing set = [] := by
  obtain ⟨-, hanswer, -⟩ := JobSet.collect?_eq_some_iff.mp collected
  rw [standing_note, hanswer, h.first]
  cases hs : p.standing set <;> simp [JobEvent.isError, JobEvent.failure?]

/-- A set that gives its answer is as new. -/
theorem Accounted.collect (h : p.Accounted) {set : String} {answer : Except ClientError Unit} {x : JobSet}
    (collected : (p.setOf set).collect? = some (answer, x)) (sets : Table String JobSet)
    (hset : { p with sets }.setOf set = {})
    (hother : ∀ name, set ≠ name → { p with sets }.setOf name = p.setOf name) :
    ({ p with sets }.note (.collected set answer)).Accounted := by
  obtain ⟨hlive, -, -⟩ := JobSet.collect?_eq_some_iff.mp collected
  refine ⟨fun name => ?_, fun name => ?_, fun job => ?_⟩
  · refine Eq.trans ?_ (h.live name)
    show ({ p with sets }.setOf name).live = _
    by_cases he : set = name
    · subst he
      rw [hset]
      exact hlive.symm
    · rw [hother name he]
      rfl
  · show ({ p with sets }.setOf name).firstError =
      ((p.note (.collected set answer)).standing name).head?
    by_cases he : set = name
    · subst he
      rw [hset, h.standing_collected collected]
      rfl
    · have herror : (JobEvent.collected set answer).isError name = false := by
        rw [← Bool.not_eq_true, JobEvent.isError_collected]
        exact fun hc => he hc.1
      rw [hother name he, h.first, p.standing_note_of_none herror rfl]
  · rw [accepted_note_of_none _ rfl]
    exact h.known job

theorem Accounted.move (h : p.Accounted) (move : Move p s p') : p'.Accounted := by
  cases move with
  | enter set =>
    refine ⟨fun name => ?_, fun name => ?_, h.known⟩
    · show ((p.enter set).setOf name).live =
        (p.nextJob set :: (p.spawning ++ p.unfinished)).countP (·.set = some name)
      rw [List.countP_cons, ← h.live, enter, setOf_updateSet]
      by_cases he : set = some name
      · simp only [nextJob, he, if_true, decide_true]
        rfl
      · simp only [nextJob, he, if_false, decide_false]
        rfl
    · rw [enter, setOf_updateSet]
      refine Eq.trans ?_ (h.first name)
      split <;> rfl
  | @refuse job free mem stopped =>
    refine h.pass ?_ (.refl _) rfl rfl
    show (p.entering.erase job ++ job :: p.refused).Perm (p.entering ++ p.refused)
    exact List.perm_middle.trans ((List.perm_cons_erase mem).symm.append_right p.refused)
  | @accept job free mem working =>
    have hheld : (p.entering.erase job ++ p.refused ++ (job :: p.unfinished)).Perm
        (p.spawning ++ p.unfinished) :=
      List.perm_middle.trans (((List.perm_cons_erase mem).symm.append_right _).append_right _)
    refine ⟨fun name => ?_, fun name => ?_, fun x => ?_⟩
    · exact (h.live name).trans (hheld.countP_eq _).symm
    · rw [accept, standing_note_of_none _ rfl rfl]
      exact h.first name
    · have hk := h.known x
      rw [accept, accepted_note, List.count_append]
      show ([job] ++ p.unfinished).count x ≤ p.accepted.count x + [job].count x
      rw [List.count_append]
      omega
  | @discard job mem =>
    have hp : (p.entering ++ p.refused).Perm (job :: (p.entering ++ p.refused.erase job)) :=
      ((List.perm_cons_erase mem).append_left p.entering).trans List.perm_middle
    refine Accounted.note ?_ rfl (fun _ => rfl) fun _ => rfl
    exact h.leave (hp.append_right p.unfinished) (fun _ => Nat.le_refl _) rfl rfl
  | announce offering parked => exact h.setThread parked .notified rfl rfl rfl rfl rfl rfl
  | startThread offering =>
    refine Accounted.note ?_ rfl (fun _ => rfl) fun _ => rfl
    refine h.pass (.refl _) (.of_eq ?_) rfl rfl
    show p.queue ++ (p.threads ++ [ThreadPhase.starting]).filterMap job? = _
    rw [List.filterMap_append]
    exact congrArg (p.queue ++ ·) (List.append_nil _)
  | @take thread phase job rest found comes queue =>
    have hp : ((p.threads.set thread (.running job)).filterMap job?).Perm
        (job :: p.threads.filterMap job?) := by
      have hp := perm_filterMap_set job? found (.running job)
      rw [job?_of_comes comes] at hp
      exact hp
    refine Accounted.note ?_ rfl (fun _ => rfl) fun _ => rfl
    refine h.pass (.refl _) ?_ rfl rfl
    rw [unfinished, unfinished, queue]
    exact (hp.append_left rest).trans List.perm_middle
  | park found comes queue working =>
    exact h.setThread found .parked (job?_of_comes comes).symm rfl rfl rfl rfl rfl
  | exit found comes queue stopped =>
    exact h.setThread found .exited (job?_of_comes comes).symm rfl rfl rfl rfl rfl
  | @finish thread job outcome found =>
    have hset : (p.setThread thread (.retiring job)).Accounted :=
      h.setThread found (.retiring job) rfl rfl rfl rfl rfl rfl
    exact hset.record job outcome
  | @retire thread job found =>
    have hp : (p.unfinished).Perm (job :: (p.setThread thread .ready).unfinished) := by
      have hp := (perm_filterMap_set job? found .ready).symm
      exact (hp.append_left p.queue).trans List.perm_middle
    refine h.leave ((hp.append_left p.spawning).trans List.perm_middle) (fun x => ?_) rfl rfl
    rw [hp.count_eq, List.count_cons]
    exact Nat.le_add_right ..
  | alarm call =>
    refine h.pass (.refl _) (.of_eq ?_) rfl rfl
    show p.queue ++ (p.threads.map alerted).filterMap job? = _
    have hcomp : job? ∘ alerted = job? := funext job?_alerted
    rw [List.filterMap_map, hcomp]
    rfl
  | collect collected =>
    obtain ⟨-, -, hx⟩ := JobSet.collect?_eq_some_iff.mp collected
    apply h.collect collected
    · simp [setOf, hx]
    · intro name he
      simp [setOf, he]
  | dropSet collected =>
    apply h.collect collected
    · simp [setOf]
    · intro name he
      simp [setOf, he]
  | failStart | endOffer =>
    refine Accounted.note ?_ rfl (fun _ => rfl) fun _ => rfl
    exact ⟨h.live, h.first, h.known⟩
  | _ => exact ⟨h.live, h.first, h.known⟩

theorem accounted_run (limit : Nat) (steps : List Step) : ((start limit).run steps).Accounted :=
  run_keeps Accounted (fun h move => h.move move) (accounted_start limit) steps

/-- A step that does not concern a set leaves it as it is. -/
theorem Move.setOf_eq (move : Move p s p') (hs : s.set? p ≠ some name) : p'.setOf name = p.setOf name := by
  have hupdate (q : JobPool) (set : Option String) (f : JobSet → JobSet) (hne : set ≠ some name) :
      (q.updateSet set f).setOf name = q.setOf name := by
    rw [setOf_updateSet, if_neg hne]
  cases move with
  | enter set => exact hupdate _ set _ hs
  | discard mem => exact hupdate _ _ _ hs
  | @finish thread job outcome found =>
    have hne : job.set ≠ some name := by simpa [Step.set?, found, job?] using hs
    exact hupdate (p.setThread thread (.retiring job)) job.set (JobSet.record · outcome) hne
  | @retire thread job found =>
    have hne : job.set ≠ some name := by simpa [Step.set?, found, job?] using hs
    exact hupdate _ _ _ hne
  | @collect set answer x collected =>
    have hne : set ≠ name := fun he => hs (congrArg some he)
    simp [setOf, note, hne]
  | @dropSet set answer x collected =>
    have hne : set ≠ name := fun he => hs (congrArg some he)
    simp [setOf, note, hne]
  | _ => rfl

/-- However callers, threads and those who wait take turns: a set counts its jobs that were accepted and are
not over, and those on their way into the pool; no step that takes one away finds none; and no step changes
a set but those of its own jobs and of those who wait for it. Someone who waits gets an answer once the
count is zero, which is the first failure since the last one that was told, if there was one, and only
jobs of the set fail for it. -/
theorem sets_accounted (limit : Nat) (steps : List Step) (name : String) :
    let p := (start limit).run steps
    (p.unfinished.Nodup ∧ ∀ job ∈ p.unfinished, job ∈ p.accepted) ∧
      p.pending name = p.unfinished.countP (·.set = some name) + p.spawning.countP (·.set = some name) ∧
      ((∀ job ∈ p.spawning, job.set ≠ some name) →
        p.pending name = p.unfinished.countP (·.set = some name)) ∧
      (∀ job ∈ p.refused, job.set = some name → 0 < p.pending name) ∧
      (∀ job, .retiring job ∈ p.threads → job.set = some name → 0 < p.pending name) ∧
      (∀ s : Step, s.set? p ≠ some name → (p.after s).setOf name = p.setOf name) ∧
      ((p.collect? name).isSome ↔ p.pending name = 0) ∧
      (∀ answer p', p.collect? name = some (answer, p') →
        (∀ e, answer = .error e ↔ (p.standing name).head? = some e) ∧
          (answer = .ok () ↔ p.standing name = []) ∧ p'.standing name = []) ∧
      ∀ e ∈ p.standing name, ∃ job outcome,
        .ended job outcome ∈ p.log ∧ job.set = some name ∧ outcome.error? = some e := by
  intro p
  have h : p.Accounted := accounted_run limit steps
  have hsound : p.Sound := sound_run limit steps
  have hlive : p.pending name =
      p.unfinished.countP (·.set = some name) + p.spawning.countP (·.set = some name) := by
    rw [h.live, List.countP_append, Nat.add_comm]
  have hpos {job : Job} (hj : job ∈ p.spawning ++ p.unfinished) (hset : job.set = some name) :
      0 < p.pending name := by
    rw [h.live]
    exact List.countP_pos_iff.mpr ⟨job, hj, decide_eq_true hset⟩
  refine ⟨⟨List.nodup_iff_count_le_one.mpr fun job => ?_, fun job hj => ?_⟩, hlive, fun hnone => ?_,
    fun job hj => hpos (List.mem_append_left _ (List.mem_append_right _ hj)), fun job hj => hpos ?_,
    fun s hs => ?_, ?_, fun answer p' hc => ?_, fun e he => ?_⟩
  · have haccepted : p.accepted.Nodup := (List.nodup_append.mp hsound.enrolled.distinct).2.1
    exact (h.known job).trans (List.nodup_iff_count_le_one.mp haccepted job)
  · exact List.count_pos_iff.mp ((List.count_pos_iff.mpr hj).trans_le (h.known job))
  · have hzero : p.spawning.countP (·.set = some name) = 0 :=
      List.countP_eq_zero.mpr fun job hj hset => hnone job hj (of_decide_eq_true hset)
    rw [hlive, hzero, Nat.add_zero]
  · exact List.mem_append_right _ (List.mem_append_right _ (List.mem_filterMap.mpr ⟨_, hj, rfl⟩))
  · unfold after
    cases hp : p.step? s with
    | none => rfl
    | some p' => exact (move_of_step? hp).setOf_eq hs
  · rw [JobPool.collect?, Option.isSome_map]
    exact JobSet.isSome_collect?
  · obtain ⟨x, rfl, hx⟩ := eq_of_collect? hc
    obtain ⟨-, hanswer, -⟩ := JobSet.collect?_eq_some_iff.mp hx
    rw [h.first] at hanswer
    subst hanswer
    refine ⟨fun e => ?_, ?_, h.standing_collected hx⟩
    · cases p.standing name <;> simp
    · cases p.standing name <;> simp
  · obtain ⟨event, hevent, hfailure⟩ := List.mem_filterMap.mp he
    obtain ⟨job, outcome, rfl, hset, herror⟩ := JobEvent.eq_ended_of_failure? hfailure
    exact ⟨job, outcome, (List.rtakeWhile_suffix _ _).subset hevent, hset, herror⟩

/-- Two jobs of one set have failed, and a job of another set is refused. -/
def failedTwice : List Step :=
  [.enter (some "a"), .offer ⟨0, some "a"⟩, .announce none, .complete none, .enter (some "a"),
    .offer ⟨1, some "a"⟩, .announce none, .complete none, .reach 0, .reach 1,
    .finish 0 (.panicked (.text "lost")), .enter (some "b"), .stop none, .finish 1 (.failed .poolStopped),
    .offer ⟨2, some "b"⟩]

theorem sets_accounted_failedTwice :
    let p := (start 2).run failedTwice
    let q := (start 2).run (failedTwice ++ [.retire 1, .discard ⟨2, some "b"⟩, .retire 0])
    (⟨2, some "b"⟩ ∈ p.refused ∧ 0 < p.pending "b") ∧
      (.retiring ⟨0, some "a"⟩ ∈ p.threads ∧ 0 < p.pending "a") ∧
      ((∀ job ∈ p.spawning, job.set ≠ some "a") ∧ p.unfinished.length = 2 ∧
        p.pending "a" = p.unfinished.countP (·.set = some "a")) ∧
      (p.after (.discard ⟨2, some "b"⟩)).setOf "a" = p.setOf "a" ∧
      (∃ q', q.collect? "a" = some (.error (.panicked "lost"), q') ∧ q'.standing "a" = []) ∧
      ∃ job outcome, .ended job outcome ∈ q.log ∧ job.set = some "a" ∧
        outcome.error? = some (.panicked "lost") := by
  intro p q
  obtain ⟨-, -, hpending, -, hretiring, hframe, -⟩ := sets_accounted 2 failedTwice "a"
  obtain ⟨-, -, -, hrefused, -⟩ := sets_accounted 2 failedTwice "b"
  obtain ⟨-, -, -, -, -, -, hsome, hanswer, hfailed⟩ :=
    sets_accounted 2 (failedTwice ++ [.retire 1, .discard ⟨2, some "b"⟩, .retire 0]) "a"
  have hb : ⟨2, some "b"⟩ ∈ p.refused := by decide +kernel
  have ha : .retiring ⟨0, some "a"⟩ ∈ p.threads := by decide +kernel
  have hnone : ∀ job ∈ p.spawning, job.set ≠ some "a" := by decide +kernel
  have hstanding : (q.standing "a").head? = some (.panicked "lost") := by decide +kernel
  obtain ⟨⟨answer, q'⟩, hq⟩ := Option.isSome_iff_exists.mp (hsome.mpr (by decide +kernel))
  obtain ⟨herror, -, hafter⟩ := hanswer answer q' hq
  obtain rfl := (herror _).mpr hstanding
  exact ⟨⟨hb, hrefused _ hb rfl⟩, ⟨ha, hretiring _ ha rfl⟩, ⟨hnone, by decide +kernel, hpending hnone⟩,
    hframe (.discard ⟨2, some "b"⟩) (by decide), ⟨q', hq, hafter⟩, hfailed _ (List.mem_of_head? hstanding)⟩

end JobPool
end TaskGrid
