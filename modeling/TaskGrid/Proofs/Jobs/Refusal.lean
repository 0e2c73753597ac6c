import TaskGrid.Proofs.Jobs.Accounts

/-! What an offer that fails leaves behind. A job that a stopped pool refuses is gone without a trace. A job for
which no thread can be started stays in the queue: its caller is told of a failure, its set waits for it, and
the next thread that comes along runs it. -/
namespace TaskGrid

def JobEvent.dismissed? : JobEvent → Option Job
  | .answered job (.error .poolStopped) => some job
  | _ => none

theorem JobSet.leave_enter (s : JobSet) : s.enter.leave = s := rfl

namespace JobPool

def dismissed (p : JobPool) : List Job := p.log.filterMap JobEvent.dismissed?

/-- No caller holds the job, it does not wait, no thread is busy with it, and it was never begun. -/
structure Traceless (p : JobPool) (job : Job) : Prop where
  absent : job ∉ p.spawning ++ p.unfinished
  idle : job ∉ p.begun

variable {p q p' : JobPool} {s : Step} {job : Job} {e : ClientError}

theorem dismissed_note (p : JobPool) (event : JobEvent) :
    (p.note event).dismissed = p.dismissed ++ event.dismissed?.toList := by
  simp only [dismissed, note, List.filterMap_append]
  cases hd : event.dismissed? <;> simp [hd]

theorem mem_dismissed : job ∈ p.dismissed ↔ .answered job (.error .poolStopped) ∈ p.log := by
  constructor
  · intro h
    obtain ⟨event, hevent, hjob⟩ := List.mem_filterMap.mp h
    unfold JobEvent.dismissed? at hjob
    split at hjob
    · cases hjob
      exact hevent
    · cases hjob
  · exact fun h => List.mem_filterMap.mpr ⟨_, h, rfl⟩

/-- Every job that was entered is in the hands of its caller, was dismissed, or was accepted, each in one way;
and an offer fails because the pool is stopped, or after the job was accepted. -/
structure Parted (p : JobPool) : Prop where
  numbered : ((p.spawning ++ (p.dismissed ++ p.accepted)).map Job.number).Perm (List.range p.entered)
  answered : ∀ job e, .answered job (.error e) ∈ p.log →
    e = .poolStopped ∨ (∃ details, e = .io details) ∧ job ∈ p.accepted

theorem parted_start (limit : Nat) : (start limit).Parted where
  numbered := .refl _
  answered _ _ h := by cases h

/-- A job goes from hand to hand. -/
theorem Parted.pass (h : p.Parted) (hentered : q.entered = p.entered)
    (hjobs : (q.spawning ++ (q.dismissed ++ q.accepted)).Perm (p.spawning ++ (p.dismissed ++ p.accepted)))
    (haccepted : ∀ job ∈ p.accepted, job ∈ q.accepted)
    (hlog : ∀ job e, .answered job (.error e) ∈ q.log → .answered job (.error e) ∈ p.log ∨
      e = .poolStopped ∨ (∃ details, e = .io details) ∧ job ∈ q.accepted) : q.Parted where
  numbered := by
    rw [hentered]
    exact (hjobs.map Job.number).trans h.numbered
  answered job e hj := by
    rcases hlog job e hj with hold | hnew
    · exact (h.answered job e hold).imp_right fun ⟨hio, ha⟩ => ⟨hio, haccepted job ha⟩
    · exact hnew

/-- Something is noted that is neither that a job was accepted nor that it was dismissed. -/
theorem Parted.note (h : p.Parted) {event : JobEvent} (haccepted : event.accepted? = none)
    (hdismissed : event.dismissed? = none)
    (hanswered : ∀ job e, event = .answered job (.error e) →
      (∃ details, e = .io details) ∧ job ∈ p.accepted) : (p.note event).Parted := by
  have hacc := p.accepted_note_of_none haccepted
  have hdis : (p.note event).dismissed = p.dismissed := by
    rw [dismissed_note, hdismissed]
    exact List.append_nil _
  apply h.pass
  · rfl
  · rw [hacc, hdis]
    exact .refl _
  · rw [hacc]
    exact fun _ => id
  · intro job e hj
    rw [hacc]
    rcases List.mem_append.mp hj with hj | hj
    · exact .inl hj
    · exact .inr (.inr (hanswered job e (List.mem_singleton.mp hj).symm))

theorem Parted.move (h : p.Parted) (he : p.Enrolled) (move : Move p s p') : p'.Parted := by
  cases move with
  | enter set =>
    refine ⟨?_, h.answered⟩
    show ((p.nextJob set :: (p.spawning ++ (p.dismissed ++ p.accepted))).map Job.number).Perm
      (List.range (p.entered + 1))
    rw [List.range_succ]
    exact (h.numbered.cons p.entered).trans (List.perm_append_singleton ..).symm
  | @refuse job free mem stopped =>
    apply h.pass
    · rfl
    · refine List.Perm.append_right _ ?_
      exact List.perm_middle.trans ((List.perm_cons_erase mem).symm.append_right p.refused)
    · exact fun _ => id
    · exact fun _ _ => .inl
  | @accept job free mem working =>
    have hacc : ({ p with entering := p.entering.erase job }.accept job).accepted = p.accepted ++ [job] :=
      accepted_note _ _
    have hdis : ({ p with entering := p.entering.erase job }.accept job).dismissed = p.dismissed := by
      rw [accept, dismissed_note]
      exact List.append_nil _
    apply h.pass
    · rfl
    · rw [hacc, hdis, ← List.append_assoc, ← List.append_assoc, ← List.append_assoc]
      have hheld : (job :: (p.entering.erase job ++ p.refused)).Perm p.spawning :=
        (List.perm_cons_erase mem).symm.append_right p.refused
      exact (List.perm_append_singleton job _).trans
        ((hheld.append_right p.dismissed).append_right p.accepted)
    · rw [hacc]
      exact fun _ => List.mem_append_left _
    · intro j e hj
      rcases List.mem_append.mp hj with hj | hj
      · exact .inl hj
      · cases List.mem_singleton.mp hj
  | @discard job mem =>
    have hacc : (p.discard job).2.accepted = p.accepted := accepted_note_of_none _ rfl
    have hdis : (p.discard job).2.dismissed = p.dismissed ++ [job] := dismissed_note _ _
    apply h.pass
    · rfl
    · rw [hacc, hdis, List.append_assoc]
      have hheld : (job :: (p.entering ++ p.refused.erase job)).Perm p.spawning :=
        List.perm_middle.symm.trans ((List.perm_cons_erase mem).symm.append_left p.entering)
      have hmiddle : (p.dismissed ++ ([job] ++ p.accepted)).Perm (job :: (p.dismissed ++ p.accepted)) :=
        List.perm_middle
      exact ((hmiddle.append_left _).trans List.perm_middle).trans (hheld.append_right _)
    · rw [hacc]
      exact fun _ => id
    · intro j e hj
      rcases List.mem_append.mp hj with hj | hj
      · exact .inl hj
      · cases List.mem_singleton.mp hj
        exact .inr (.inl rfl)
  | startThread offering | endOffer failure offering =>
    apply Parted.note
    · exact ⟨h.numbered, h.answered⟩
    · rfl
    · rfl
    · rintro job e ⟨⟩
  | failStart details offering =>
    apply Parted.note
    · exact ⟨h.numbered, h.answered⟩
    · rfl
    · rfl
    · rintro job e ⟨⟩
      exact ⟨⟨details, rfl⟩, he.offered _ offering⟩
  | take | finish | collect | dropSet =>
    apply Parted.note
    · exact ⟨h.numbered, h.answered⟩
    · rfl
    · rfl
    · rintro job e ⟨⟩
  | _ => exact ⟨h.numbered, h.answered⟩

theorem parted_run (limit : Nat) (steps : List Step) : ((start limit).run steps).Parted := by
  have h := run_keeps (fun q => q.Parted ∧ q.Enrolled)
    (fun hq move => ⟨hq.1.move hq.2 move, hq.2.move move⟩) ⟨parted_start limit, enrolled_start limit⟩ steps
  exact h.1

/-- What is noted stays. -/
theorem Move.log_prefix (move : Move p s p') : p.log <+: p'.log := by
  cases move with
  | accept | discard | startThread | failStart | endOffer | take | finish | collect | dropSet =>
    exact List.prefix_append ..
  | _ => exact List.prefix_rfl

theorem log_prefix_run (p : JobPool) (steps : List Step) : p.log <+: (p.run steps).log :=
  run_keeps (fun q => p.log <+: q.log) (fun hq move => hq.trans move.log_prefix) List.prefix_rfl steps

theorem Parted.nodup (h : p.Parted) : (p.spawning ++ (p.dismissed ++ p.accepted)).Nodup :=
  (h.numbered.nodup_iff.mpr List.nodup_range).of_map Job.number

/-- A job that was dismissed was never accepted, and its caller does not have it any more. -/
theorem Parted.traceless (h : p.Parted) (hsound : p.Sound) (haccounted : p.Accounted)
    (hjob : job ∈ p.dismissed) : p.Traceless job := by
  obtain ⟨-, hrest, hspawning⟩ := List.nodup_append.mp h.nodup
  have haccepted : job ∉ p.accepted := fun ha => (List.nodup_append.mp hrest).2.2 job hjob job ha rfl
  refine ⟨fun hm => ?_, fun hb => haccepted (hsound.accepted_of_begun hb)⟩
  rcases List.mem_append.mp hm with hm | hm
  · exact hspawning job hm job (List.mem_append_left _ hjob) rfl
  · have hcount := (List.count_pos_iff.mpr hm).trans_le (haccounted.known job)
    exact haccepted (List.count_pos_iff.mp hcount)

/-- A job that was dismissed does not come back. -/
theorem traceless_run (limit : Nat) (steps more : List Step)
    (h : .answered job (.error .poolStopped) ∈ ((start limit).run steps).log) :
    (((start limit).run steps).run more).Traceless job := by
  have hrun : ((start limit).run steps).run more = (start limit).run (steps ++ more) :=
    List.foldl_append.symm
  have hdismissed := mem_dismissed.mpr ((log_prefix_run _ more).subset h)
  rw [hrun] at hdismissed ⊢
  exact (parted_run limit _).traceless (sound_run limit _) (accounted_run limit _) hdismissed

theorem Sound.mem_queue_of_not_begun (h : p.Sound) (ha : job ∈ p.accepted) (hb : job ∉ p.begun) :
    job ∈ p.queue := by
  have hcount := h.count_begun ha
  rw [List.count_eq_zero.mpr hb] at hcount
  exact List.count_pos_iff.mp (by omega)

theorem Sound.not_traceless (h : p.Sound) (ha : job ∈ p.accepted) : ¬p.Traceless job := by
  intro ht
  have hqueue := h.mem_queue_of_not_begun ha ht.idle
  exact ht.absent (List.mem_append_right _ (List.mem_append_left _ hqueue))

/-- A set waits for a job that waits. -/
theorem Accounted.waits (h : p.Accounted) {name : String} (hjob : job ∈ p.queue) (hset : job.set = some name) :
    0 < p.pending name ∧ p.collect? name = none := by
  have hpos : 0 < p.pending name := by
    rw [h.live]
    exact List.countP_pos_iff.mpr
      ⟨job, List.mem_append_right _ (List.mem_append_left _ hjob), decide_eq_true hset⟩
  refine ⟨hpos, ?_⟩
  rw [← Option.not_isSome_iff_eq_none, collect?, Option.isSome_map, JobSet.isSome_collect?]
  exact hpos.ne'

theorem setOf_enter (p : JobPool) (set : Option String) (name : String) :
    (p.enter set).setOf name = if set = some name then (p.setOf name).enter else p.setOf name :=
  setOf_updateSet ..

section Spawn
variable (set : Option String) (failure : Option String)

/-- A pool that is stopped refuses a job, and the caller discards it. -/
theorem spawn_of_stopped (free : p.offering = none) (stopped : p.stopped = true) :
    (p.spawn set failure).1 = .error .poolStopped ∧ (p.spawn set failure).2.queue = p.queue ∧
      ∀ name, (p.spawn set failure).2.setOf name = p.setOf name := by
  have hoffer : (p.enter set).offer (p.nextJob set) =
      { p.enter set with entering := p.entering, refused := p.nextJob set :: p.refused } := by
    have hstopped : (p.enter set).stopped = true := stopped
    have hentering : (p.enter set).entering.erase (p.nextJob set) = p.entering := List.erase_cons_head ..
    simp only [offer, hstopped, hentering, if_true]
    rfl
  have hoffering : (p.enter set).offering = none := free
  simp only [spawn, hoffer, hoffering]
  refine ⟨rfl, rfl, fun name => ?_⟩
  refine (setOf_updateSet _ set JobSet.leave name).trans ?_
  show (if set = some name then ((p.enter set).setOf name).leave else (p.enter set).setOf name) = p.setOf name
  rw [setOf_enter]
  split
  · exact JobSet.leave_enter _
  · rfl

/-- However an offer ends, its job stays where it is. -/
theorem complete_spec (p : JobPool) (offer : JobOffer) :
    (p.complete offer failure).1 =
        (if offer.start then failure.elim (.ok ()) fun details => .error (.io details) else .ok ()) ∧
      (p.complete offer failure).2.queue = p.queue ∧ (p.complete offer failure).2.sets = p.sets := by
  unfold complete
  cases offer.start <;> cases failure <;> exact ⟨rfl, rfl, rfl⟩

/-- A pool that works takes a job, also when the caller is told that no thread could be started for it. -/
theorem spawn_of_working (working : p.stopped = false) :
    (p.spawn set failure).1 =
        (if p.wantsThread then failure.elim (.ok ()) fun details => .error (.io details) else .ok ()) ∧
      (p.spawn set failure).2.queue = p.nextJob set :: p.queue ∧
      (p.spawn set failure).2.setOf = (p.enter set).setOf := by
  have hoffer : (p.enter set).offer (p.nextJob set) =
      { p.enter set with entering := p.entering }.accept (p.nextJob set) := by
    have hworking : (p.enter set).stopped = false := working
    have hentering : (p.enter set).entering.erase (p.nextJob set) = p.entering := List.erase_cons_head ..
    simp only [offer, hworking, hentering, if_false, Bool.false_eq_true]
  have hspawn : ∃ notified, p.spawn set failure =
      (({ p.enter set with entering := p.entering }.accept (p.nextJob set)).announce notified).complete
        ⟨p.nextJob set, p.wantsThread, false⟩ failure := by
    simp only [spawn, hoffer]
    exact ⟨_, rfl⟩
  obtain ⟨notified, hspawn⟩ := hspawn
  rw [hspawn]
  obtain ⟨hanswer, hqueue, hsets⟩ := complete_spec failure
    (({ p.enter set with entering := p.entering }.accept (p.nextJob set)).announce notified)
    ⟨p.nextJob set, p.wantsThread, false⟩
  refine ⟨hanswer, hqueue.trans ?_, setOf_congr (hsets.trans ?_)⟩ <;> cases notified <;> rfl

end Spawn

/-- However callers and threads take turns, an offer fails because the pool is stopped or because no thread could
be started. It is as if it had not been made just in the first case: then the job is and will be with no one, is
never begun, and the queue and the sets are as before. In the second case the job is queued, running or finished;
it is counted by its set, and until it is begun whoever waits for the set gets no answer. -/
theorem failed_spawn_traceless_iff (limit : Nat) (steps : List Step) :
    let p := (start limit).run steps
    (∀ job e, .answered job (.error e) ∈ p.log →
      (p.Traceless job ↔ e = .poolStopped) ∧
        (e = .poolStopped → ∀ more, (p.run more).Traceless job) ∧
        (e ≠ .poolStopped → (∃ details, e = .io details) ∧ (∃! place, p.Has job place) ∧
          (job ∉ p.begun → job ∈ p.queue ∧
            ∀ name, job.set = some name → 0 < p.pending name ∧ p.collect? name = none))) ∧
      ∀ set failure e q, p.offering = none → p.spawn set failure = (.error e, q) →
        ((p.stopped ↔ e = .poolStopped) ∧
          (p.stopped → q.queue = p.queue ∧ ∀ name, q.setOf name = p.setOf name) ∧
          (p.stopped = false → (∃ details, failure = some details ∧ e = .io details) ∧
            q.queue = p.nextJob set :: p.queue ∧
            ∀ name, set = some name → q.pending name = p.pending name + 1)) := by
  intro p
  refine ⟨fun job e hanswered => ?_, fun set failure e q free hspawn => ?_⟩
  · have hsound : p.Sound := sound_run limit steps
    rcases (parted_run limit steps).answered job e hanswered with rfl | ⟨⟨details, rfl⟩, haccepted⟩
    · have htraceless := fun more => traceless_run limit steps more hanswered
      exact ⟨iff_of_true (htraceless []) rfl, fun _ => htraceless, absurd rfl⟩
    · refine ⟨iff_of_false (hsound.not_traceless haccepted) nofun, nofun, fun _ =>
        ⟨⟨details, rfl⟩, hsound.existsUnique_place haccepted, fun hbegun => ?_⟩⟩
      have hqueue := hsound.mem_queue_of_not_begun haccepted hbegun
      exact ⟨hqueue, fun name hset => (accounted_run limit steps).waits hqueue hset⟩
  · cases hstopped : p.stopped with
    | true =>
      obtain ⟨hanswer, hqueue, hsets⟩ := spawn_of_stopped set failure free hstopped
      rw [hspawn] at hanswer hqueue hsets
      cases hanswer
      exact ⟨iff_of_true rfl rfl, fun _ => ⟨hqueue, hsets⟩, nofun⟩
    | false =>
      obtain ⟨hanswer, hqueue, hsets⟩ := spawn_of_working set failure hstopped
      rw [hspawn] at hanswer hqueue hsets
      obtain ⟨details, rfl, rfl⟩ : ∃ details, failure = some details ∧ e = .io details := by
        split at hanswer
        · cases failure with
          | none => cases hanswer
          | some details =>
            cases hanswer
            exact ⟨details, rfl, rfl⟩
        · cases hanswer
      refine ⟨iff_of_false nofun nofun, nofun, fun _ => ⟨⟨details, rfl, rfl⟩, hqueue, fun name hset => ?_⟩⟩
      show (q.setOf name).live = (p.setOf name).live + 1
      rw [congrFun hsets name, setOf_enter, if_pos hset]
      rfl

/-- No thread can be started for the first job; the second one is offered once the pool is stopped. -/
def failedTwoWays : List Step :=
  [.enter (some "a"), .offer ⟨0, some "a"⟩, .announce none, .complete (some "no thread"), .enter (some "b"),
    .stop none, .offer ⟨1, some "b"⟩, .discard ⟨1, some "b"⟩]

theorem failed_spawn_traceless_iff_failedTwoWays :
    let p := (start 1).run failedTwoWays
    (p.Traceless ⟨1, some "b"⟩ ∧ (p.run [.alarm 0, .enter none]).Traceless ⟨1, some "b"⟩) ∧
      (¬p.Traceless ⟨0, some "a"⟩ ∧ ⟨0, some "a"⟩ ∈ p.queue ∧ 0 < p.pending "a" ∧ p.collect? "a" = none) ∧
      ((p.spawn (some "c") none).2.queue = p.queue ∧ (p.spawn (some "c") none).2.setOf "c" = p.setOf "c") ∧
      ((start 1).spawn (some "c") (some "no thread")).2.pending "c" = (start 1).pending "c" + 1 := by
  intro p
  obtain ⟨hanswered, hspawn⟩ := failed_spawn_traceless_iff 1 failedTwoWays
  obtain ⟨-, hfirst⟩ := failed_spawn_traceless_iff 1 []
  obtain ⟨hrefused, hstays, -⟩ := hanswered ⟨1, some "b"⟩ .poolStopped (by decide +kernel)
  obtain ⟨hfailed, -, hkept⟩ := hanswered ⟨0, some "a"⟩ (.io "no thread") (by decide +kernel)
  obtain ⟨-, -, hwaits⟩ := hkept nofun
  obtain ⟨hqueue, hpending⟩ := hwaits (by decide +kernel)
  obtain ⟨-, hstopped, -⟩ := hspawn (some "c") none .poolStopped _ (by decide +kernel) rfl
  obtain ⟨hsame, hsets⟩ := hstopped (by decide +kernel)
  obtain ⟨-, -, hworking⟩ := hfirst (some "c") (some "no thread") (.io "no thread") _ rfl rfl
  obtain ⟨-, -, hcounted⟩ := hworking rfl
  have hkeeps : ¬p.Traceless ⟨0, some "a"⟩ := mt hfailed.mp nofun
  exact ⟨⟨hrefused.mpr rfl, hstays rfl _⟩, ⟨hkeeps, hqueue, hpending "a" rfl⟩,
    ⟨hsame, hsets "c"⟩, hcounted "c" rfl⟩

/-- The caller is told that its job failed to start, but the job waits, its set waits for it, and it runs as
soon as a thread is started for another job. -/
theorem job_left_by_failed_start :
    let job : Job := ⟨0, some "a"⟩
    let p := ((start 1).spawn (some "a") (some "no thread")).2
    let q := (p.spawn none none).2.run [.reach 0, .finish 0 .done, .retire 0, .reach 0]
    ((start 1).spawn (some "a") (some "no thread")).1 = .error (.io "no thread") ∧
      (start 1).queue = [] ∧ p.queue = [job] ∧
      (start 1).pending "a" = 0 ∧ p.pending "a" = 1 ∧ (p.collect? "a").isNone ∧ job ∈ q.begun := by
  decide +kernel

end JobPool
end TaskGrid
