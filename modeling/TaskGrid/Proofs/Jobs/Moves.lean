import Mathlib.Data.List.Basic
import TaskGrid.Jobs.Pool

/-! What one step of a job pool can do, case by case, and how a fact that every step keeps is kept by a
run. -/
namespace TaskGrid

deriving instance DecidableEq for JobEvent

namespace ThreadPhase

def comes : ThreadPhase → Bool
  | .starting | .ready | .notified => true
  | _ => false

def isIdle : ThreadPhase → Bool
  | .parked | .notified => true
  | _ => false

/-- Whether a thread in this phase was just started, runs a job, or has just ended one. -/
def isAwake : ThreadPhase → Bool
  | .starting | .ready | .running _ | .retiring _ => true
  | _ => false

/-- Whether a thread in this phase is to reach the queue, though no one notifies it. -/
def isAlert (phase : ThreadPhase) : Bool := phase.isAwake || phase = .notified

def running? : ThreadPhase → Option Job
  | .running job => some job
  | _ => none

/-- The job that a thread did not hand back to its set yet. -/
def job? : ThreadPhase → Option Job
  | .running job | .retiring job => some job
  | _ => none

@[simp] theorem isIdle_alerted (phase : ThreadPhase) : phase.alerted.isIdle = phase.isIdle := by
  cases phase <;> rfl

@[simp] theorem alerted_eq_exited {phase : ThreadPhase} : phase.alerted = .exited ↔ phase = .exited := by
  cases phase <;> simp [alerted]

@[simp] theorem alerted_eq_starting {phase : ThreadPhase} :
    phase.alerted = .starting ↔ phase = .starting := by
  cases phase <;> simp [alerted]

theorem isAlert_iff {phase : ThreadPhase} : phase.isAlert ↔ phase.isAwake ∨ phase = .notified := by
  simp [isAlert]

theorem isAlert_alerted {phase : ThreadPhase} (h : phase.isAlert) : phase.alerted.isAlert := by
  cases phase <;> first | rfl | cases h

@[simp] theorem running?_alerted (phase : ThreadPhase) : phase.alerted.running? = phase.running? := by
  cases phase <;> rfl

@[simp] theorem job?_alerted (phase : ThreadPhase) : phase.alerted.job? = phase.job? := by
  cases phase <;> rfl

theorem running?_of_comes {phase : ThreadPhase} (h : phase.comes) : phase.running? = none := by
  cases phase <;> first | rfl | cases h

theorem job?_of_comes {phase : ThreadPhase} (h : phase.comes) : phase.job? = none := by
  cases phase <;> first | rfl | cases h

theorem ne_exited_of_comes {phase : ThreadPhase} (h : phase.comes) : phase ≠ .exited := by
  rintro rfl
  cases h

theorem toNat_starting_add_isIdle (phase : ThreadPhase) :
    (phase == .starting).toNat + phase.isIdle.toNat ≤ 1 := by
  cases phase <;> simp [isIdle, Bool.toNat_le]

end ThreadPhase

section
variable {α β : Type} {l : List α} {i : Nat} {a : α}

/-- Replacing one element counts the new one in place of the old one. -/
theorem countP_set_add (f : α → Bool) (h : l[i]? = some a) (b : α) :
    (l.set i b).countP f + (f a).toNat = l.countP f + (f b).toNat := by
  obtain ⟨hlt, rfl⟩ := List.getElem?_eq_some_iff.mp h
  have hpos : (f l[i]).toNat ≤ l.countP f := by
    cases hf : f l[i] with
    | false => exact Nat.zero_le _
    | true => exact List.countP_pos_iff.mpr ⟨l[i], List.getElem_mem hlt, hf⟩
  have hnat (c : Bool) : (if c then 1 else 0) = c.toNat := by cases c <;> rfl
  rw [List.countP_set hlt, hnat, hnat]
  omega

theorem count_filterMap_set_add [DecidableEq β] (f : α → Option β) (h : l[i]? = some a) (b : α) (x : β) :
    ((l.set i b).filterMap f).count x + (f a).toList.count x =
      (l.filterMap f).count x + (f b).toList.count x := by
  have hc := countP_set_add (fun c => decide (f c = some x)) h b
  have hl (l : List α) : (l.filterMap f).count x = l.countP fun c => decide (f c = some x) := by
    simp [List.count_filterMap, beq_eq_decide]
  have hone (c : α) : (f c).toList.count x = (decide (f c = some x)).toNat := by
    cases hf : f c with
    | none => rfl
    | some y =>
      by_cases e : y = x <;> simp [e]
  rw [hl, hl, hone, hone]
  exact hc

theorem perm_filterMap_set [DecidableEq β] (f : α → Option β) (h : l[i]? = some a) (b : α) :
    ((f a).toList ++ (l.set i b).filterMap f).Perm ((f b).toList ++ l.filterMap f) := by
  rw [List.perm_iff_count]
  intro x
  have hc := count_filterMap_set_add f h b x
  rw [List.count_append, List.count_append]
  omega

end

namespace JobPool
open ThreadPhase

/-- Whether a step starts the thread that it is to start, if it is to start one. -/
def Step.startsThread : Step → Bool
  | .complete (some _) => false
  | _ => true

inductive Move (p : JobPool) : Step → JobPool → Prop where
  | enter (set : Option String) : Move p (.enter set) (p.enter set)
  | refuse {job : Job} (free : p.offering = none) (mem : job ∈ p.entering)
      (stopped : p.stopped = true) :
      Move p (.offer job) { p with entering := p.entering.erase job, refused := job :: p.refused }
  | accept {job : Job} (free : p.offering = none) (mem : job ∈ p.entering)
      (working : p.stopped = false) :
      Move p (.offer job) ({ p with entering := p.entering.erase job }.accept job)
  | discard {job : Job} (mem : job ∈ p.refused) : Move p (.discard job) (p.discard job).2
  | announce {thread : Nat} {job : Job} {start : Bool} (offering : p.offering = some ⟨job, start, false⟩)
      (parked : p.threads[thread]? = some .parked) :
      Move p (.announce (some thread))
        { p.setThread thread .notified with offering := some ⟨job, start, true⟩ }
  | announceNone {job : Job} {start : Bool} (offering : p.offering = some ⟨job, start, false⟩)
      (unparked : .parked ∉ p.threads) :
      Move p (.announce none) { p with offering := some ⟨job, start, true⟩ }
  | startThread {job : Job} (offering : p.offering = some ⟨job, true, true⟩) :
      Move p (.complete none)
        ({ p.startThread with offering := none }.note (.answered job (.ok ())))
  | failStart {job : Job} (details : String) (offering : p.offering = some ⟨job, true, true⟩) :
      Move p (.complete (some details))
        ({ p.failStart with offering := none }.note (.answered job (.error (.io details))))
  | endOffer {job : Job} (failure : Option String) (offering : p.offering = some ⟨job, false, true⟩) :
      Move p (.complete failure) ({ p with offering := none }.note (.answered job (.ok ())))
  | take {thread : Nat} {phase : ThreadPhase} {job : Job} {rest : List Job}
      (found : p.threads[thread]? = some phase) (comes : phase.comes) (queue : p.queue = job :: rest) :
      Move p (.reach thread)
        (({ p with idle := p.idle - phase.isIdle.toNat, queue := rest }.setThread thread
          (.running job)).note (.begun job))
  | park {thread : Nat} {phase : ThreadPhase} (found : p.threads[thread]? = some phase)
      (comes : phase.comes) (queue : p.queue = []) (working : p.stopped = false) :
      Move p (.reach thread)
        ({ p with idle := p.idle - phase.isIdle.toNat + 1 }.setThread thread .parked)
  | exit {thread : Nat} {phase : ThreadPhase} (found : p.threads[thread]? = some phase)
      (comes : phase.comes) (queue : p.queue = []) (stopped : p.stopped = true) :
      Move p (.reach thread) ({ p with idle := p.idle - phase.isIdle.toNat }.setThread thread .exited)
  | finish {thread : Nat} {job : Job} (outcome : JobOutcome)
      (found : p.threads[thread]? = some (.running job)) :
      Move p (.finish thread outcome)
        (((p.setThread thread (.retiring job)).updateSet job.set (JobSet.record · outcome)).note
          (.ended job outcome))
  | retire {thread : Nat} {job : Job} (found : p.threads[thread]? = some (.retiring job)) :
      Move p (.retire thread) ((p.setThread thread .ready).updateSet job.set JobSet.leave)
  | stop (caller : Option Nat) (free : p.offering = none) : Move p (.stop caller) (p.stop caller)
  | alarm (call : Nat) : Move p (.alarm call) (p.alarm call)
  | join {call : Nat} {s : ShutDown} (found : p.shutDowns[call]? = some s) (joined : p.joined s) :
      Move p (.join call) (p.setShutDown call .returned)
  | collect {set : String} {answer : Except ClientError Unit} {x : JobSet}
      (collected : (p.setOf set).collect? = some (answer, x)) :
      Move p (.collect set) ({ p with sets := p.sets.insert set x }.note (.collected set answer))
  | dropSet {set : String} {answer : Except ClientError Unit} {x : JobSet}
      (collected : (p.setOf set).collect? = some (answer, x)) :
      Move p (.dropSet set)
        ({ p with sets := (p.sets.insert set x).erase set }.note (.collected set answer))

variable {p p' : JobPool}

theorem eq_of_collect? {set : String} {answer : Except ClientError Unit}
    (h : p.collect? set = some (answer, p')) :
    ∃ x, p' = { p with sets := p.sets.insert set x }.note (.collected set answer) ∧
      (p.setOf set).collect? = some (answer, x) := by
  obtain ⟨⟨a, x⟩, hx, he⟩ := Option.map_eq_some_iff.mp h
  cases he
  exact ⟨x, rfl, hx⟩

theorem move_of_arrive {thread : Nat} {phase : ThreadPhase} (found : p.threads[thread]? = some phase)
    (comes : phase.comes) :
    Move p (.reach thread) ({ p with idle := p.idle - phase.isIdle.toNat }.arrive thread) := by
  unfold arrive
  split
  · next job rest queue => exact .take found comes queue
  · next queue =>
    split
    · next stopped => exact .exit found comes queue stopped
    · next working => exact .park found comes queue (eq_false_of_ne_true working)

theorem move_of_step? {s : Step} (h : p.step? s = some p') : Move p s p' := by
  cases s with
  | enter set =>
    cases h
    exact .enter set
  | offer job =>
    obtain ⟨⟨free, mem⟩, he⟩ := Option.ite_none_right_eq_some.mp h
    cases he
    unfold offer
    simp only
    split
    · next stopped => exact .refuse free mem stopped
    · next working => exact .accept free mem (eq_false_of_ne_true working)
  | discard job =>
    obtain ⟨mem, he⟩ := Option.ite_none_right_eq_some.mp h
    cases he
    exact .discard mem
  | announce notified =>
    simp only [step?] at h
    split at h
    · next job start offering =>
      obtain ⟨may, he⟩ := Option.ite_none_right_eq_some.mp h
      cases he
      unfold announce
      rw [offering]
      cases notified with
      | none => exact .announceNone offering (by simpa [mayNotify] using may)
      | some thread => exact .announce offering (of_decide_eq_true may)
    · cases h
  | complete failure =>
    simp only [step?] at h
    split at h
    · next job start offering =>
      cases h
      cases start with
      | false => exact .endOffer failure offering
      | true =>
        cases failure with
        | none => exact .startThread offering
        | some details => exact .failStart details offering
    · cases h
  | reach thread =>
    simp only [step?, reach?] at h
    split at h
    all_goals first
      | cases h; done
      | (next found => cases h; exact move_of_arrive found rfl)
  | finish thread outcome =>
    simp only [step?, finish?] at h
    split at h
    · next job found =>
      cases h
      exact .finish outcome found
    · cases h
  | retire thread =>
    simp only [step?, retire?] at h
    split at h
    · next job found =>
      cases h
      exact .retire found
    · cases h
  | stop caller =>
    obtain ⟨⟨free, -⟩, he⟩ := Option.ite_none_right_eq_some.mp h
    cases he
    exact .stop caller free
  | alarm call =>
    simp only [step?] at h
    split at h
    · cases h
      exact .alarm call
    · cases h
  | join call =>
    simp only [step?] at h
    split at h
    · next found =>
      obtain ⟨joined, he⟩ := Option.ite_none_right_eq_some.mp h
      cases he
      exact .join found joined
    · cases h
  | collect set =>
    obtain ⟨⟨answer, q⟩, collected, rfl⟩ := Option.map_eq_some_iff.mp h
    obtain ⟨x, rfl, hx⟩ := eq_of_collect? collected
    exact .collect hx
  | dropSet set =>
    obtain ⟨⟨answer, q⟩, collected, rfl⟩ := Option.map_eq_some_iff.mp h
    obtain ⟨x, rfl, hx⟩ := eq_of_collect? collected
    exact .dropSet hx

/-- What all admitted steps keep, a run of them keeps. -/
theorem run_keeps_of_admitted (Inv : JobPool → Prop) (Admitted : Step → Prop)
    (hmove : ∀ {p p' : JobPool} {s : Step}, Admitted s → Inv p → Move p s p' → Inv p') (h : Inv p)
    {steps : List Step} (hs : ∀ s ∈ steps, Admitted s) : Inv (p.run steps) := by
  induction steps generalizing p with
  | nil => exact h
  | cons s rest ih =>
    obtain ⟨hfirst, hrest⟩ := List.forall_mem_cons.mp hs
    have hone : Inv (p.after s) := by
      unfold after
      cases hp : p.step? s with
      | none => exact h
      | some p' => exact hmove hfirst h (move_of_step? hp)
    exact ih hone hrest

theorem run_keeps (Inv : JobPool → Prop)
    (hmove : ∀ {p p' : JobPool} {s : Step}, Inv p → Move p s p' → Inv p') (h : Inv p)
    (steps : List Step) : Inv (p.run steps) :=
  run_keeps_of_admitted Inv (fun _ => True) (fun _ => hmove) h fun _ _ => trivial

theorem Move.limit_eq {s : Step} (h : Move p s p') : p'.limit = p.limit := by
  cases h <;> rfl

@[simp] theorem limit_run (p : JobPool) (steps : List Step) : (p.run steps).limit = p.limit :=
  run_keeps (fun q => q.limit = p.limit) (fun hq hm => hm.limit_eq.trans hq) rfl steps

end JobPool
end TaskGrid
