import Mathlib.Data.List.Basic
import Mathlib.Data.List.Induction
import TaskGrid.Proofs.Plane.Records
import TaskGrid.Scenario.Client

/-! Scripted failures of a control plane in memory, along a run. Every kind of call has a script of its own,
which only grows, and a place in it up to which its failures are consumed. -/
namespace TaskGrid

namespace MemoryStep

def failure? (kind : PlaneCall) : MemoryStep → Option ClientError
  | .prepare (.failNext c e) => if c = kind then some e else none
  | _ => none

def logged? : MemoryStep → Option (PlaneCall × String)
  | .call request => some (request.kind, request.target)
  | _ => none

/-- Whether a step scripts a failure of a kind, or is a call of that kind. -/
def concerns (kind : PlaneCall) : MemoryStep → Bool
  | .prepare (.failNext c _) => c = kind
  | .call request => request.kind = kind
  | _ => false

theorem filterMap_snoc {β : Type} (f : MemoryStep → Option β) (steps : List MemoryStep) (s : MemoryStep) :
    (steps ++ [s]).filterMap f = steps.filterMap f ++ (f s).toList := by
  rw [List.filterMap_append]
  cases h : f s <;> simp [h]

end MemoryStep

/-- The failures that were ever scripted for a kind of call, the oldest first, and how many of them are
consumed. -/
structure FailureScript where
  scripted : List ClientError
  consumed : Nat
  consumed_le : consumed ≤ scripted.length

namespace FailureScript

def next? (s : FailureScript) : Option ClientError := s.scripted[s.consumed]?

def left (s : FailureScript) : List ClientError := s.scripted.drop s.consumed

def add (s : FailureScript) (e : ClientError) : FailureScript where
  scripted := s.scripted ++ [e]
  consumed := s.consumed
  consumed_le := by
    rw [List.length_append]
    exact Nat.le_add_right_of_le s.consumed_le

/-- A call consumes a failure if one is left. -/
def consume (s : FailureScript) : FailureScript :=
  if h : s.consumed < s.scripted.length then { s with consumed := s.consumed + 1, consumed_le := h } else s

def after (kind : PlaneCall) (s : FailureScript) : MemoryStep → FailureScript
  | .prepare (.failNext c e) => if c = kind then s.add e else s
  | .call request => if request.kind = kind then s.consume else s
  | _ => s

theorem next?_eq (s : FailureScript) : s.next? = s.left.head? := List.head?_drop.symm

@[simp] theorem left_add (s : FailureScript) (e : ClientError) : (s.add e).left = s.left ++ [e] :=
  List.drop_append_of_le_length s.consumed_le

@[simp] theorem left_consume (s : FailureScript) : s.consume.left = s.left.tail := by
  unfold consume left
  split
  · exact (List.tail_drop ..).symm
  · next h => simp [List.drop_eq_nil_of_le (Nat.le_of_not_lt h)]

@[simp] theorem scripted_consume (s : FailureScript) : s.consume.scripted = s.scripted := by
  unfold consume
  split <;> rfl

theorem scripted_after (kind : PlaneCall) (s : FailureScript) (step : MemoryStep) :
    (s.after kind step).scripted = s.scripted ++ (step.failure? kind).toList := by
  unfold after MemoryStep.failure?
  split
  · next c e =>
    by_cases h : c = kind <;> simp [h, add]
  · split <;> simp
  · simp

theorem after_of_not_concerns {kind : PlaneCall} {step : MemoryStep} (h : step.concerns kind = false)
    (s : FailureScript) : s.after kind step = s := by
  unfold MemoryStep.concerns at h
  unfold after
  split at h
  · exact if_neg (of_decide_eq_false h)
  · exact if_neg (of_decide_eq_false h)
  · rfl

end FailureScript

namespace MemoryPlane

def run (p : MemoryPlane) (steps : List MemoryStep) : MemoryPlane :=
  steps.foldl (fun p s => (p.step s).1) p

def script (p : MemoryPlane) (kind : PlaneCall) (steps : List MemoryStep) : FailureScript :=
  steps.foldl (FailureScript.after kind) ⟨p.failures kind, 0, Nat.zero_le _⟩

/-- Whether a step, coming after others, scripts a failure or is a call that meets one. -/
def idle (p : MemoryPlane) (before : List MemoryStep) : MemoryStep → Bool
  | .prepare (.failNext _ _) => true
  | .call request => (p.script request.kind before).next?.isSome
  | _ => false

/-- The steps, coming after others, without those that script a failure or meet one. -/
def effective (p : MemoryPlane) : (before : List MemoryStep) → List MemoryStep → List MemoryStep
  | _, [] => []
  | before, s :: r =>
    if p.idle before s then p.effective (before ++ [s]) r else s :: p.effective (before ++ [s]) r

variable (p : MemoryPlane) (steps : List MemoryStep)

theorem run_snoc (s : MemoryStep) : p.run (steps ++ [s]) = ((p.run steps).step s).1 :=
  List.foldl_append

theorem script_snoc (kind : PlaneCall) (s : MemoryStep) :
    p.script kind (steps ++ [s]) = (p.script kind steps).after kind s := List.foldl_append

/-! ### The records after a step -/

theorem records_perform (request : PlaneRequest) :
    (plane.perform request p).2.records = (p.records.noting request).consuming request.kind := by
  cases h : p.failures request.kind with
  | cons e rest => rw [(recorded_perform request).met h]; rfl
  | nil =>
    rw [(recorded_perform request).served h]
    -- there is nothing to consume
    have hc : (fun c => if c = request.kind then (p.failures c).tail else p.failures c) = p.failures := by
      funext c
      split
      · next hc => rw [hc, h]; rfl
      · rfl
    exact congrArg (Records.mk _ _) hc.symm

theorem calls_step (s : MemoryStep) : (p.step s).1.calls = p.calls ++ s.logged?.toList := by
  cases s with
  | call request => exact congrArg Records.calls (records_perform p request)
  | prepare setup => cases setup <;> exact (List.append_nil _).symm
  | calls => exact (List.append_nil _).symm
  | state => exact (List.append_nil _).symm

theorem failures_step {p : MemoryPlane} {kind : PlaneCall} {script : FailureScript}
    (h : p.failures kind = script.left) (s : MemoryStep) :
    (p.step s).1.failures kind = (script.after kind s).left := by
  cases s with
  | call request =>
    refine (congrFun (congrArg Records.failures (records_perform p request)) kind).trans ?_
    by_cases hk : kind = request.kind
    · rw [FailureScript.after, if_pos hk.symm, FailureScript.left_consume, ← h]
      exact if_pos hk
    · rw [FailureScript.after, if_neg (Ne.symm hk), ← h]
      exact if_neg hk
  | prepare setup =>
    cases setup with
    | failNext c e =>
      by_cases hk : kind = c
      · rw [FailureScript.after, if_pos hk.symm, FailureScript.left_add, ← h]
        exact if_pos hk
      · rw [FailureScript.after, if_neg (Ne.symm hk), ← h]
        exact if_neg hk
    | setFate => exact h
    | respond => exact h
  | calls => exact h
  | state => exact h

theorem failures_run (kind : PlaneCall) : (p.run steps).failures kind = (p.script kind steps).left := by
  induction steps using List.reverseRecOn with
  | nil => rfl
  | append_singleton steps s ih => rw [run_snoc, script_snoc, failures_step ih]

theorem calls_run : (p.run steps).calls = p.calls ++ steps.filterMap MemoryStep.logged? := by
  induction steps using List.reverseRecOn with
  | nil => exact (List.append_nil _).symm
  | append_singleton steps s ih =>
    rw [run_snoc, calls_step, ih, List.append_assoc, MemoryStep.filterMap_snoc]

theorem scripted_script (kind : PlaneCall) :
    (p.script kind steps).scripted = p.failures kind ++ steps.filterMap (·.failure? kind) := by
  induction steps using List.reverseRecOn with
  | nil => exact (List.append_nil _).symm
  | append_singleton steps s ih =>
    rw [script_snoc, FailureScript.scripted_after, ih, List.append_assoc, MemoryStep.filterMap_snoc]

/-- A script depends on no step that has nothing to do with its kind. -/
theorem script_filter (kind : PlaneCall) :
    p.script kind (steps.filter (·.concerns kind)) = p.script kind steps := by
  rw [script, List.foldl_filter]
  refine List.foldl_ext _ _ _ fun script s _ => ?_
  split
  · rfl
  · next h => exact (FailureScript.after_of_not_concerns (Bool.eq_false_iff.mpr h) script).symm

theorem next?_script (kind : PlaneCall) :
    (p.script kind steps).next? = ((p.run steps).failures kind).head? := by
  rw [FailureScript.next?_eq, failures_run]

/-! ### What is left when nothing fails -/

variable {p} {b : MemoryPlane} {s : MemoryStep} {before : List MemoryStep}

theorem idle_call {request : PlaneRequest} :
    p.idle before (.call request) = !((p.run before).failures request.kind).isEmpty := by
  rw [idle, next?_script]
  cases (p.run before).failures request.kind <;> rfl

/-- Neither a script nor a call that meets a failure shows anywhere but in the records. -/
theorem bare_step_of_idle (h : p.idle before s) : ((p.run before).step s).1.bare = (p.run before).bare := by
  cases s with
  | call request =>
    rw [idle_call] at h
    cases hf : (p.run before).failures request.kind with
    | nil => simp [hf] at h
    | cons e rest =>
      exact congrArg (fun w => w.2.bare) ((recorded_perform request).met hf)
  | prepare setup =>
    cases setup with
    | failNext => rfl
    | setFate => cases h
    | respond => cases h
  | calls => cases h
  | state => cases h

/-- Every other step does what it does on a plane that differs in its records and has no scripts. -/
theorem bare_step_of_not_idle (h : p.idle before s = false) (hb : (p.run before).bare = b.bare)
    (hn : ∀ kind, b.failures kind = []) :
    ((p.run before).step s).1.bare = (b.step s).1.bare ∧ ∀ kind, (b.step s).1.failures kind = [] := by
  cases s with
  | call request =>
    have hf : (p.run before).failures request.kind = [] := by simpa [idle_call] using h
    have hp := (recorded_perform request).served hf
    have hb' := (recorded_perform request).served (hn request.kind)
    refine ⟨?_, fun kind => ?_⟩
    · simp only [step, hp, hb', hb, bare_withRecords]
    · simp only [step, hb']
      exact hn kind
  | prepare setup =>
    cases setup with
    | failNext => cases h
    | setFate result fate => exact ⟨congrArg (fun q : MemoryPlane => q.setFate result fate) hb, hn⟩
    | respond methods otherwise =>
      exact ⟨congrArg (fun q : MemoryPlane => q.prepare (.respond methods otherwise)) hb, hn⟩
  | calls => exact ⟨hb, hn⟩
  | state => exact ⟨hb, hn⟩

/-- But for its records a plane is after a run what it is after the steps that have an effect. -/
theorem bare_run_effective (hb : (p.run before).bare = b.bare) (hn : ∀ kind, b.failures kind = []) :
    (p.run (before ++ steps)).bare = (b.run (p.effective before steps)).bare ∧
      ∀ kind, (b.run (p.effective before steps)).failures kind = [] := by
  -- each step joins those before it, for whether the next one meets a failure depends on them all
  induction steps generalizing before b with
  | nil => exact ⟨by rw [List.append_nil]; exact hb, hn⟩
  | cons s r ih =>
    rw [List.append_cons, effective]
    split
    · next h =>
      refine ih ?_ hn
      rw [run_snoc, bare_step_of_idle h, hb]
    · next h =>
      obtain ⟨hb', hn'⟩ := bare_step_of_not_idle (Bool.eq_false_iff.mpr h) hb hn
      refine ih (b := (b.step s).1) ?_ hn'
      rw [run_snoc, hb']

/-- The first of two downloads meets the failure; one that is scripted for another kind is none of its
concern. -/
example (e e' : ClientError) : ({} : MemoryPlane).effective []
    [.prepare (.failNext .submitTasks e'), .prepare (.failNext .downloadResult e),
      .call (.downloadResult "s" "r1"), .call (.downloadResult "s" "r2")] =
    [.call (.downloadResult "s" "r2")] := rfl

/-- In every run, and for whatever is called next: the script of a kind holds all failures that were
scripted for the kind, in order, and no step of another kind has a part in what is left of it; every call is
logged; and but for the records the plane is what it is without the scripts and the calls that met a
failure. The next call meets the oldest failure that is left for its kind and consumes it; if none is left,
it is answered as without any scripts. -/
theorem failures_in_order (p : MemoryPlane) (steps : List MemoryStep) :
    (∀ kind, (p.script kind steps).scripted =
      p.failures kind ++ steps.filterMap (·.failure? kind)) ∧
    (∀ kind, (p.run steps).failures kind = (p.run (steps.filter (·.concerns kind))).failures kind) ∧
    (p.run steps).calls = p.calls ++ steps.filterMap MemoryStep.logged? ∧
    (p.run steps).bare = (p.bare.run (p.effective [] steps)).bare ∧
    ∀ request : PlaneRequest, plane.perform request (p.run steps) =
      match (p.script request.kind steps).next? with
      | some e => (.error e, (p.run steps).withRecords
          (((p.run steps).records.noting request).consuming request.kind))
      | none => ((plane.perform request (p.bare.run (p.effective [] steps))).1,
          (plane.perform request (p.run steps).bare).2.withRecords
            ((p.run steps).records.noting request)) := by
  have hstart : (p.run []).bare = p.bare.bare := rfl
  obtain ⟨hbare, hnone⟩ := bare_run_effective steps hstart fun _ => rfl
  refine ⟨scripted_script p steps, fun kind => ?_, calls_run p steps, hbare, fun request => ?_⟩
  · rw [failures_run, failures_run, script_filter]
  · rw [next?_script]
    cases hf : (p.run steps).failures request.kind with
    | cons e rest => exact (recorded_perform request).met hf
    | nil =>
      rw [List.nil_append] at hbare
      have hserved := (recorded_perform request).served (hnone request.kind)
      rw [← hbare] at hserved
      rw [(recorded_perform request).served hf, hserved]
      rfl

end MemoryPlane
end TaskGrid
