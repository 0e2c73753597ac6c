import TaskGrid.Proofs.Fleet.Conservation
import TaskGrid.Proofs.Plane.Enrolment

/-! Sessions keep results apart: whatever they ask of a control plane in memory, it knows the tasks that it took, each
by a result of its own. -/
namespace TaskGrid
namespace Fleet
open MemoryPlane

variable {f : Fleet} {i : Nat} {s : Session}

theorem enrolled_submit (h : f.Sound) (he : f.plane.Enrolled) (hs : f.sessions[i]? = some s)
    (requests : List Payload) (handler : Handler) (options : Option TaskOptions) (limit : Nat)
    (visits : Nat → Visit) : (f.call i (.submit requests handler options) limit visits).plane.Enrolled := by
  obtain ⟨taken, hsub⟩ := Session.submit_submits handler s requests options f.plane
  have ht := hsub.takes
  have hsound := h.call i (.submit requests handler options) limit visits
  have hdistinct := hsound.nodup_accepted
  rw [hsound.accounted] at hdistinct
  have henrols := frames_enrols.submit s requests handler options f.plane
  simp only [Fleet.call, hs, Session.perform] at hdistinct ⊢
  refine he.extend (ht.grows h.plane) henrols ht.submitted hdistinct ?_ ?_
  · intro r hr
    obtain ⟨t, htaken, rfl⟩ := List.mem_map.mp hr
    exact ⟨t.result, rfl, ht.owner_eq htaken⟩
  · intro id task ho
    by_cases hid : id ∈ taken.map Taken.result
    · obtain ⟨t, htaken, rfl⟩ := List.mem_map.mp hid
      rw [ht.owner_eq htaken] at ho
      exact .inr ⟨_, List.mem_map_of_mem htaken, Option.some.inj ho, rfl⟩
    · rw [ht.others id hid] at ho
      exact .inl ho

theorem enrolled_call (h : f.Sound) (he : f.plane.Enrolled) (i : Nat) (request : SessionRequest) (limit : Nat)
    (visits : Nat → Visit) : (f.call i request limit visits).plane.Enrolled := by
  cases hs : f.sessions[i]? with
  | none =>
    simp only [Fleet.call, hs]
    exact he
  | some s =>
    by_cases hsubmit : ∃ requests handler options, request = .submit requests handler options
    · obtain ⟨requests, handler, options, rfl⟩ := hsubmit
      exact enrolled_submit h he hs requests handler options limit visits
    · obtain ⟨records, ht⟩ := exists_turn h.plane (h.anchored hs) request limit visits
      have henrols := frames_enrols.perform limit visits s f.plane request
      -- only a submission brings tasks
      have hnone : records = [] := by
        have hl := congrArg List.length ht.accounted
        cases request with
        | submit requests handler options => exact absurd ⟨requests, handler, options, rfl⟩ hsubmit
        | _ => simpa [SessionRequest.accepted, eq_comm] using hl
      have hsubmitted := ht.submitted
      rw [hnone, List.append_nil] at hsubmitted
      simp only [Fleet.call, hs]
      exact he.of_grows ht.grows henrols hsubmitted

theorem enrolled_step (h : f.Sound) (he : f.plane.Enrolled) (step : FleetStep) :
    (f.step step).plane.Enrolled := by
  cases step with
  | create properties =>
    obtain ⟨p, hu, hf | ⟨s, -, hf⟩⟩ := create_cases f properties
    all_goals
      rw [hf]
      exact he.of_grows hu.grows hu.enrols hu.submitted
  | attach id properties =>
    simp only [Fleet.step]
    split <;> exact he
  | call i request limit visits => exact enrolled_call h he i request limit visits
  | setFate result fate => exact he.of_grows (grows_setFate _ _ _) (enrols_of_eq rfl rfl) rfl
  | setResponder responder =>
    exact he.of_grows (.of_owner_eq rfl rfl rfl (fun _ => rfl) fun _ => rfl) (enrols_of_eq rfl rfl) rfl
  | failNext call e => exact he.of_grows (grows_failNext _ _ _) (enrols_of_eq rfl rfl) rfl

theorem enrolled_run (h : f.Sound) (he : f.plane.Enrolled) (steps : List FleetStep) :
    (f.run steps).plane.Enrolled := by
  induction steps generalizing f with
  | nil => exact he
  | cons step r ih => exact ih (h.step step) (enrolled_step h he step)

theorem Reachable.enrolled (h : f.Reachable) : f.plane.Enrolled := by
  obtain ⟨pollDelay, steps, rfl⟩ := h
  exact enrolled_run (sound_start pollDelay) (enrolled_start pollDelay) steps

end Fleet
end TaskGrid
