import TaskGrid.Proofs.Fleet.Turn

/-! Custody of tasks over whole runs. A step of a fleet keeps what is sound, and so does a run of any
length. -/
namespace TaskGrid

namespace Ledger
variable {α : Type}

@[simp] theorem share_append (i : Nat) (l l' : List (Nat × α)) :
    share i (l ++ l') = share i l ++ share i l' := by simp [share]

@[simp] theorem share_map_self (i : Nat) (l : List α) : share i (l.map fun x => (i, x)) = l := by
  simp [share, List.filter_map, Function.comp_def]

theorem share_map_of_ne {i j : Nat} (h : i ≠ j) (l : List α) :
    share j (l.map fun x => (i, x)) = [] := by
  simp [share, List.filter_map, Function.comp_def, h]

theorem mem_share {i : Nat} {l : List (Nat × α)} {x : α} : x ∈ share i l ↔ (i, x) ∈ l := by
  simp only [share, List.mem_map, List.mem_filter]
  constructor
  · rintro ⟨⟨j, y⟩, ⟨hm, hj⟩, rfl⟩
    have : j = i := by simpa using hj
    exact this ▸ hm
  · intro hm
    exact ⟨(i, x), ⟨hm, by simp⟩, rfl⟩

/-- What has left the custody of a session. -/
def gone (l : Ledger) (i : Nat) : List Tracked :=
  (share i l.delivered).map Delivery.tracked ++ share i l.discarded ++ share i l.forgotten

end Ledger

namespace Fleet
open MemoryPlane

/-- Every task that was taken is tracked by its session or has left it, and the plane is sound. -/
structure Sound (f : Fleet) : Prop where
  plane : f.plane.Sound
  anchored : ∀ {i : Nat} {s : Session}, f.sessions[i]? = some s → s.Anchored f.plane
  numbered : f.plane.submitted.map SubmittedRecord.task =
    (List.range' 1 f.plane.submitted.length).map taskId
  accounted : f.ledger.accepted.map (fun e => e.2.task) =
    f.plane.submitted.map SubmittedRecord.task
  conserved : ∀ i, (Ledger.share i f.ledger.accepted).Perm (f.tracked i ++ f.ledger.gone i)
  fates : ∀ {id}, (f.plane.result id).owner = none → (f.plane.result id).fate = f.ledger.fates id

theorem sound_start (pollDelay : Nat) : (start pollDelay).Sound where
  plane := MemoryPlane.sound_start pollDelay
  anchored h := by cases h
  numbered := rfl
  accounted := rfl
  conserved _ := .refl _
  fates _ := rfl

variable {f : Fleet}

theorem tracked_of_getElem? {i : Nat} {s : Session} (h : f.sessions[i]? = some s) :
    f.tracked i = s.tracker.byResult.values := by
  simp [tracked, h]

theorem tracked_congr {f' : Fleet} {i : Nat} (h : f'.sessions[i]? = f.sessions[i]?) :
    f'.tracked i = f.tracked i := by
  simp only [tracked, h]

/-- A plane may be used in any way that takes no tasks and sets no fates but those that are noted. -/
theorem Sound.of_grows (h : f.Sound) {p : MemoryPlane} {fates : String → Option Fate}
    (grows : Grows f.plane p) (submitted : p.submitted = f.plane.submitted)
    (hf : ∀ {id}, (f.plane.result id).owner = none → (p.result id).fate = fates id) :
    Sound { f with plane := p, ledger := { f.ledger with fates } } where
  plane := h.plane.grows grows
  anchored hs := (h.anchored hs).grows grows
  numbered := by simpa only [submitted] using h.numbered
  accounted := by simpa only [submitted] using h.accounted
  conserved := h.conserved
  fates {id} ho := by
    cases hn : (f.plane.result id).owner with
    | none => exact hf hn
    | some task => rw [grows.owner hn] at ho; cases ho

theorem Sound.of_undisturbed (h : f.Sound) {p : MemoryPlane} (hu : Undisturbed f.plane p) :
    Sound { f with plane := p } :=
  h.of_grows hu.grows hu.submitted fun {id} hn => (hu.fate id).trans (h.fates hn)

theorem getElem?_addSession {i : Nat} {s s' : Session} (h : (f.sessions ++ [s])[i]? = some s') :
    f.sessions[i]? = some s' ∨ f.sessions[i]? = none ∧ s' = s := by
  rcases Nat.lt_or_ge i f.sessions.length with hlt | hge
  · rw [List.getElem?_append_left hlt] at h
    exact .inl h
  · rw [List.getElem?_append_right hge] at h
    have hm := List.mem_of_getElem? h
    exact .inr ⟨List.getElem?_eq_none hge, List.mem_singleton.mp hm⟩

/-- A new session tracks nothing. -/
theorem Sound.addSession (h : f.Sound) {s : Session} (hs : s.tracker = {}) :
    Sound { f with sessions := f.sessions ++ [s] } where
  plane := h.plane
  anchored {i s'} hi := by
    rcases getElem?_addSession hi with hi | ⟨-, rfl⟩
    · exact h.anchored hi
    · exact Session.anchored_of_empty hs _
  numbered := h.numbered
  accounted := h.accounted
  conserved i := by
    have ht : tracked { f with sessions := f.sessions ++ [s] } i = f.tracked i := by
      cases hi : (f.sessions ++ [s])[i]? with
      | none =>
        have hn : f.sessions[i]? = none := by
          rw [List.getElem?_eq_none_iff] at hi ⊢
          rw [List.length_append] at hi
          omega
        simp [tracked, hi, hn]
      | some s' =>
        rcases getElem?_addSession hi with ho | ⟨hn, rfl⟩
        · simp [tracked, hi, ho]
        · simp only [tracked, hi, hn, Option.elim, hs]
          rfl
    rw [ht]
    exact h.conserved i
  fates := h.fates

theorem Sound.call (h : f.Sound) (i : Nat) (request : SessionRequest) (limit : Nat)
    (visits : Nat → Visit) : (f.call i request limit visits).Sound := by
  unfold Fleet.call
  split
  · exact h
  · next s hi =>
    obtain ⟨records, ht⟩ := exists_turn h.plane (h.anchored hi) request limit visits
    generalize s.perform MemoryPlane.plane limit visits f.plane request = r at ht
    have hlt : i < f.sessions.length := (List.getElem?_eq_some_iff.mp hi).1
    have hrec : r.plane.submitted.drop f.plane.submitted.length = records := by
      rw [ht.submitted, List.drop_left]
    have hset (j : Nat) (hj : i ≠ j) : (f.sessions.set i r.session)[j]? = f.sessions[j]? :=
      List.getElem?_set_ne hj
    constructor
    case plane => exact h.plane.grows ht.grows
    case anchored =>
      intro j s' hj
      by_cases e : i = j
      · subst e
        rw [List.getElem?_set_self hlt] at hj
        cases hj
        exact ht.anchored
      · rw [hset j e] at hj
        exact (h.anchored hj).grows ht.grows
    case numbered =>
      rw [ht.submitted, List.map_append, h.numbered, ht.numbered, List.length_append,
        Nat.add_comm f.plane.submitted.length 1, ← List.map_append, List.range'_append_1]
    case accounted =>
      simp only [Ledger.note, List.map_append, h.accounted, ht.submitted, ← ht.accounted]
      simp [Function.comp_def]
    case conserved =>
      intro j
      have hj := h.conserved j
      by_cases e : i = j
      · subst e
        have hc := ht.conserved
        rw [tracked_of_getElem? hi] at hj
        have hnew : tracked
            { plane := r.plane
              sessions := f.sessions.set i r.session
              ledger := f.ledger.note i request s f.plane r } i = r.session.tracker.byResult.values :=
          tracked_of_getElem? (List.getElem?_set_self hlt)
        rw [hnew, List.perm_iff_count] at *
        intro x
        have hjx := hj x
        have hcx := hc x
        simp only [Ledger.note, Ledger.gone, Ledger.share_append, Ledger.share_map_self, hrec,
          List.map_append, List.count_append] at hjx hcx ⊢
        omega
      · rw [tracked_congr (f := f) (hset j e)]
        simpa [Ledger.note, Ledger.gone, Ledger.share_map_of_ne e] using hj
    case fates =>
      intro id ho
      obtain ⟨ids, hd⟩ := ht.deletes
      have hn : (f.plane.result id).owner = none := by
        cases hn : (f.plane.result id).owner with
        | none => rfl
        | some task => rw [ht.grows.owner hn] at ho; cases ho
      rw [hd.fates (ho.trans hn.symm), h.fates hn]
      simp only [Ledger.note, hd.log, List.drop_left]

theorem tracker_of_attach {properties : Properties} {id : String} {s : Session}
    (h : Session.attach properties id = .ok s) : s.tracker = {} := by
  simp only [Session.attach] at h
  cases hs : properties.settings.count Settings.submitBatchSizeKey Settings.defaultBatchSize with
  | error flaw => rw [hs] at h; cases h
  | ok submit =>
    cases hw : properties.settings.count Settings.waitBatchSizeKey Settings.defaultBatchSize with
    | error flaw => rw [hs, hw] at h; cases h
    | ok wait =>
      rw [hs, hw] at h
      simp only [bind, Except.bind] at h
      split at h <;> cases h
      rfl

/-- Making a session calls the plane, and adds a session if both steps succeed. -/
theorem create_cases (f : Fleet) (properties : Properties) :
    ∃ p, Undisturbed f.plane p ∧ (f.step (.create properties) = { f with plane := p } ∨
      ∃ s : Session, s.tracker = {} ∧ f.step (.create properties) =
        { f with plane := p, sessions := f.sessions ++ [s] }) := by
  have hu := undisturbed_createSession properties.options properties.partition?.toList f.plane
  simp only [Fleet.step, Session.create, MemoryPlane.plane]
  generalize createSession properties.options properties.partition?.toList f.plane = reply at hu
  obtain ⟨e | id, p⟩ := reply
  · exact ⟨p, hu, .inl rfl⟩
  · refine ⟨p, hu, ?_⟩
    simp only
    cases ha : Session.attach properties id with
    | error flaw => exact .inl rfl
    | ok s => exact .inr ⟨s, tracker_of_attach ha, rfl⟩

theorem Sound.step (h : f.Sound) (step : FleetStep) : (f.step step).Sound := by
  cases step with
  | create properties =>
    obtain ⟨p, hu, he | ⟨s, hs, he⟩⟩ := create_cases f properties
    · exact he ▸ h.of_undisturbed hu
    · exact he ▸ (h.of_undisturbed hu).addSession hs
  | attach id properties =>
    simp only [Fleet.step]
    split
    · next s hs => exact h.addSession (tracker_of_attach hs)
    · exact h
  | call i request limit visits => exact h.call i request limit visits
  | setFate result fate =>
    refine h.of_grows (grows_setFate _ _ _) rfl fun {id} hn => ?_
    rw [result_setFate]
    split
    · rfl
    · exact h.fates hn
  | setResponder responder =>
    exact h.of_grows (.of_owner_eq rfl rfl rfl (fun _ => rfl) fun _ => rfl) rfl h.fates
  | failNext call e => exact h.of_grows (grows_failNext _ _ _) rfl h.fates

theorem Sound.run (h : f.Sound) (steps : List FleetStep) : (f.run steps).Sound := by
  induction steps generalizing f with
  | nil => exact h
  | cons step r ih => exact ih (h.step step)

theorem Reachable.sound (h : f.Reachable) : f.Sound := by
  obtain ⟨pollDelay, steps, rfl⟩ := h
  exact (sound_start pollDelay).run steps

end Fleet
end TaskGrid
