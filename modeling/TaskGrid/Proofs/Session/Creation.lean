import TaskGrid.Proofs.Plane.Memory
import TaskGrid.Proofs.Settings.Counts
import TaskGrid.Session.Basic

/-! Making a session. The control plane is asked before the batch sizes are looked at, so a session that fails for
their sake is there all the same; `failed_create_leaves_none_iff` says when a failure leaves none. -/
namespace TaskGrid

structure Settings.BatchSizes (s : Settings) (submit wait : Nat) : Prop where
  submits : s.Counts submitBatchSizeKey defaultBatchSize submit
  waits : s.Counts waitBatchSizeKey defaultBatchSize wait
  submit_pos : 0 < submit
  wait_pos : 0 < wait

/-- There are batch sizes in the settings that a session can have. -/
def Settings.HasBatchSizes (s : Settings) : Prop := ∃ submit wait, s.BatchSizes submit wait

theorem Settings.BatchSizes.unique {s : Settings} {submit wait submit' wait' : Nat}
    (h : s.BatchSizes submit wait) (h' : s.BatchSizes submit' wait') : submit = submit' ∧ wait = wait' :=
  ⟨h.submits.unique h'.submits, h.waits.unique h'.waits⟩

namespace Session

variable {σ : Type}

/-- Attaching fails exactly for want of batch sizes. -/
theorem attach_spec (p : Properties) (id : String) :
    (∃ s, attach p id = .ok s ∧ s.id = id ∧
      p.settings.BatchSizes s.submitBatchSize s.waitBatchSize) ∨
    (∃ flaw details, attach p id = .error flaw ∧ flaw.toGrid.toClient = .invalidSettings details) ∧
      ¬ p.settings.HasBatchSizes := by
  unfold attach
  rcases p.settings.count_spec Settings.submitBatchSizeKey Settings.defaultBatchSize with
    ⟨submit, hsubmit, hsubmits⟩ | ⟨⟨flaw, details, hsubmit, hdetails⟩, hnone⟩
  · rcases p.settings.count_spec Settings.waitBatchSizeKey Settings.defaultBatchSize with
      ⟨wait, hwait, hwaits⟩ | ⟨⟨flaw, details, hwait, hdetails⟩, hnone⟩
    · rw [hsubmit, hwait]
      simp only [bind, Except.bind]
      by_cases hpos : 0 < submit ∧ 0 < wait
      · left
        rw [dif_pos hpos]
        exact ⟨_, rfl, rfl, hsubmits, hwaits, hpos.1, hpos.2⟩
      · right
        rw [dif_neg hpos]
        refine ⟨⟨_, _, rfl, rfl⟩, ?_⟩
        rintro ⟨submit', wait', h⟩
        rw [hsubmits.unique h.submits, hwaits.unique h.waits] at hpos
        exact hpos ⟨h.submit_pos, h.wait_pos⟩
    · right
      rw [hsubmit, hwait]
      refine ⟨⟨flaw, details, rfl, by rw [hdetails]; rfl⟩, ?_⟩
      rintro ⟨submit, wait, h⟩
      exact hnone wait h.waits
  · right
    rw [hsubmit]
    refine ⟨⟨flaw, details, rfl, by rw [hdetails]; rfl⟩, ?_⟩
    rintro ⟨submit, wait, h⟩
    exact hnone submit h.submits

section
variable {plane : ControlPlane σ} {p : Properties} {w w' : σ}

theorem create_of_error {e : ClientError}
    (h : plane.createSession p.options p.partition?.toList w = (.error e, w')) :
    create plane p w = (.error e, w') := by
  unfold create
  rw [h]

theorem create_of_sizes {id : String} {submit wait : Nat}
    (h : plane.createSession p.options p.partition?.toList w = (.ok id, w'))
    (hsizes : p.settings.BatchSizes submit wait) :
    ∃ s, create plane p w = (.ok s, w') ∧ s.id = id ∧ s.submitBatchSize = submit ∧
      s.waitBatchSize = wait := by
  unfold create
  rw [h]
  rcases attach_spec p id with ⟨s, hs, hid, hsizes'⟩ | ⟨-, hnone⟩
  · obtain ⟨hsubmit, hwait⟩ := hsizes'.unique hsizes
    refine ⟨s, ?_, hid, hsubmit, hwait⟩
    simp only [hs]
    rfl
  · exact absurd ⟨submit, wait, hsizes⟩ hnone

theorem create_of_no_sizes {id : String}
    (h : plane.createSession p.options p.partition?.toList w = (.ok id, w'))
    (hnone : ¬ p.settings.HasBatchSizes) :
    ∃ details, create plane p w = (.error (.invalidSettings details), w') := by
  unfold create
  rw [h]
  rcases attach_spec p id with ⟨s, -, -, hsizes⟩ | ⟨⟨flaw, details, hflaw, hdetails⟩, -⟩
  · exact absurd ⟨_, _, hsizes⟩ hnone
  · refine ⟨details, ?_⟩
    simp only [hflaw, ← hdetails]
    rfl

theorem create_world : (create plane p w).2 =
    (plane.createSession p.options p.partition?.toList w).2 := by
  rcases h : plane.createSession p.options p.partition?.toList w with ⟨e | id, w'⟩
  · rw [create_of_error h]
  · unfold create
    rw [h]

end

section
variable {m : MemoryPlane} (options : TaskOptions) (partitions : List String)

theorem createSession_of_nil (h : m.failures .createSession = []) :
    ∃ id m', MemoryPlane.plane.createSession options partitions m = (.ok id, m') ∧
      m'.sessionPartitions = m.sessionPartitions ++ [partitions] := by
  change ∃ id m', MemoryPlane.createSession options partitions m = (.ok id, m') ∧ _
  unfold MemoryPlane.createSession
  rw [MemoryPlane.recorded_of_nil _ _ h]
  exact ⟨_, _, rfl, rfl⟩

theorem createSession_of_cons {e : ClientError} {rest : List ClientError}
    (h : m.failures .createSession = e :: rest) :
    ∃ m', MemoryPlane.plane.createSession options partitions m = (.error e, m') ∧
      m'.sessionPartitions = m.sessionPartitions := by
  change ∃ m', MemoryPlane.createSession options partitions m = (.error e, m') ∧ _
  unfold MemoryPlane.createSession
  rw [MemoryPlane.recorded_of_cons _ _ h]
  exact ⟨_, rfl, rfl⟩

end

/-- A failure leaves the sessions in memory as they were exactly if there are batch sizes or a failure was
scripted. -/
theorem failure_in_memory_iff (p : Properties) (m : MemoryPlane) :
    (∀ e, (create MemoryPlane.plane p m).1 = .error e →
      (create MemoryPlane.plane p m).2.sessionPartitions = m.sessionPartitions) ↔
    p.settings.HasBatchSizes ∨ m.failures .createSession ≠ [] := by
  cases hfailures : m.failures .createSession with
  | cons e rest =>
    obtain ⟨m', hmade, hkept⟩ := createSession_of_cons p.options p.partition?.toList hfailures
    rw [create_of_error hmade]
    exact ⟨fun _ => .inr (List.cons_ne_nil _ _), fun _ _ _ => hkept⟩
  | nil =>
    obtain ⟨id, m', hmade, hadded⟩ := createSession_of_nil p.options p.partition?.toList hfailures
    by_cases hsizes : p.settings.HasBatchSizes
    · obtain ⟨submit, wait, h⟩ := hsizes
      obtain ⟨s, hs, -⟩ := create_of_sizes hmade h
      rw [hs]
      constructor
      · exact fun _ => .inl ⟨submit, wait, h⟩
      · rintro - e ⟨⟩
    · obtain ⟨details, hdetails⟩ := create_of_no_sizes hmade hsizes
      rw [hdetails]
      constructor
      · intro h
        have hsame := h _ rfl
        rw [hadded] at hsame
        exact absurd hsame (by simp)
      · rintro (h | h)
        · exact absurd h hsizes
        · exact absurd rfl h

/-- When a session that cannot be made is not there either. The only thing that is asked of the control plane is to
make it. If the control plane refuses, its error is the answer; if it does not, the session is made if the settings
have batch sizes for it, and otherwise fails for the sake of the settings, too late. So a failure leaves nothing
behind exactly if there are batch sizes or the control plane refuses. -/
theorem failed_create_leaves_none_iff (p : Properties) (plane : ControlPlane σ) (w : σ)
    (m : MemoryPlane) :
    let made := plane.createSession p.options p.partition?.toList w
    let r := create plane p w
    let inMemory := create MemoryPlane.plane p m
    r.2 = made.2 ∧
    (∀ e, made.1 = .error e → r.1 = .error e) ∧
    (∀ id, made.1 = .ok id → ∀ submit wait, p.settings.BatchSizes submit wait →
      ∃ s, r.1 = .ok s ∧ s.id = id ∧ s.submitBatchSize = submit ∧ s.waitBatchSize = wait) ∧
    (∀ id, made.1 = .ok id → ¬ p.settings.HasBatchSizes →
      ∃ details, r.1 = .error (.invalidSettings details)) ∧
    ((∀ e, r.1 = .error e → ∀ id, made.1 ≠ .ok id) ↔
      p.settings.HasBatchSizes ∨ ∃ e, made.1 = .error e) ∧
    ((∀ e, inMemory.1 = .error e → inMemory.2.sessionPartitions = m.sessionPartitions) ↔
      p.settings.HasBatchSizes ∨ m.failures .createSession ≠ []) := by
  intro made r inMemory
  have hworld : r.2 = made.2 := create_world
  have herror : ∀ e, made.1 = .error e → r.1 = .error e := fun e he =>
    congrArg Prod.fst (create_of_error (Prod.ext he rfl))
  have hsizes : ∀ id, made.1 = .ok id → ∀ submit wait, p.settings.BatchSizes submit wait →
      ∃ s, r.1 = .ok s ∧ s.id = id ∧ s.submitBatchSize = submit ∧ s.waitBatchSize = wait := by
    intro id hid submit wait h
    obtain ⟨s, hs, hfields⟩ := create_of_sizes (Prod.ext hid rfl) h
    exact ⟨s, congrArg Prod.fst hs, hfields⟩
  have hnone : ∀ id, made.1 = .ok id → ¬ p.settings.HasBatchSizes →
      ∃ details, r.1 = .error (.invalidSettings details) := by
    intro id hid h
    obtain ⟨details, hdetails⟩ := create_of_no_sizes (Prod.ext hid rfl) h
    exact ⟨details, congrArg Prod.fst hdetails⟩
  refine ⟨hworld, herror, hsizes, hnone, ?_, failure_in_memory_iff p m⟩
  constructor
  · intro h
    by_contra hnot
    obtain ⟨hno, hmade⟩ := not_or.mp hnot
    cases hid : made.1 with
    | error e => exact hmade ⟨e, hid⟩
    | ok id =>
      obtain ⟨details, hdetails⟩ := hnone id hid hno
      exact h _ hdetails id hid
  · rintro (⟨submit, wait, h⟩ | ⟨e, he⟩) e' he' id hid
    · obtain ⟨s, hs, -⟩ := hsizes id hid submit wait h
      cases hs.symm.trans he'
    · cases he.symm.trans hid

/-- A batch size of zero: the answer is an error, and the session is there. -/
theorem session_left_by_empty_batch :
    let p : Properties := { settings := .ofList [("GrpcClient__SubmitBatchSize", "0")] }
    let r := create MemoryPlane.plane p {}
    r.1 = .error (.invalidSettings "batch sizes must be positive") ∧
      r.2.sessionPartitions ≠ MemoryPlane.sessionPartitions {} := by
  intro p r
  have hanswer : r.1 = .error (.invalidSettings "batch sizes must be positive") := by rfl
  exact ⟨hanswer, by decide +kernel⟩

end Session
end TaskGrid
