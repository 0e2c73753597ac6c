import TaskGrid.Proofs.Plane.Memory

/-! What no call takes back: a result keeps the task that is to produce it, and its fate changes by a
deletion alone. Ids count up, so that a result or a task of a new id is one that nobody had before. -/
namespace TaskGrid
namespace MemoryPlane

/-- Whatever is to be produced was made by counting, and the results of a task are those it produces. -/
structure Sound (p : MemoryPlane) : Prop where
  counted : ∀ {id task}, (p.result id).owner = some task →
    (∃ k ≤ p.resultCount, id = resultId k) ∧ ∃ n ≤ p.submitted.length, task = taskId n
  produced : ∀ {task outputs}, p.tasks.get? task = some outputs →
    ∀ id ∈ outputs, (p.result id).owner.isSome

/-- What stays of a plane while it is used: only results made meanwhile get a task. -/
structure Grows (p p' : MemoryPlane) : Prop where
  count : p.resultCount ≤ p'.resultCount
  submitted : p.submitted <+: p'.submitted
  owner : ∀ {id task}, (p.result id).owner = some task → (p'.result id).owner = some task
  payload : ∀ {id}, (p.result id).owner.isSome → (p'.result id).payload = (p.result id).payload
  fresh : ∀ {id task}, (p'.result id).owner = some task → (p.result id).owner = some task ∨
    (∃ k ≤ p'.resultCount, id = resultId k) ∧
      ∃ n, p.submitted.length < n ∧ n ≤ p'.submitted.length ∧ task = taskId n
  tasks : ∀ {task outputs}, p'.tasks.get? task = some outputs →
    p.tasks.get? task = some outputs ∨ ∀ id ∈ outputs, (p'.result id).owner.isSome

/-- What is deleted between two states, and that no other fate of a result changes that has the task it
had. -/
structure Deletes (ids : List String) (p p' : MemoryPlane) : Prop where
  log : p'.deleted = p.deleted ++ ids
  fates : ∀ {id}, (p'.result id).owner = (p.result id).owner →
    (p'.result id).fate = if id ∈ ids then some .deleted else (p.result id).fate

variable {p p' p'' : MemoryPlane}

theorem sound_start (pollDelay : Nat) : Sound { pollDelay } := by
  constructor <;> intro _ _ h <;> cases h

theorem Grows.isSome (h : Grows p p') {id : String} (ho : (p.result id).owner.isSome) :
    (p'.result id).owner.isSome := by
  obtain ⟨task, ht⟩ := Option.isSome_iff_exists.mp ho
  exact Option.isSome_iff_exists.mpr ⟨task, h.owner ht⟩

theorem Grows.of_owner_eq (count : p'.resultCount = p.resultCount)
    (submitted : p'.submitted = p.submitted) (tasks : p'.tasks = p.tasks)
    (owner : ∀ id, (p'.result id).owner = (p.result id).owner)
    (payload : ∀ id, (p'.result id).payload = (p.result id).payload) : Grows p p' where
  count := Nat.le_of_eq count.symm
  submitted := submitted ▸ List.prefix_refl _
  owner h := (owner _).trans h
  payload _ := payload _
  fresh h := .inl ((owner _).symm.trans h)
  tasks h := .inl (tasks ▸ h)

theorem Grows.refl (p : MemoryPlane) : Grows p p :=
  .of_owner_eq rfl rfl rfl (fun _ => rfl) fun _ => rfl

theorem Grows.trans (h : Grows p p') (h' : Grows p' p'') : Grows p p'' where
  count := Nat.le_trans h.count h'.count
  submitted := h.submitted.trans h'.submitted
  owner ho := h'.owner (h.owner ho)
  payload ho := (h'.payload (h.isSome ho)).trans (h.payload ho)
  fresh ho := by
    have hlen := h.submitted.length_le
    have hlen' := h'.submitted.length_le
    rcases h'.fresh ho with ho | ⟨hk, n, hn, hn', ht⟩
    · refine (h.fresh ho).imp_right fun ⟨⟨k, hk, hid⟩, n, hn, hn', ht⟩ => ⟨⟨k, ?_, hid⟩, n, hn, ?_, ht⟩
      · exact Nat.le_trans hk h'.count
      · omega
    · exact .inr ⟨hk, n, by omega, hn', ht⟩
  tasks ho := by
    rcases h'.tasks ho with ho | hn
    · exact (h.tasks ho).imp_right fun hs id hid => h'.isSome (hs id hid)
    · exact .inr hn

/-- What is sound stays so. -/
theorem Sound.grows (hp : p.Sound) (h : Grows p p') : p'.Sound where
  counted ho := by
    rcases h.fresh ho with ho | ⟨hk, n, -, hn, ht⟩
    · obtain ⟨⟨k, hk, hid⟩, n, hn, ht⟩ := hp.counted ho
      exact ⟨⟨k, Nat.le_trans hk h.count, hid⟩, n, Nat.le_trans hn h.submitted.length_le, ht⟩
    · exact ⟨hk, n, hn, ht⟩
  produced ho := by
    rcases h.tasks ho with ho | hn
    · exact fun id hid => h.isSome (hp.produced ho id hid)
    · exact hn

theorem Undisturbed.grows (h : Undisturbed p p') : Grows p p' :=
  .of_owner_eq h.resultCount h.submitted h.tasks
    (fun id => h.owner id) fun id => h.payload id

theorem Undisturbed.deletes (h : Undisturbed p p') : Deletes [] p p' where
  log := by rw [h.deleted, List.append_nil]
  fates _ := by simpa using h.fate _

/-! ### Steps of a scenario -/

theorem result_setFate (p : MemoryPlane) (id id' : String) (fate : Fate) :
    (p.setFate id fate).result id' =
      if id' = id then { p.result id' with fate := some fate } else p.result id' := by
  simp only [setFate, result, Table.get?_insert, eq_comm (a := id)]
  split
  · next e => rw [e]; rfl
  · rfl

theorem grows_setFate (p : MemoryPlane) (id : String) (fate : Fate) : Grows p (p.setFate id fate) := by
  refine .of_owner_eq rfl rfl rfl (fun id' => ?_) fun id' => ?_ <;>
  · rw [result_setFate]
    split <;> rfl

theorem grows_failNext (p : MemoryPlane) (call : PlaneCall) (e : ClientError) :
    Grows p (p.failNext call e) := .of_owner_eq rfl rfl rfl (fun _ => rfl) fun _ => rfl

/-! ### Calls that are only recorded -/

theorem undisturbed_logged (p : MemoryPlane) (call : PlaneCall) (target : String) :
    Undisturbed p (p.logged call target) :=
  ⟨rfl, rfl, rfl, rfl, rfl, rfl, fun _ => List.suffix_refl _, fun _ => rfl⟩

/-- A call whose effect disturbs nothing, as the plane knows it. -/
theorem undisturbed_recorded {α : Type} {call : PlaneCall} (target : String)
    {effect : Call MemoryPlane α} (h : ∀ q, Undisturbed q (effect q).2) (p : MemoryPlane) :
    Undisturbed p (recorded call target effect p).2 := by
  cases hf : p.failures call with
  | nil =>
    rw [recorded_of_nil target effect hf]
    exact (undisturbed_logged p call target).trans (h _)
  | cons e rest =>
    rw [recorded_of_cons target effect hf]
    exact undisturbed_failed p call target

theorem undisturbed_sessionCall (call : PlaneCall) (session : String) (p : MemoryPlane) :
    Undisturbed p (sessionCall call session p).2 := undisturbed_recorded session .refl p

theorem undisturbed_taskResults (ids : List String) (p : MemoryPlane) :
    Undisturbed p (taskResults ids p).2 := undisturbed_recorded "" .refl p

theorem undisturbed_createSession (options : TaskOptions) (partitions : List String)
    (p : MemoryPlane) : Undisturbed p (createSession options partitions p).2 :=
  undisturbed_recorded "" (fun _ => ⟨rfl, rfl, rfl, rfl, rfl, rfl, fun _ => List.suffix_refl _,
    fun _ => rfl⟩) p

/-- The results of a table of tasks are those of tasks that are known. -/
theorem exists_of_taskResults {ids : List String} {p p' : MemoryPlane}
    {results : Table String (List String)} (h : taskResults ids p = (.ok results, p'))
    {outputs : List String} (ho : outputs ∈ results.values) :
    ∃ task, p.tasks.get? task = some outputs := by
  cases hf : p.failures .taskResults with
  | cons e rest => simp [taskResults, recorded_of_cons "" _ hf] at h
  | nil =>
    simp only [taskResults, recorded_of_nil "" _ hf, Prod.mk.injEq, Except.ok.injEq] at h
    obtain ⟨⟨task, _⟩, he, rfl⟩ := List.mem_map.mp (h.1 ▸ ho)
    have hm := Table.mem_of_get?_insertAll (Table.get?_eq_some_iff.mpr he)
    obtain ⟨id, -, hid⟩ := List.mem_filterMap.mp (hm.resolve_left (by simp))
    cases hg : (p.logged .taskResults "").tasks.get? id with
    | none => simp [hg] at hid
    | some outs =>
      simp only [hg, Option.map_some, Option.some.injEq, Prod.mk.injEq] at hid
      obtain ⟨rfl, rfl⟩ := hid
      exact ⟨_, hg⟩

end MemoryPlane
end TaskGrid
