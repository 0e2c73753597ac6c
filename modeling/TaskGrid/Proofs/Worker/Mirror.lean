import TaskGrid.Proofs.Worker.Trace

/-! Writing down what happens at the boundary changes nothing: a worker whose loader keeps a trace answers as
one whose loader does not, and goes through the same states. -/
namespace TaskGrid

variable {σ τ : Type}

def ActiveService.traced (n : Nat) (s : ActiveService σ) : ActiveService (Traced σ) where
  id := s.id
  entry := s.entry.traced n
  context := s.context
  session := s.session

namespace Worker
variable {w : Worker σ} {v : Worker (Traced σ)}

/-- A worker with a trace beside one without. -/
structure Mirrors (w : Worker σ) (v : Worker (Traced σ)) : Prop where
  directory : v.directory = w.directory
  load : v.load = w.load.traced
  world : v.world.world = w.world
  application : (w.application = none ∧ v.application = none) ∨
    ∃ app l n, w.application = some (app, l) ∧ v.application = some (app, l.traced n)
  service : (w.service = none ∧ v.service = none) ∨
    ∃ s n, w.service = some s ∧ v.service = some (s.traced n)

theorem destroy_traced (n : Nat) (s : ActiveService σ) (t : Traced σ) :
    ((s.traced n).destroy t).world = s.destroy t.world := by
  obtain ⟨id, entry, context, _ | ⟨session, c⟩⟩ := s <;> rfl

theorem Mirrors.dropService (h : Mirrors w v) : Mirrors w.dropService v.dropService := by
  obtain ⟨hd, hl, hw, ha, ⟨hs, hs'⟩ | ⟨s, n, hs, hs'⟩⟩ := h
  · simp only [Worker.dropService, hs, hs']
    exact ⟨hd, hl, hw, ha, .inl ⟨hs, hs'⟩⟩
  · simp only [Worker.dropService, hs, hs']
    exact ⟨hd, hl, by rw [destroy_traced, hw], ha, .inl ⟨rfl, rfl⟩⟩

theorem Mirrors.dropApplication (h : Mirrors w v) :
    Mirrors w.dropApplication v.dropApplication := by
  obtain ⟨hd, hl, hw, ⟨ha, ha'⟩ | ⟨app, l, n, ha, ha'⟩, hs⟩ := h.dropService
  · simp only [Worker.dropApplication, ha, ha']
    exact ⟨hd, hl, hw, .inl ⟨ha, ha'⟩, hs⟩
  · simp only [Worker.dropApplication, ha, ha']
    exact ⟨hd, hl, congrArg l.unload hw, .inl ⟨rfl, rfl⟩, hs⟩

theorem Mirrors.useApplication (h : Mirrors w v) (app : AppId) :
    (v.useApplication app).1 = (w.useApplication app).1 ∧
      Mirrors (w.useApplication app).2 (v.useApplication app).2 := by
  have happ : v.application? = w.application? := by
    rcases h.application with ⟨ha, ha'⟩ | ⟨app, l, n, ha, ha'⟩ <;> simp [application?, ha, ha']
  have hm := h.dropApplication
  simp only [Worker.useApplication, happ]
  split
  · exact ⟨rfl, h⟩
  · generalize w.dropApplication = w at hm
    generalize v.dropApplication = v at hm
    obtain ⟨hd, hl, hw, ha, hs⟩ := hm
    simp only [hl, Loader.traced, libraryPath, hd, hw]
    rcases w.load (Path.join w.directory app.libraryName) w.world with ⟨e | l, world⟩
    · exact ⟨rfl, rfl, rfl, rfl, ha, hs⟩
    · exact ⟨rfl, rfl, rfl, rfl, .inr ⟨app, l, _, rfl, rfl⟩, hs⟩

theorem create_traced (n : Nat) (entry : EntryPoints σ) (id : ServiceId) (t : Traced σ) :
    ∃ t', t'.world = (ActiveService.create entry id t.world).2 ∧
      ActiveService.create (entry.traced n) id t =
        ((ActiveService.create entry id t.world).1.map (·.traced n), t') := by
  unfold ActiveService.create
  split
  · exact ⟨t, rfl, rfl⟩
  · exact ⟨t, rfl, rfl⟩
  · exact ⟨_, rfl, rfl⟩

theorem Mirrors.useService (h : Mirrors w v) (id : ServiceId) :
    (v.useService id).1 = (w.useService id).1 ∧
      Mirrors (w.useService id).2 (v.useService id).2 := by
  have hid : v.service? = w.service? := by
    rcases h.service with ⟨hs, hs'⟩ | ⟨s, n, hs, hs'⟩ <;>
      simp [service?, hs, hs', ActiveService.traced]
  simp only [Worker.useService, hid]
  split
  · exact ⟨rfl, h⟩
  rcases h.application with ⟨ha, ha'⟩ | ⟨app, l, n, ha, ha'⟩
  · simp only [ha, ha']
    exact ⟨trivial, h⟩
  · have hm := h.dropService
    simp only [ha, ha']
    generalize w.dropService = w at hm
    generalize v.dropService = v at hm
    obtain ⟨hd, hl, hw, ha, hs⟩ := hm
    obtain ⟨t, ht, hc⟩ := create_traced n l.entry id v.world
    rw [hw] at ht hc
    have hentry : (l.traced n).entry = l.entry.traced n := rfl
    rw [hentry, hc]
    generalize ActiveService.create l.entry id w.world = made at ht
    obtain ⟨e | s, world⟩ := made
    · exact ⟨rfl, hd, hl, ht, ha, hs⟩
    · exact ⟨rfl, hd, hl, ht, ha, .inr ⟨s, n, rfl, rfl⟩⟩

theorem enter_traced (n : Nat) (s : ActiveService σ) (session : String) (t : Traced σ) :
    ∃ t', t'.world = (s.enter session t.world).2.2 ∧
      (s.traced n).enter session t =
        ((s.enter session t.world).1, (s.enter session t.world).2.1.traced n, t') := by
  obtain ⟨id, entry, context, old⟩ := s
  unfold ActiveService.enter
  have hold : (ActiveService.traced n ⟨id, entry, context, old⟩).session? =
      ActiveService.session? ⟨id, entry, context, old⟩ := rfl
  rw [hold]
  split
  · exact ⟨t, rfl, rfl⟩
  · split
    · exact ⟨t, rfl, rfl⟩
    · obtain _ | ⟨name, c⟩ := old <;> exact ⟨_, rfl, rfl⟩

theorem Mirrors.useSession (h : Mirrors w v) (session : String) :
    (v.useSession session).1 = (w.useSession session).1 ∧
      Mirrors (w.useSession session).2 (v.useSession session).2 := by
  unfold Worker.useSession
  rcases h.service with ⟨hs, hs'⟩ | ⟨s, n, hs, hs'⟩
  · simp only [hs, hs']
    exact ⟨trivial, h⟩
  · obtain ⟨t, ht, he⟩ := enter_traced n s session v.world
    rw [h.world] at ht he
    simp only [hs, hs', he]
    exact ⟨trivial, h.directory, h.load, ht, h.application, .inr ⟨_, n, rfl, rfl⟩⟩

theorem call_traced (n : Nat) (s : ActiveService σ) (host : TaskHost τ) (method : String)
    (arguments : Octets) (u : τ) (t : Traced σ) :
    ∃ t', t'.world = (s.call host method arguments u t.world).2.2 ∧
      (s.traced n).call host method arguments u t =
        ((s.call host method arguments u t.world).1,
          (s.call host method arguments u t.world).2.1, t') := by
  obtain ⟨id, entry, context, _ | ⟨session, c⟩⟩ := s
  · exact ⟨t, rfl, rfl⟩
  · simp only [ActiveService.call, ActiveService.traced]
    cases CText.ofString method with
    | error e => exact ⟨t, rfl, rfl⟩
    | ok name => exact ⟨_, rfl, rfl⟩

theorem Mirrors.call (h : Mirrors w v) (host : TaskHost τ) (method : String) (arguments : Octets)
    (u : τ) :
    (v.call host method arguments u).1 = (w.call host method arguments u).1 ∧
      (v.call host method arguments u).2.1 = (w.call host method arguments u).2.1 ∧
      Mirrors (w.call host method arguments u).2.2 (v.call host method arguments u).2.2 := by
  unfold Worker.call
  rcases h.service with ⟨hs, hs'⟩ | ⟨s, n, hs, hs'⟩
  · simp only [hs, hs']
    exact ⟨trivial, trivial, h⟩
  · obtain ⟨t, ht, he⟩ := call_traced n s host method arguments u v.world
    rw [h.world] at ht he
    simp only [hs, hs', he]
    refine ⟨trivial, trivial, h.directory, h.load, ht, h.application, ?_⟩
    exact .inr ⟨s, n, rfl, rfl⟩

theorem Mirrors.attempt (h : Mirrors w v) (task : Task) (host : TaskHost τ) (u : τ) :
    (v.attempt task host u).1 = (w.attempt task host u).1 ∧
      (v.attempt task host u).2.1 = (w.attempt task host u).2.1 ∧
      Mirrors (w.attempt task host u).2.2 (v.attempt task host u).2.2 := by
  unfold Worker.attempt
  split
  · exact ⟨rfl, rfl, h⟩
  · next payload _ =>
    obtain ⟨ha, h⟩ := h.useApplication (.ofOptions task.options)
    generalize w.useApplication (.ofOptions task.options) = r at ha h
    generalize v.useApplication (.ofOptions task.options) = r' at ha h
    obtain ⟨e | _, w⟩ := r <;> obtain ⟨_, v⟩ := r' <;> cases ha
    · exact ⟨rfl, rfl, h⟩
    obtain ⟨ha, h⟩ := h.useService (.ofOptions task.options)
    simp only
    generalize w.useService (.ofOptions task.options) = r at ha h
    generalize v.useService (.ofOptions task.options) = r' at ha h
    obtain ⟨e | _, w⟩ := r <;> obtain ⟨_, v⟩ := r' <;> cases ha
    · exact ⟨rfl, rfl, h⟩
    obtain ⟨ha, h⟩ := h.useSession task.session
    simp only
    generalize w.useSession task.session = r at ha h
    generalize v.useSession task.session = r' at ha h
    obtain ⟨e | _, w⟩ := r <;> obtain ⟨_, v⟩ := r' <;> cases ha
    · exact ⟨rfl, rfl, h⟩
    exact h.call host payload.method payload.arguments u

theorem Mirrors.process (h : Mirrors w v) (task : Task) (host : TaskHost τ) (u : τ) :
    (v.process task host u).1 = (w.process task host u).1 ∧
      (v.process task host u).2.1 = (w.process task host u).2.1 ∧
      Mirrors (w.process task host u).2.2 (v.process task host u).2.2 := by
  obtain ⟨ha, hu, h⟩ := h.attempt task host u
  unfold Worker.process
  generalize w.attempt task host u = r at ha hu h
  generalize v.attempt task host u = r' at ha hu h
  obtain ⟨e | status, u, w⟩ := r <;> obtain ⟨_, _, v⟩ := r' <;> cases ha <;> cases hu <;>
    exact ⟨rfl, rfl, h⟩

theorem Mirrors.operate (h : Mirrors w v) (o : Operation) : Mirrors (w.operate o) (v.operate o) := by
  cases o with
  | application app => exact (h.useApplication app).2
  | service id => exact (h.useService id).2
  | session id => exact (h.useSession id).2
  | call host method arguments u => exact (h.call host method arguments u).2.2
  | task task host u => exact (h.process task host u).2.2

/-- What is written down changes nothing: a worker with a trace goes through the states of one without. -/
theorem mirrors_run (settings : Settings) (load : Loader σ) (world : σ)
    (operations : List Operation) :
    Mirrors ((start settings load world).run operations)
      ((startTraced settings load world).run operations) := by
  have h : Mirrors (start settings load world) (startTraced settings load world) :=
    ⟨rfl, rfl, rfl, .inl ⟨rfl, rfl⟩, .inl ⟨rfl, rfl⟩⟩
  generalize start settings load world = w at h
  generalize startTraced settings load world = v at h
  induction operations generalizing w v with
  | nil => exact h
  | cons o rest ih => exact ih _ _ (h.operate o)

end Worker
end TaskGrid
