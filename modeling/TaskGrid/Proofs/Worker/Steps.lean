import TaskGrid.Proofs.Worker.Trace

/-! What each operation of a traced worker does: the events it adds and the state it leaves. -/
namespace TaskGrid
namespace Worker

variable {σ τ : Type} {load : Loader σ} {w : Worker (Traced σ)}

def number (w : Worker (Traced σ)) : Nat := w.world.attempts - 1

/-- The service in use is one of the library that was loaded last. -/
structure Sound (load : Loader σ) (w : Worker (Traced σ)) : Prop where
  loader : w.load = load.traced
  library : ∀ {x}, w.application = some x →
    w.world.attempts = w.number + 1 ∧ ∃ l : Library σ, x.2 = l.traced w.number
  service : ∀ {s}, w.service = some s → ∃ x, w.application = some x ∧ s.entry = x.2.entry

theorem sound_startTraced (settings : Settings) (load : Loader σ) (world : σ) :
    Sound load (startTraced settings load world) := by
  constructor
  case loader => rfl
  all_goals nofun

theorem Sound.entry (h : Sound load w) {s : ActiveService (Traced σ)} (hs : w.service = some s) :
    ∃ e : EntryPoints σ, s.entry = e.traced w.number := by
  obtain ⟨x, hx, he⟩ := h.service hs
  obtain ⟨-, l, hl⟩ := h.library hx
  exact ⟨l.entry, by rw [he, hl]; rfl⟩

def closingService (w : Worker (Traced σ)) : List LibraryEvent :=
  w.service.elim [] (·.closing w.number)

def closing (w : Worker (Traced σ)) : List LibraryEvent :=
  w.closingService ++ w.application.elim [] fun _ => [.unloaded w.number]

theorem dropService_adds (h : Sound load w) : ∃ t, w.world.Adds w.closingService t ∧
    w.dropService = { w with service := none, world := t } := by
  obtain ⟨directory, loader, world, application, _ | s⟩ := w
  · exact ⟨world, .refl _, rfl⟩
  · obtain ⟨e, he⟩ := h.entry rfl
    exact ⟨_, ActiveService.destroy_adds _ he, rfl⟩

theorem dropApplication_adds (h : Sound load w) : ∃ t, w.world.Adds w.closing t ∧
    w.dropApplication = { w with application := none, service := none, world := t } := by
  obtain ⟨t, ht, hw⟩ := dropService_adds h
  unfold dropApplication closing
  rw [hw]
  cases ha : w.application with
  | none => exact ⟨t, by simpa using ht, by simp⟩
  | some x =>
    obtain ⟨app, library⟩ := x
    obtain ⟨-, l, hl⟩ := h.library ha
    refine ⟨_, ht.log (l.unload t.world) _, ?_⟩
    simp only at hl
    simp only [hl]
    rfl

section
variable {app : AppId} (hne : w.application? ≠ some app)
include hne

theorem useApplication_of_refused (h : Sound load w) {e : WorkerError} {world : σ}
    (hl : load (w.libraryPath app) w.dropApplication.world.world = (.error e, world)) :
    ∃ t, w.world.Adds w.closing t ∧ w.useApplication app = (.error e,
      { w with
        application := none
        service := none
        world := t.attempt world (.refused (w.libraryPath app)) }) := by
  obtain ⟨t, ht, hw⟩ := dropApplication_adds h
  rw [hw] at hl
  refine ⟨t, ht, ?_⟩
  simp only at hl
  simp only [useApplication, if_neg hne, hw, h.loader, Loader.traced, libraryPath] at hl ⊢
  simp only [hl]

theorem useApplication_of_loaded (h : Sound load w) {l : Library σ} {world : σ}
    (hl : load (w.libraryPath app) w.dropApplication.world.world = (.ok l, world)) :
    ∃ t, w.world.Adds w.closing t ∧ w.useApplication app = (.ok (),
      { w with
        application := some (app, l.traced t.attempts)
        service := none
        world := t.attempt world (.loaded t.attempts (w.libraryPath app)) }) := by
  obtain ⟨t, ht, hw⟩ := dropApplication_adds h
  rw [hw] at hl
  refine ⟨t, ht, ?_⟩
  simp only at hl
  simp only [useApplication, if_neg hne, hw, h.loader, Loader.traced, libraryPath] at hl ⊢
  simp only [hl]

end

section
variable {id : ServiceId} (hne : w.service? ≠ some id)
include hne

theorem useService_of_none (ha : w.application = none) :
    w.useService id = (.error .noApplication, w) := by
  rw [useService, if_neg hne, ha]

theorem useService_of_nul (h : Sound load w) {x : AppId × Library (Traced σ)}
    (ha : w.application = some x) {p : Nat} (hp : id.nulPosition? = some p) :
    ∃ t, w.world.Adds w.closingService t ∧
      w.useService id = (.error (.nulInText p), { w with service := none, world := t }) := by
  obtain ⟨t, ht, hw⟩ := dropService_adds h
  refine ⟨t, ht, ?_⟩
  simp only [useService, if_neg hne, ha, hw, ActiveService.create_of_nul hp]

theorem useService_of_passes (h : Sound load w) {x : AppId × Library (Traced σ)}
    (ha : w.application = some x) (hp : id.nulPosition? = none) :
    ∃ c t, w.world.Adds (w.closingService ++
        [.created w.number (CText.over id.group) (CText.over id.name) c]) t ∧
      w.useService id =
        (.ok (), { w with service := some ⟨id, x.2.entry, c, none⟩, world := t }) := by
  obtain ⟨t, ht, hw⟩ := dropService_adds h
  obtain ⟨-, l, hl⟩ := h.library ha
  have he : x.2.entry = l.entry.traced w.number := congrArg Library.entry hl
  obtain ⟨c, t', hc, ht'⟩ := ActiveService.create_of_passes t hp (e := l.entry) (n := w.number)
  refine ⟨c, t', ht.trans ht', ?_⟩
  simp only [useService, if_neg hne, ha, hw, he, hc]

end

section
variable {s : ActiveService (Traced σ)} (hs : w.service = some s) {session : String}
include hs

theorem useSession_of_same (hsame : s.session? = some session) :
    w.useSession session = (.ok (), w) := by
  rw [useSession, hs]
  simp only [ActiveService.enter, if_pos hsame, ← hs]

theorem useSession_of_nul (hne : s.session? ≠ some session) {p : Nat}
    (hp : CText.nulPosition? session = some p) :
    w.useSession session = (.error (.nulInText p), w) := by
  rw [useSession, hs]
  simp only [ActiveService.enter_of_nul hne hp, ← hs]

theorem useSession_of_passes (h : Sound load w) (hne : s.session? ≠ some session)
    (hp : CText.nulPosition? session = none) :
    ∃ c t, w.world.Adds (s.leaving w.number ++
        [.entered w.number s.context (CText.over session) c]) t ∧
      w.useSession session =
        (.ok (), { w with service := some { s with session := some (session, c) }, world := t }) := by
  obtain ⟨e, he⟩ := h.entry hs
  obtain ⟨c, t, hc, ht⟩ := ActiveService.enter_of_passes w.world he hne hp
  refine ⟨c, t, ht, ?_⟩
  rw [useSession, hs]
  simp only [hc]

variable (host : TaskHost τ) {method : String} (arguments : Octets) (u : τ)

theorem call_of_outside (hx : s.session = none) :
    w.call host method arguments u = (.error .sessionNotInitialized, u, w) := by
  rw [call, hs]
  simp only [ActiveService.call, hx, ← hs]

variable {id : String} {c : Context} (hx : s.session = some (id, c))
include hx

theorem call_of_nul {p : Nat} (hp : CText.nulPosition? method = some p) :
    w.call host method arguments u = (.error (.nulInText p), u, w) := by
  rw [call, hs]
  simp only [ActiveService.call_of_nul hx hp, ← hs]

theorem call_of_passes (h : Sound load w) (hp : CText.nulPosition? method = none) :
    ∃ answer u' t, w.world.Adds
        [.called w.number s.context c (CText.over method) (.ofOctets arguments)] t ∧
      w.call host method arguments u = (answer, u', { w with world := t }) := by
  obtain ⟨e, he⟩ := h.entry hs
  obtain ⟨answer, u', t, hc, ht⟩ := ActiveService.call_of_passes w.world he hx hp host arguments u
  refine ⟨answer, u', t, ht, ?_⟩
  rw [call, hs]
  simp only [hc, ← hs]

end

/-- What an operation can do to a worker in one go. -/
inductive Move (w : Worker (Traced σ)) : Worker (Traced σ) → Prop where
  | refused {t : Traced σ} (world : σ) (path : String) (ht : w.world.Adds w.closing t) :
    Move w
      { w with application := none, service := none, world := t.attempt world (.refused path) }
  | loaded {t : Traced σ} (app : AppId) (l : Library σ) (world : σ) (path : String)
    (ht : w.world.Adds w.closing t) :
    Move w
      { w with
        application := some (app, l.traced t.attempts)
        service := none
        world := t.attempt world (.loaded t.attempts path) }
  | released {t : Traced σ} {x : AppId × Library (Traced σ)} (hx : w.application = some x)
    (ht : w.world.Adds w.closingService t) :
    Move w { w with service := none, world := t }
  | created {t : Traced σ} {x : AppId × Library (Traced σ)} {id : ServiceId} {c : Context}
    (hx : w.application = some x)
    (ht : w.world.Adds (w.closingService ++
      [.created w.number (CText.over id.group) (CText.over id.name) c]) t) :
    Move w { w with service := some ⟨id, x.2.entry, c, none⟩, world := t }
  | entered {t : Traced σ} {s : ActiveService (Traced σ)} {session : String} {c : Context}
    (hs : w.service = some s)
    (ht : w.world.Adds (s.leaving w.number ++
      [.entered w.number s.context (CText.over session) c]) t) :
    Move w { w with service := some { s with session := some (session, c) }, world := t }
  | called {t : Traced σ} {s : ActiveService (Traced σ)} {id : String} {c : Context}
    {method : CText} {input : Data} (hs : w.service = some s) (hx : s.session = some (id, c))
    (ht : w.world.Adds [.called w.number s.context c method input] t) :
    Move w { w with world := t }

variable {w' : Worker (Traced σ)}

/-- A worker that keeps its library may change in all but the service, which has to be of that library. -/
theorem Sound.extend (h : Sound load w) {l : List LibraryEvent} {t : Traced σ}
    (ht : w.world.Adds l t) {s : Option (ActiveService (Traced σ))}
    (hs : ∀ {s'}, s = some s' → ∃ x, w.application = some x ∧ s'.entry = x.2.entry) :
    Sound load { w with service := s, world := t } where
  loader := h.loader
  library hx := by simpa only [number, ht.attempts] using h.library hx
  service := hs

theorem Sound.move (h : Sound load w) (m : Move w w') : Sound load w' := by
  cases m with
  | refused world path ht => exact ⟨h.loader, nofun, nofun⟩
  | loaded app l world path ht =>
    refine ⟨h.loader, fun hx => ?_, nofun⟩
    cases hx
    exact ⟨rfl, l, rfl⟩
  | released hx ht => exact h.extend ht nofun
  | created hx ht =>
    refine h.extend ht fun hs => ?_
    cases hs
    exact ⟨_, hx, rfl⟩
  | entered hs ht =>
    refine h.extend ht fun hs' => ?_
    cases hs'
    obtain ⟨x, hx, he⟩ := h.service hs
    exact ⟨x, hx, he⟩
  | called hs hx ht => exact h.extend ht h.service

theorem useApplication_moves (h : Sound load w) (app : AppId) :
    (w.useApplication app).2 = w ∨ Move w (w.useApplication app).2 := by
  by_cases hne : w.application? = some app
  · left
    rw [useApplication, if_pos hne]
  · right
    rcases hl : load (w.libraryPath app) w.dropApplication.world.world with ⟨e | l, world⟩
    · obtain ⟨t, ht, hw⟩ := useApplication_of_refused hne h hl
      rw [hw]
      exact .refused world _ ht
    · obtain ⟨t, ht, hw⟩ := useApplication_of_loaded hne h hl
      rw [hw]
      exact .loaded app l world _ ht

theorem useService_moves (h : Sound load w) (id : ServiceId) :
    (w.useService id).2 = w ∨ Move w (w.useService id).2 := by
  by_cases hne : w.service? = some id
  · left
    rw [useService, if_pos hne]
  · cases ha : w.application with
    | none =>
      left
      rw [useService_of_none hne ha]
    | some x =>
      right
      cases hp : id.nulPosition? with
      | some p =>
        obtain ⟨t, ht, hw⟩ := useService_of_nul hne h ha hp
        rw [hw]
        exact .released ha ht
      | none =>
        obtain ⟨c, t, ht, hw⟩ := useService_of_passes hne h ha hp
        rw [hw]
        exact .created ha ht

theorem useSession_moves (h : Sound load w) (session : String) :
    (w.useSession session).2 = w ∨ Move w (w.useSession session).2 := by
  cases hs : w.service with
  | none =>
    left
    rw [useSession, hs]
  | some s =>
    by_cases hne : s.session? = some session
    · left
      rw [useSession_of_same hs hne]
    · cases hp : CText.nulPosition? session with
      | some p =>
        left
        rw [useSession_of_nul hs hne hp]
      | none =>
        right
        obtain ⟨c, t, ht, hw⟩ := useSession_of_passes hs h hne hp
        rw [hw]
        exact .entered hs ht

theorem call_moves (h : Sound load w) (host : TaskHost τ) (method : String) (arguments : Octets)
    (u : τ) : (w.call host method arguments u).2.2 = w ∨
      Move w (w.call host method arguments u).2.2 := by
  cases hs : w.service with
  | none =>
    left
    rw [call, hs]
  | some s =>
    cases hx : s.session with
    | none =>
      left
      rw [call_of_outside hs host arguments u hx]
    | some x =>
      cases hp : CText.nulPosition? method with
      | some p =>
        left
        rw [call_of_nul hs host arguments u hx hp]
      | none =>
        right
        obtain ⟨answer, u', t, ht, hw⟩ := call_of_passes hs host arguments u hx h hp
        rw [hw]
        exact .called hs hx ht

theorem process_eq (w : Worker σ) (task : Task) (host : TaskHost τ) (u : τ) :
    w.process task host u = (match (w.attempt task host u).1 with
      | .ok status => status
      | .error e => .error e.message, (w.attempt task host u).2) := by
  unfold process
  split <;> next h => rw [h]

theorem process_worker (w : Worker σ) (task : Task) (host : TaskHost τ) (u : τ) :
    (w.process task host u).2.2 = (w.attempt task host u).2.2 := by
  rw [process_eq]

/-- What every move keeps is kept by every operation. -/
theorem Sound.operate {P : Worker (Traced σ) → Prop}
    (hmove : ∀ {w w'}, Sound load w → P w → Move w w' → P w') (h : Sound load w) (hw : P w)
    (o : Operation) : Sound load (w.operate o) ∧ P (w.operate o) := by
  have hstep {w w' : Worker (Traced σ)} (h : Sound load w ∧ P w) (hm : w' = w ∨ Move w w') :
      Sound load w' ∧ P w' := by
    rcases hm with rfl | hm
    · exact h
    · exact ⟨h.1.move hm, hmove h.1 h.2 hm⟩
  cases o with
  | application app => exact hstep ⟨h, hw⟩ (useApplication_moves h app)
  | service id => exact hstep ⟨h, hw⟩ (useService_moves h id)
  | session id => exact hstep ⟨h, hw⟩ (useSession_moves h id)
  | call host method arguments u => exact hstep ⟨h, hw⟩ (call_moves h host method arguments u)
  | task task host u =>
    rw [Worker.operate, process_worker, attempt]
    split
    · exact ⟨h, hw⟩
    · next payload _ =>
      -- each step starts from what the one before it left, and may be the last
      have h1 := hstep ⟨h, hw⟩ (useApplication_moves h (.ofOptions task.options))
      generalize w.useApplication (.ofOptions task.options) = r at h1
      obtain ⟨_ | _, w1⟩ := r
      · exact h1
      have h2 := hstep h1 (useService_moves h1.1 (.ofOptions task.options))
      simp only
      generalize w1.useService (.ofOptions task.options) = r at h2
      obtain ⟨_ | _, w2⟩ := r
      · exact h2
      have h3 := hstep h2 (useSession_moves h2.1 task.session)
      simp only
      generalize w2.useSession task.session = r at h3
      obtain ⟨_ | _, w3⟩ := r
      · exact h3
      exact hstep h3 (call_moves h3.1 host payload.method payload.arguments u)

theorem Sound.run {P : Worker (Traced σ) → Prop}
    (hmove : ∀ {w w'}, Sound load w → P w → Move w w' → P w') (h : Sound load w) (hw : P w)
    (operations : List Operation) : Sound load (w.run operations) ∧ P (w.run operations) := by
  induction operations generalizing w with
  | nil => exact ⟨h, hw⟩
  | cons o rest ih =>
    obtain ⟨h', hw'⟩ := h.operate hmove hw o
    exact ih h' hw'

end Worker
end TaskGrid
