import TaskGrid.Proofs.Worker.Steps

/-! The service that a worker has in use was created in the library that is loaded, and nothing but its sessions
and calls has touched the library since. -/
namespace TaskGrid

variable {σ τ : Type}

/-- The states that a service can be in from its creation on, if its library is used through it alone: its
context, the session it is in, and the world. -/
inductive EntryPoints.Tenure (e : EntryPoints σ) (id : ServiceId) :
    Context → Option (String × Context) → σ → Prop where
  | created (w : σ) (hid : id.nulPosition? = none) :
    Tenure e id (e.createService (CText.over id.group) (CText.over id.name) w).1 none
      (e.createService (CText.over id.group) (CText.over id.name) w).2
  | entered {c : Context} {w : σ} (h : Tenure e id c none w) (session : String)
    (hsession : CText.nulPosition? session = none) :
    Tenure e id c (some (session, (e.enterSession c (CText.over session) w).1))
      (e.enterSession c (CText.over session) w).2
  | left {c x : Context} {session : String} {w : σ} (h : Tenure e id c (some (session, x)) w) :
    Tenure e id c none (e.leaveSession c x w)
  | called {c x : Context} {session : String} {w : σ} (h : Tenure e id c (some (session, x)) w)
    (method : CText) (input : Data) :
    Tenure e id c (some (session, x)) (e.call c x method input true w).2

theorem EntryPoints.Tenure.nulPosition?_id {e : EntryPoints σ} {id : ServiceId} {c : Context}
    {session : Option (String × Context)} {w : σ} (h : e.Tenure id c session w) :
    id.nulPosition? = none := by
  induction h with
  | created w hid => exact hid
  | entered h session hsession ih => exact ih
  | left h ih => exact ih
  | called h method input ih => exact ih

theorem EntryPoints.Tenure.nulPosition?_session {e : EntryPoints σ} {id : ServiceId} {c : Context}
    {session : Option (String × Context)} {w : σ} (h : e.Tenure id c session w) :
    ∀ x ∈ session, CText.nulPosition? x.1 = none := by
  induction h with
  | created w hid => nofun
  | entered h session hsession ih =>
    rintro x ⟨⟩
    exact hsession
  | left h ih => nofun
  | called h method input ih => exact ih

/-- What a text that has to go over the boundary comes to. -/
def CText.check : Option Nat → Except WorkerError Unit
  | some position => .error (.nulInText position)
  | none => .ok ()

namespace ActiveService

def Tenured (s : ActiveService σ) (w : σ) : Prop := s.entry.Tenure s.id s.context s.session w

variable {s : ActiveService σ} {w : σ}

theorem Tenured.leave (h : s.Tenured w) :
    (s.leave w).1 = { s with session := none } ∧ (s.leave w).1.Tenured (s.leave w).2 := by
  obtain ⟨id, entry, context, _ | ⟨session, x⟩⟩ := s
  · exact ⟨rfl, h⟩
  · exact ⟨rfl, .left h⟩

theorem create_spec (entry : EntryPoints σ) (id : ServiceId) (w : σ) :
    match id.nulPosition? with
    | some p => create entry id w = (.error (.nulInText p), w)
    | none => ∃ s, (create entry id w).1 = .ok s ∧ s.id = id ∧ s.entry = entry ∧
      s.Tenured (create entry id w).2 := by
  cases hid : id.nulPosition? with
  | some p => exact create_of_nul hid entry w
  | none =>
    obtain ⟨hgroup, hname⟩ := Option.or_eq_none_iff.mp hid
    simp only [create, CText.ofString_of_none hgroup, CText.ofString_of_none hname]
    exact ⟨_, rfl, rfl, rfl, .created w hid⟩

theorem Tenured.enter (h : s.Tenured w) (session : String) :
    (s.enter session w).1 = CText.check (CText.nulPosition? session) ∧
      (s.enter session w).2.1.Tenured (s.enter session w).2.2 ∧
      (s.enter session w).2.1.id = s.id ∧ (s.enter session w).2.1.entry = s.entry ∧
      ((s.enter session w).1 = .ok () →
        ∃ x, (s.enter session w).2.1.session = some (session, x)) := by
  by_cases hsame : s.session? = some session
  · have henter : s.enter session w = (.ok (), s, w) := by rw [ActiveService.enter, if_pos hsame]
    obtain ⟨⟨_, x⟩, hx, rfl⟩ := Option.map_eq_some_iff.mp hsame
    rw [henter, h.nulPosition?_session _ hx]
    exact ⟨rfl, h, rfl, rfl, fun _ => ⟨x, hx⟩⟩
  · cases hp : CText.nulPosition? session with
    | some p =>
      rw [enter_of_nul hsame hp]
      refine ⟨rfl, h, rfl, rfl, ?_⟩
      rintro ⟨⟩
    | none =>
      obtain ⟨hs, hleft⟩ := h.leave
      rw [ActiveService.enter, if_neg hsame, CText.ofString_of_none hp]
      simp only [hs] at hleft ⊢
      exact ⟨rfl, .entered hleft session hp, trivial, trivial, fun _ => ⟨_, rfl⟩⟩

theorem Tenured.call (h : s.Tenured w) (host : TaskHost τ) (method : String) (arguments : Octets)
    (u : τ) : s.Tenured (s.call host method arguments u w).2.2 := by
  obtain ⟨id, entry, context, _ | ⟨session, x⟩⟩ := s
  · exact h
  · unfold ActiveService.call
    cases CText.ofString method with
    | error e => exact h
    | ok name => exact .called h name (.ofOctets arguments)

/-- What a call comes to is said by the one use of the entry point that it makes. -/
theorem call_of_session {session : String} {x : Context} (hx : s.session = some (session, x))
    {method : String} (hmethod : CText.nulPosition? method = none) (host : TaskHost τ)
    (arguments : Octets) (u : τ) (w : σ) :
    let r := s.entry.call s.context x (CText.over method) (.ofOctets arguments) true w
    let hearing := Hearing.hearAll host r.1.reports u
    s.call host method arguments u w = (hearing.verdict r.1.status, hearing.host, r.2) := by
  simp only [ActiveService.call, hx, CText.ofString_of_none hmethod]

end ActiveService

namespace Worker

/-- What is in use is where it should be: the library is one that the loader gave for its application, and the
service is one of that library and in its tenure. -/
structure Tenured (load : Loader σ) (base : String) (w : Worker σ) : Prop where
  directory : w.directory = base
  loader : w.load = load
  library : ∀ {x}, w.application = some x →
    ∃ world, (load (Path.join base x.1.libraryName) world).1 = .ok x.2
  service : ∀ {s}, w.service = some s →
    ∃ x, w.application = some x ∧ s.entry = x.2.entry ∧ s.Tenured w.world

variable {load : Loader σ} {base : String} {w : Worker σ}

theorem tenured_start (settings : Settings) (load : Loader σ) (world : σ) :
    Tenured load settings.libraryDirectory (start settings load world) where
  directory := rfl
  loader := rfl
  library := nofun
  service := nofun

theorem dropService_eq (w : Worker σ) : ∃ world, w.dropService = { w with service := none, world } := by
  obtain ⟨directory, load, world, application, _ | s⟩ := w
  · exact ⟨world, rfl⟩
  · exact ⟨_, rfl⟩

theorem dropApplication_eq (w : Worker σ) :
    ∃ world, w.dropApplication = { w with application := none, service := none, world } := by
  obtain ⟨world, hw⟩ := dropService_eq w
  unfold dropApplication
  rw [hw]
  cases ha : w.application with
  | none => exact ⟨world, by simp⟩
  | some x => exact ⟨_, rfl⟩

theorem Tenured.useApplication (h : w.Tenured load base) (app : AppId) :
    ∃ world, (w.useApplication app).2.Tenured load base ∧
      (w.useApplication app).1 =
        (load (Path.join base app.libraryName) world).1.map (fun _ => ()) ∧
      ∀ l, (load (Path.join base app.libraryName) world).1 = .ok l →
        (w.useApplication app).2.application = some (app, l) := by
  by_cases happ : w.application? = some app
  · have huse : w.useApplication app = (.ok (), w) := by rw [Worker.useApplication, if_pos happ]
    obtain ⟨x, hx, rfl⟩ := Option.map_eq_some_iff.mp happ
    obtain ⟨world, hworld⟩ := h.library hx
    refine ⟨world, ?_⟩
    rw [huse, hworld]
    refine ⟨h, rfl, fun l hl => ?_⟩
    cases hl
    exact hx
  · obtain ⟨world, hw⟩ := dropApplication_eq w
    refine ⟨world, ?_⟩
    unfold Worker.useApplication
    rw [if_neg happ, hw]
    simp only [libraryPath, h.loader, h.directory]
    rcases hload : load (Path.join base app.libraryName) world with ⟨e | l, world'⟩ <;> simp only
    · refine ⟨⟨rfl, rfl, ?_, ?_⟩, rfl, ?_⟩ <;> rintro _ ⟨⟩
    · refine ⟨⟨rfl, rfl, ?_, ?_⟩, rfl, ?_⟩ <;> rintro _ ⟨⟩
      · exact ⟨world, congrArg Prod.fst hload⟩
      · rfl

theorem Tenured.useService (h : w.Tenured load base) {x : AppId × Library σ}
    (hx : w.application = some x) (id : ServiceId) :
    (w.useService id).2.Tenured load base ∧
      (w.useService id).1 = CText.check id.nulPosition? ∧
      (w.useService id).2.application = some x ∧
      ((w.useService id).1 = .ok () → ∃ s, (w.useService id).2.service = some s ∧ s.id = id) := by
  by_cases hid : w.service? = some id
  · have huse : w.useService id = (.ok (), w) := by rw [Worker.useService, if_pos hid]
    obtain ⟨s, hs, rfl⟩ := Option.map_eq_some_iff.mp hid
    obtain ⟨_, -, -, htenured⟩ := h.service hs
    rw [huse, htenured.nulPosition?_id]
    exact ⟨h, rfl, hx, fun _ => ⟨s, hs, rfl⟩⟩
  · obtain ⟨world, hw⟩ := dropService_eq w
    have hcreate := ActiveService.create_spec x.2.entry id world
    unfold Worker.useService
    rw [if_neg hid, hx]
    simp only [hw]
    cases hp : id.nulPosition? with
    | some p =>
      rw [hp] at hcreate
      simp only at hcreate
      rw [hcreate]
      refine ⟨⟨h.directory, h.loader, h.library, ?_⟩, rfl, hx, ?_⟩
      · rintro _ ⟨⟩
      · rintro ⟨⟩
    | none =>
      rw [hp] at hcreate
      obtain ⟨s, hs, hsid, hentry, htenured⟩ := hcreate
      generalize ActiveService.create x.2.entry id world = made at hs htenured
      obtain ⟨_, world'⟩ := made
      cases hs
      refine ⟨⟨h.directory, h.loader, h.library, fun hs' => ?_⟩, rfl, hx, fun _ => ⟨s, rfl, hsid⟩⟩
      cases hs'
      exact ⟨x, hx, hentry, htenured⟩

theorem Tenured.useSession (h : w.Tenured load base) {s : ActiveService σ}
    (hs : w.service = some s) (session : String) :
    (w.useSession session).2.Tenured load base ∧
      (w.useSession session).1 = CText.check (CText.nulPosition? session) ∧
      (w.useSession session).2.application = w.application ∧
      ((w.useSession session).1 = .ok () → ∃ s' c, (w.useSession session).2.service = some s' ∧
        s'.id = s.id ∧ s'.session = some (session, c)) := by
  obtain ⟨x, hx, hentry, htenured⟩ := h.service hs
  obtain ⟨hanswer, htenured', hid, hentry', hsession⟩ := htenured.enter session
  unfold Worker.useSession
  rw [hs]
  refine ⟨⟨h.directory, h.loader, h.library, fun hs' => ?_⟩, hanswer, rfl, fun hok => ?_⟩
  · cases hs'
    exact ⟨x, hx, hentry'.trans hentry, htenured'⟩
  · obtain ⟨c, hc⟩ := hsession hok
    exact ⟨_, c, rfl, hid, hc⟩

theorem Tenured.call (h : w.Tenured load base) (host : TaskHost τ) (method : String)
    (arguments : Octets) (u : τ) : (w.call host method arguments u).2.2.Tenured load base := by
  unfold Worker.call
  cases hs : w.service with
  | none => exact h
  | some s =>
    obtain ⟨x, hx, hentry, htenured⟩ := h.service hs
    simp only
    refine ⟨h.directory, h.loader, h.library, fun hs' => ?_⟩
    cases hs'
    exact ⟨x, hx, hentry, htenured.call host method arguments u⟩

def enterService (w : Worker σ) (id : ServiceId) (session : String) :
    Except WorkerError Unit × Worker σ :=
  match w.useService id with
  | (.error e, w) => (.error e, w)
  | (.ok (), w) => w.useSession session

def prepare (w : Worker σ) (options : TaskOptions) (session : String) :
    Except WorkerError Unit × Worker σ :=
  match w.useApplication (.ofOptions options) with
  | (.error e, w) => (.error e, w)
  | (.ok (), w) => w.enterService (.ofOptions options) session

/-- A task whose payload can be read is called once all is ready for it. -/
theorem attempt_of_decode {task : Task} {payload : Payload}
    (hp : Payload.decode task.payload = .ok payload) (host : TaskHost τ) (u : τ) :
    w.attempt task host u = match w.prepare task.options task.session with
      | (.error e, w) => (.error e, u, w)
      | (.ok (), w) => w.call host payload.method payload.arguments u := by
  simp only [attempt, hp, prepare]
  rcases w.useApplication (.ofOptions task.options) with ⟨_ | _, w⟩
  · rfl
  simp only [enterService]
  rcases w.useService (.ofOptions task.options) with ⟨_ | _, w⟩
  · rfl
  rcases h : w.useSession task.session with ⟨_ | _, w⟩ <;> simp only [h]

/-- What stands in the way of a session, if anything does. -/
def admission (id : ServiceId) (session : String) : Except WorkerError Unit := do
  CText.check id.nulPosition?
  CText.check (CText.nulPosition? session)

theorem Tenured.enterService (h : w.Tenured load base) {x : AppId × Library σ}
    (hx : w.application = some x) (id : ServiceId) (session : String) :
    (w.enterService id session).2.Tenured load base ∧
      (w.enterService id session).1 = admission id session ∧
      ((w.enterService id session).1 = .ok () → ∃ s c, (w.enterService id session).2.service = some s ∧
        s.entry = x.2.entry ∧ s.id = id ∧ s.session = some (session, c)) := by
  obtain ⟨h, ha, hx, hs⟩ := h.useService hx id
  unfold Worker.enterService admission
  generalize w.useService id = r at h ha hx hs
  obtain ⟨_, w⟩ := r
  simp only at h ha hx hs
  subst ha
  cases hid : id.nulPosition? with
  | some p =>
    refine ⟨h, rfl, ?_⟩
    rintro ⟨⟩
  | none =>
    rw [hid] at hs
    obtain ⟨s, hs, hsid⟩ := hs rfl
    obtain ⟨h, ha, hx', hentered⟩ := h.useSession hs session
    refine ⟨h, ha, fun hok => ?_⟩
    obtain ⟨s', c, hs', hid', hc⟩ := hentered hok
    obtain ⟨y, hy, hentry, -⟩ := h.service hs'
    cases hy.symm.trans (hx'.trans hx)
    exact ⟨s', c, hs', hentry, hid'.trans hsid, hc⟩

/-- What stands in the way of a task, if anything does; `found` is what the loader answers. -/
def readiness (options : TaskOptions) (session : String) (found : Except WorkerError (Library σ)) :
    Except WorkerError Unit := do
  let _ ← found
  admission (.ofOptions options) session

theorem Tenured.prepare (h : w.Tenured load base) (options : TaskOptions) (session : String) :
    (w.prepare options session).2.Tenured load base ∧
      ∃ world, let found := (load (Path.join base (AppId.ofOptions options).libraryName) world).1
        (w.prepare options session).1 = readiness options session found ∧
        ((w.prepare options session).1 = .ok () → ∃ l s c, found = .ok l ∧
          (w.prepare options session).2.service = some s ∧ s.entry = l.entry ∧
          s.id = .ofOptions options ∧ s.session = some (session, c)) := by
  obtain ⟨world, h, ha, hx⟩ := h.useApplication (.ofOptions options)
  unfold Worker.prepare
  generalize w.useApplication (.ofOptions options) = r at h ha hx
  obtain ⟨_, w⟩ := r
  simp only at h ha hx
  subst ha
  cases hfound : (load (Path.join base (AppId.ofOptions options).libraryName) world).1 with
  | error e =>
    refine ⟨h, world, ?_⟩
    simp only [hfound]
    refine ⟨rfl, ?_⟩
    rintro ⟨⟩
  | ok l =>
    obtain ⟨h, ha, hs⟩ := h.enterService (hx l hfound) (.ofOptions options) session
    refine ⟨h, world, ?_⟩
    simp only [hfound]
    refine ⟨ha, fun hok => ?_⟩
    obtain ⟨s, c, hs⟩ := hs hok
    exact ⟨l, s, c, rfl, hs⟩

theorem Tenured.process (h : w.Tenured load base) (task : Task) (host : TaskHost τ) (u : τ) :
    (w.process task host u).2.2.Tenured load base := by
  rw [process_worker]
  cases hp : Payload.decode task.payload with
  | error flaw =>
    rw [attempt, hp]
    exact h
  | ok payload =>
    rw [attempt_of_decode hp]
    obtain ⟨h', -⟩ := h.prepare task.options task.session
    generalize w.prepare task.options task.session = r at h'
    obtain ⟨_ | _, w'⟩ := r
    · exact h'
    · exact h'.call host payload.method payload.arguments u

theorem Tenured.operate (h : w.Tenured load base) (o : Operation) :
    (w.operate o).Tenured load base := by
  cases o with
  | application app =>
    obtain ⟨_, h', -⟩ := h.useApplication app
    exact h'
  | service id =>
    cases hx : w.application with
    | some x => exact (h.useService hx id).1
    | none =>
      -- without a library there is no service either
      have hne : w.service? ≠ some id := by
        intro hid
        obtain ⟨s, hs, -⟩ := Option.map_eq_some_iff.mp hid
        obtain ⟨_, hx', -⟩ := h.service hs
        cases hx.symm.trans hx'
      rw [Worker.operate, Worker.useService, if_neg hne, hx]
      exact h
  | session id =>
    cases hs : w.service with
    | some s => exact (h.useSession hs id).1
    | none =>
      rw [Worker.operate, Worker.useSession, hs]
      exact h
  | call host method arguments u => exact h.call host method arguments u
  | task task host u => exact h.process task host u

theorem Tenured.run (h : w.Tenured load base) (operations : List Operation) :
    (w.run operations).Tenured load base := by
  induction operations generalizing w with
  | nil => exact h
  | cons o rest ih => exact ih (h.operate o)

end Worker
end TaskGrid
