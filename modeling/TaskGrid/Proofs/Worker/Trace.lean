import TaskGrid.Worker.Basic

/-! Workers whose loader writes down what happens at the boundary: every load, every unloading and every
call of an entry point, with the contexts that went over it. One lemma per operation says what it adds. -/
namespace TaskGrid

/-- What happens at the boundary. A library is named by the attempts to load one before it. -/
inductive LibraryEvent where
  | refused (path : String)
  | loaded (library : Nat) (path : String)
  | unloaded (library : Nat)
  | created (library : Nat) (group name : CText) (service : Context)
  | destroyed (library : Nat) (service : Context)
  | entered (library : Nat) (service : Context) (name : CText) (session : Context)
  | left (library : Nat) (service session : Context)
  | called (library : Nat) (service session : Context) (method : CText) (input : Data)
  deriving DecidableEq, Repr

/-- What libraries may change, and what happened so far. -/
structure Traced (σ : Type) where
  world : σ
  events : List LibraryEvent := []
  attempts : Nat := 0

variable {σ : Type}

namespace Traced

def log (t : Traced σ) (world : σ) (e : LibraryEvent) : Traced σ :=
  { t with world, events := t.events ++ [e] }

def attempt (t : Traced σ) (world : σ) (e : LibraryEvent) : Traced σ :=
  { t.log world e with attempts := t.attempts + 1 }

/-- Some events were added, none of which is an attempt to load a library. -/
structure Adds (t : Traced σ) (l : List LibraryEvent) (t' : Traced σ) : Prop where
  events : t'.events = t.events ++ l
  attempts : t'.attempts = t.attempts

theorem Adds.refl (t : Traced σ) : t.Adds [] t := ⟨(List.append_nil _).symm, rfl⟩

theorem Adds.log {t t' : Traced σ} {l : List LibraryEvent} (h : t.Adds l t') (world : σ)
    (e : LibraryEvent) : t.Adds (l ++ [e]) (t'.log world e) :=
  ⟨by rw [Traced.log, h.events, List.append_assoc], h.attempts⟩

theorem Adds.trans {t t' t'' : Traced σ} {l l' : List LibraryEvent} (h : t.Adds l t')
    (h' : t'.Adds l' t'') : t.Adds (l ++ l') t'' :=
  ⟨by rw [h'.events, h.events, List.append_assoc], h'.attempts.trans h.attempts⟩

end Traced

def EntryPoints.traced (n : Nat) (e : EntryPoints σ) : EntryPoints (Traced σ) where
  createService group name t :=
    let (service, world) := e.createService group name t.world
    (service, t.log world (.created n group name service))
  destroyService service t := t.log (e.destroyService service t.world) (.destroyed n service)
  enterSession service name t :=
    let (session, world) := e.enterSession service name t.world
    (session, t.log world (.entered n service name session))
  leaveSession service session t :=
    t.log (e.leaveSession service session t.world) (.left n service session)
  call service session method input callback t :=
    let (reply, world) := e.call service session method input callback t.world
    (reply, t.log world (.called n service session method input))

def Library.traced (n : Nat) (l : Library σ) : Library (Traced σ) where
  entry := l.entry.traced n
  unload t := t.log (l.unload t.world) (.unloaded n)

def Loader.traced (load : Loader σ) : Loader (Traced σ) := fun path t =>
  match load path t.world with
  | (.error e, world) => (.error e, t.attempt world (.refused path))
  | (.ok l, world) => (.ok (l.traced t.attempts), t.attempt world (.loaded t.attempts path))

inductive Operation : Type 1 where
  | application (app : AppId)
  | service (id : ServiceId)
  | session (id : String)
  | call {τ : Type} (host : TaskHost τ) (method : String) (arguments : Octets) (t : τ)
  | task {τ : Type} (task : Task) (host : TaskHost τ) (t : τ)

namespace Worker

def operate (w : Worker σ) : Operation → Worker σ
  | .application app => (w.useApplication app).2
  | .service id => (w.useService id).2
  | .session id => (w.useSession id).2
  | .call host method arguments t => (w.call host method arguments t).2.2
  | .task task host t => (w.process task host t).2.2

def run (w : Worker σ) (operations : List Operation) : Worker σ := operations.foldl operate w

def startTraced (settings : Settings) (load : Loader σ) (world : σ) : Worker (Traced σ) :=
  start settings load.traced { world }

end Worker

def CText.over (s : String) : CText := some (Utf8.encode s)

theorem CText.ofString_of_some {s : String} {p : Nat} (h : CText.nulPosition? s = some p) :
    CText.ofString s = .error (.nulInText p) := by
  rw [ofString, h]

theorem CText.ofString_of_none {s : String} (h : CText.nulPosition? s = none) :
    CText.ofString s = .ok (CText.over s) := by
  rw [ofString, h]
  rfl

/-- The first zero byte in the names of a service. -/
def ServiceId.nulPosition? (id : ServiceId) : Option Nat :=
  (CText.nulPosition? id.group).or (CText.nulPosition? id.name)

namespace ActiveService
variable {τ : Type} {n : Nat} {e : EntryPoints σ} {s : ActiveService (Traced σ)} (t : Traced σ)

def leaving (n : Nat) (s : ActiveService (Traced σ)) : List LibraryEvent :=
  s.session.elim [] fun x => [.left n s.context x.2]

def closing (n : Nat) (s : ActiveService (Traced σ)) : List LibraryEvent :=
  s.leaving n ++ [.destroyed n s.context]

theorem leave_adds (he : s.entry = e.traced n) :
    (s.leave t).1 = { s with session := none } ∧ t.Adds (s.leaving n) (s.leave t).2 := by
  obtain ⟨id, entry, context, _ | ⟨session, c⟩⟩ := s
  · exact ⟨rfl, .refl t⟩
  · cases he
    exact ⟨rfl, (Traced.Adds.refl t).log _ _⟩

theorem destroy_adds (he : s.entry = e.traced n) : t.Adds (s.closing n) (s.destroy t) := by
  obtain ⟨hs, ht⟩ := leave_adds t he
  have hdestroy : s.destroy t = s.entry.destroyService s.context (s.leave t).2 := by
    simp only [destroy, hs]
  rw [hdestroy, he]
  exact ht.log _ _

theorem create_of_nul {id : ServiceId} {p : Nat} (h : id.nulPosition? = some p)
    (entry : EntryPoints σ) (w : σ) : create entry id w = (.error (.nulInText p), w) := by
  unfold ServiceId.nulPosition? at h
  cases hg : CText.nulPosition? id.group with
  | some q =>
    rw [hg] at h
    cases h
    simp only [create, CText.ofString_of_some hg]
  | none =>
    rw [hg] at h
    simp only [create, CText.ofString_of_none hg, CText.ofString_of_some h]

theorem create_of_passes {id : ServiceId} (h : id.nulPosition? = none) :
    ∃ c t', create (e.traced n) id t = (.ok ⟨id, e.traced n, c, none⟩, t') ∧
      t.Adds [.created n (CText.over id.group) (CText.over id.name) c] t' := by
  obtain ⟨hg, hn⟩ := Option.or_eq_none_iff.mp h
  simp only [create, CText.ofString_of_none hg, CText.ofString_of_none hn]
  exact ⟨_, _, rfl, (Traced.Adds.refl t).log _ _⟩

theorem enter_of_nul {s : ActiveService σ} {session : String} {p : Nat}
    (hne : s.session? ≠ some session) (h : CText.nulPosition? session = some p) (w : σ) :
    s.enter session w = (.error (.nulInText p), s, w) := by
  simp only [enter, if_neg hne, CText.ofString_of_some h]

theorem enter_of_passes (he : s.entry = e.traced n) {session : String}
    (hne : s.session? ≠ some session) (h : CText.nulPosition? session = none) :
    ∃ c t', s.enter session t = (.ok (), { s with session := some (session, c) }, t') ∧
      t.Adds (s.leaving n ++ [.entered n s.context (CText.over session) c]) t' := by
  obtain ⟨hs, ht⟩ := leave_adds t he
  unfold enter
  rw [if_neg hne, CText.ofString_of_none h]
  simp only [hs, he]
  exact ⟨_, _, rfl, ht.log _ _⟩

theorem call_of_nul {s : ActiveService σ} {x : String × Context} (hs : s.session = some x)
    {method : String} {p : Nat} (h : CText.nulPosition? method = some p) (host : TaskHost τ)
    (arguments : Octets) (u : τ) (w : σ) :
    s.call host method arguments u w = (.error (.nulInText p), u, w) := by
  simp only [call, hs, CText.ofString_of_some h]

theorem call_of_passes (he : s.entry = e.traced n) {id : String} {c : Context}
    (hs : s.session = some (id, c)) {method : String} (h : CText.nulPosition? method = none)
    (host : TaskHost τ) (arguments : Octets) (u : τ) :
    ∃ answer u' t', s.call host method arguments u t = (answer, u', t') ∧
      t.Adds [.called n s.context c (CText.over method) (.ofOctets arguments)] t' := by
  simp only [call, hs, CText.ofString_of_none h, he]
  exact ⟨_, _, _, rfl, (Traced.Adds.refl t).log _ _⟩

end ActiveService
end TaskGrid
