import TaskGrid.Proofs.Worker.Export

/-! Services that write down which of their values is made, used and given up, and workers that keep such a service
from its creation to its end. Writing down changes nothing. -/
namespace TaskGrid

variable {σ ρ τ ω α β : Type}

namespace Service

/-- What happens to the values of a service. A value goes by the number of the event that made it. An address that was
used is stale if it is not null and nothing is there. -/
inductive Event where
  | created (group name : String) (made : Except Panic Nat)
  | entered (service : Nat) (session : String) (made : Except Panic Nat)
  | called (service session : Nat) (method : String) (input : Octets)
    (outcome : Except Panic (Except String Octets))
  | left (service session : Nat) (outcome : Except Panic Unit)
  | released (service : Nat) (outcome : Except Panic Unit)
  | stale (address : Nat)

structure Watched (ω : Type) where
  world : ω
  events : List Event := []

namespace Watched

def log (w : Watched ω) (world : ω) (e : Event) : Watched ω := ⟨world, w.events ++ [e]⟩

/-- The use of a context. -/
def touch {ν : Type} (kept : Table Nat ν) (c : Context) (w : Watched ω) : Watched ω :=
  match c with
  | none => w
  | some address => if (kept.get? address).isSome then w else w.log w.world (.stale address)

theorem touch_of_get? {ν : Type} {kept : Table Nat ν} {address : Nat} {v : ν}
    (h : kept.get? address = some v) (w : Watched ω) : w.touch kept (some address) = w := by
  simp [touch, h]

end Watched

/-- The service with its values numbered. -/
def watched (s : Service ω α β) : Service (Watched ω) (Nat × α) (Nat × β) where
  create group name w :=
    let (made, world) := s.create group name w.world
    let n := w.events.length
    (made.map fun held => (n, held), w.log world (.created group name (made.map fun _ => n)))
  enter held session w :=
    let (made, kept, world) := s.enter held.2 session w.world
    let n := w.events.length
    (made.map fun state => (n, state), (held.1, kept),
      w.log world (.entered held.1 session (made.map fun _ => n)))
  leave held state w :=
    let (outcome, kept, world) := s.leave held.2 state.2 w.world
    (outcome, (held.1, kept), w.log world (.left held.1 state.1 outcome))
  call held state method input w :=
    let (outcome, kept, state', world) := s.call held.2 state.2 method input w.world
    (outcome, (held.1, kept), (state.1, state'),
      w.log world (.called held.1 state.1 method input outcome))
  release held w :=
    let (outcome, world) := s.release held.2 w.world
    (outcome, w.log world (.released held.1 outcome))

end Service

def Memory.forget (m : Memory (Nat × α) (Nat × β)) : Memory α β where
  services := m.services.map Prod.snd
  sessions := m.sessions.map Prod.snd
  next := m.next

section
variable (m : Memory (Nat × α) (Nat × β))

theorem Memory.service?_forget (c : Context) :
    m.forget.service? c = (m.service? c).map fun x => (x.1, x.2.2) := by
  cases c with
  | none => rfl
  | some address => cases h : m.services.get? address <;> simp [service?, forget, h]

theorem Memory.session?_forget (c : Context) :
    m.forget.session? c = (m.session? c).map fun x => (x.1, x.2.2) := by
  cases c with
  | none => rfl
  | some address => cases h : m.sessions.get? address <;> simp [session?, forget, h]

end

def Service.Watched.forget (p : Memory (Nat × α) (Nat × β) × Watched ω) : Memory α β × ω :=
  (p.1.forget, p.2.world)

theorem Service.Watched.forget_touch {ν : Type} (m : Memory (Nat × α) (Nat × β)) (kept : Table Nat ν)
    (c : Context) (w : Watched ω) : forget (m, w.touch kept c) = forget (m, w) := by
  unfold touch
  split
  · rfl
  · split <;> rfl

/-- One library gives the contexts that another gives, and does to the images of states what that does to the
states. The replies to calls may differ. -/
structure EntryPoints.Follows (e : EntryPoints σ) (f : σ → ρ) (d : EntryPoints ρ) : Prop where
  createService : ∀ group name w,
    d.createService group name (f w) = (e.createService group name w).map id f
  destroyService : ∀ service w, d.destroyService service (f w) = f (e.destroyService service w)
  enterSession : ∀ service session w,
    d.enterSession service session (f w) = (e.enterSession service session w).map id f
  leaveSession : ∀ service session w,
    d.leaveSession service session (f w) = f (e.leaveSession service session w)
  call : ∀ service session method input callback w,
    (d.call service session method input callback (f w)).2 =
      f (e.call service session method input callback w).2

theorem EntryPoints.Follows.trans {e : EntryPoints σ} {f : σ → ρ} {d : EntryPoints ρ} {g : ρ → τ}
    {c : EntryPoints τ} (he : e.Follows f d) (hd : d.Follows g c) : e.Follows (g ∘ f) c where
  createService group name w := by
    rw [Function.comp_apply, hd.createService, he.createService]
    rfl
  destroyService service w := by
    rw [Function.comp_apply, hd.destroyService, he.destroyService]
    rfl
  enterSession service session w := by
    rw [Function.comp_apply, hd.enterSession, he.enterSession]
    rfl
  leaveSession service session w := by
    rw [Function.comp_apply, hd.leaveSession, he.leaveSession]
    rfl
  call service session method input callback w := by
    rw [Function.comp_apply, hd.call, he.call]
    rfl

namespace Service
variable (s : Service ω α β) (p : Memory (Nat × α) (Nat × β) × Watched ω)

theorem createAt_forget (group name : CText) : s.createAt group name (Watched.forget p) =
    (s.watched.createAt group name p).map id Watched.forget := by
  obtain ⟨m, w⟩ := p
  rcases hr : s.create group.read name.read w.world with ⟨panic | held, world⟩ <;>
    simp [createAt, watched, Watched.forget, hr, Except.map, Watched.log, Memory.addService, Memory.forget]

theorem destroyAt_forget (service : Context) : s.destroyAt service (Watched.forget p) =
    Watched.forget (s.watched.destroyAt service p) := by
  obtain ⟨m, w⟩ := p
  cases hs : m.service? service with
  | none => simp only [destroyAt, Watched.forget, Memory.service?_forget, hs, Option.map_none]
  | some x =>
    simp only [destroyAt, Watched.forget, Memory.service?_forget, hs, Option.map_some]
    simp [watched, Watched.log, Memory.forget]

theorem enterAt_forget (service : Context) (session : CText) :
    s.enterAt service session (Watched.forget p) =
      (s.watched.enterAt service session p).map id Watched.forget := by
  obtain ⟨m, w⟩ := p
  cases hs : m.service? service with
  | none => simp [enterAt, Watched.forget, Memory.service?_forget, hs]
  | some x =>
    simp only [enterAt, Watched.forget, Memory.service?_forget, hs, Option.map_some]
    rcases hr : s.enter x.2.2 session.read w.world with ⟨panic | state, held, world⟩ <;>
      simp [watched, hr, Except.map, Watched.log, Watched.forget, Memory.addSession, Memory.forget]

theorem leaveAt_forget (service session : Context) : s.leaveAt service session (Watched.forget p) =
    Watched.forget (s.watched.leaveAt service session p) := by
  obtain ⟨m, w⟩ := p
  simp only [leaveAt, Watched.forget, Memory.service?_forget, Memory.session?_forget]
  cases m.service? service with
  | none => rfl
  | some x =>
    cases m.session? session with
    | none => rfl
    | some y => simp [watched, Watched.log, Memory.forget]

theorem callAt_forget (service session : Context) (method : CText) (input : Data) (callback : Bool) :
    s.callAt service session method input callback (Watched.forget p) =
      (s.watched.callAt service session method input callback p).map id Watched.forget := by
  obtain ⟨m, w⟩ := p
  cases callback with
  | false => rfl
  | true =>
    simp only [callAt, Watched.forget, Memory.service?_forget, Memory.session?_forget, if_true]
    cases m.service? service with
    | none => rfl
    | some x =>
      cases m.session? session with
      | none => rfl
      | some y => simp [watched, Watched.log, Watched.forget, Memory.forget]

/-- The entry points of the service with its values numbered, which also write down what addresses they are given. -/
def audited : EntryPoints (Memory (Nat × α) (Nat × β) × Watched ω) where
  createService := s.watched.createAt
  destroyService service p := s.watched.destroyAt service (p.1, p.2.touch p.1.services service)
  enterSession service session p :=
    s.watched.enterAt service session (p.1, p.2.touch p.1.services service)
  leaveSession service session p := s.watched.leaveAt service session
    (p.1, (p.2.touch p.1.services service).touch p.1.sessions session)
  call service session method input callback p := s.watched.callAt service session method input callback
    (p.1, (p.2.touch p.1.services service).touch p.1.sessions session)

/-- Writing down what happens changes nothing. -/
theorem audited_follows : s.audited.Follows Watched.forget s.entryPoints where
  createService group name p := s.createAt_forget p group name
  destroyService service p := by
    rw [audited, ← s.destroyAt_forget, Watched.forget_touch]
    rfl
  enterSession service session p := by
    rw [audited, ← s.enterAt_forget, Watched.forget_touch]
    rfl
  leaveSession service session p := by
    rw [audited, ← s.leaveAt_forget, Watched.forget_touch, Watched.forget_touch]
    rfl
  call service session method input callback p := by
    have hcall := congrArg Prod.snd (s.callAt_forget (p.1, (p.2.touch p.1.services service).touch
      p.1.sessions session) service session method input callback)
    rw [Watched.forget_touch, Watched.forget_touch] at hcall
    exact hcall

end Service

/-- Entering, calling and leaving keep a property of the contexts in use and the world. -/
structure EntryPoints.Keeps (e : EntryPoints σ)
    (P : Context → Option (String × Context) → σ → Prop) : Prop where
  enter : ∀ {c w} (session : String), P c none w →
    P c (some (session, (e.enterSession c (CText.over session) w).1))
      (e.enterSession c (CText.over session) w).2
  call : ∀ {c x w} {session : String} (method : CText) (input : Data), P c (some (session, x)) w →
    P c (some (session, x)) (e.call c x method input true w).2
  leave : ∀ {c x w} {session : String}, P c (some (session, x)) w → P c none (e.leaveSession c x w)

namespace ActiveService

inductive Operation : Type 1 where
  | enter (session : String)
  | call {τ : Type} (host : TaskHost τ) (method : String) (arguments : Octets) (t : τ)

def operate (p : ActiveService σ × σ) : Operation → ActiveService σ × σ
  | .enter session => (p.1.enter session p.2).2
  | .call host method arguments t => (p.1, (p.1.call host method arguments t p.2).2.2)

def run (operations : List Operation) (p : ActiveService σ × σ) : ActiveService σ × σ :=
  operations.foldl operate p

def employ (entry : EntryPoints σ) (id : ServiceId) (operations : List Operation) (w : σ) :
    Except WorkerError (ActiveService σ) × σ :=
  match create entry id w with
  | (.error e, w) => (.error e, w)
  | (.ok s, w) =>
    let (s, w) := run operations (s, w)
    (.ok s, w)

/-- All that is done with a service, from its creation to its end. -/
def lifetime (entry : EntryPoints σ) (id : ServiceId) (operations : List Operation) (w : σ) : σ :=
  match employ entry id operations w with
  | (.error _, w) => w
  | (.ok s, w) => s.destroy w

/-- The same service in another library. -/
def within (d : EntryPoints ρ) (s : ActiveService σ) : ActiveService ρ where
  id := s.id
  entry := d
  context := s.context
  session := s.session

theorem create_entry {entry : EntryPoints σ} {id : ServiceId} {s : ActiveService σ} {w : σ}
    (h : (create entry id w).1 = .ok s) : s.entry = entry := by
  unfold create at h
  split at h
  · cases h
  · cases h
  · cases h
    rfl

theorem leave_fst (s : ActiveService σ) (w : σ) : (s.leave w).1 = { s with session := none } := by
  obtain ⟨id, entry, context, _ | x⟩ := s <;> rfl

theorem enter_entry (s : ActiveService σ) (session : String) (w : σ) :
    (s.enter session w).2.1.entry = s.entry := by
  unfold enter
  split
  · rfl
  · split
    · rfl
    · simp only [leave_fst]

section
variable {e : EntryPoints σ} {P : Context → Option (String × Context) → σ → Prop}
  {s : ActiveService σ} {w : σ}

theorem keeps_leave (h : e.Keeps P) (hs : s.entry = e) (hw : P s.context s.session w) :
    P s.context none (s.leave w).2 := by
  obtain ⟨id, entry, context, _ | ⟨session, x⟩⟩ := s
  · exact hw
  · cases hs
    exact h.leave hw

theorem keeps_enter (h : e.Keeps P) (hs : s.entry = e) (hw : P s.context s.session w)
    (session : String) : P (s.enter session w).2.1.context (s.enter session w).2.1.session
      (s.enter session w).2.2 := by
  have hleft := keeps_leave h hs hw
  unfold enter
  split
  · exact hw
  · cases hp : CText.nulPosition? session with
    | some p =>
      rw [CText.ofString_of_some hp]
      exact hw
    | none =>
      simp only [CText.ofString_of_none hp, leave_fst, hs]
      exact h.enter session hleft

theorem keeps_call (h : e.Keeps P) (hs : s.entry = e) (hw : P s.context s.session w)
    (host : TaskHost τ) (method : String) (arguments : Octets) (u : τ) :
    P s.context s.session (s.call host method arguments u w).2.2 := by
  obtain ⟨id, entry, context, _ | ⟨session, x⟩⟩ := s
  · exact hw
  · cases hs
    unfold call
    cases CText.ofString method with
    | error cause => exact hw
    | ok name => exact h.call name (.ofOctets arguments) hw

/-- What each operation keeps, a whole run keeps. -/
theorem keeps_run (h : e.Keeps P) (operations : List Operation) {p : ActiveService σ × σ}
    (hs : p.1.entry = e) (hp : P p.1.context p.1.session p.2) :
    (run operations p).1.entry = e ∧
      P (run operations p).1.context (run operations p).1.session (run operations p).2 := by
  induction operations generalizing p with
  | nil => exact ⟨hs, hp⟩
  | cons o rest ih =>
    unfold run at ih ⊢
    rw [List.foldl_cons]
    cases o with
    | enter session => exact ih ((p.1.enter_entry session p.2).trans hs) (keeps_enter h hs hp session)
    | call host method arguments u =>
      exact ih (p := operate p (.call host method arguments u)) hs
        (keeps_call h hs hp host method arguments u)

end

theorem employ_of_passes {id : ServiceId} (hid : id.nulPosition? = none) (e : EntryPoints σ)
    (operations : List Operation) (w : σ) :
    let made := e.createService (CText.over id.group) (CText.over id.name) w
    let p := run operations (⟨id, e, made.1, none⟩, made.2)
    employ e id operations w = (.ok p.1, p.2) := by
  obtain ⟨hgroup, hname⟩ := Option.or_eq_none_iff.mp hid
  simp only [employ, create, CText.ofString_of_none hgroup, CText.ofString_of_none hname]

/-- What creation brings about, a worker keeps until it destroys the service. -/
theorem keeps_employ {e : EntryPoints σ} {P : Context → Option (String × Context) → σ → Prop}
    (h : e.Keeps P) {id : ServiceId} (hid : id.nulPosition? = none) (operations : List Operation) {w : σ}
    (hmade : let made := e.createService (CText.over id.group) (CText.over id.name) w
      P made.1 none made.2) :
    ∃ a q, employ e id operations w = (.ok a, q) ∧ P a.context a.session q ∧
      ∃ q', P a.context none q' ∧ lifetime e id operations w = e.destroyService a.context q' := by
  have hemploy := employ_of_passes hid e operations w
  obtain ⟨hentry, hrun⟩ := keeps_run h operations
    (p := (⟨id, e, (e.createService (CText.over id.group) (CText.over id.name) w).1, none⟩,
      (e.createService (CText.over id.group) (CText.over id.name) w).2)) rfl hmade
  simp only at hemploy
  generalize run operations _ = p at hemploy hentry hrun
  refine ⟨p.1, p.2, hemploy, hrun, (p.1.leave p.2).2, keeps_leave h hentry hrun, ?_⟩
  simp only [lifetime, hemploy, destroy, leave_fst, hentry]

section
variable {e : EntryPoints σ} {f : σ → ρ} {d : EntryPoints ρ} {s : ActiveService σ}

theorem create_within (h : e.Follows f d) (id : ServiceId) (w : σ) :
    create d id (f w) = (create e id w).map (Except.map (within d)) f := by
  unfold create
  split
  · rfl
  · rfl
  · rw [h.createService]
    rfl

theorem leave_within (h : e.Follows f d) (hs : s.entry = e) (w : σ) :
    (s.within d).leave (f w) = (s.leave w).map (within d) f := by
  obtain ⟨id, entry, context, _ | ⟨session, x⟩⟩ := s
  · rfl
  · cases hs
    simp only [leave, within, h.leaveSession]
    rfl

theorem enter_within (h : e.Follows f d) (hs : s.entry = e) (session : String) (w : σ) :
    (s.within d).enter session (f w) =
      ((s.enter session w).1, (s.enter session w).2.1.within d, f (s.enter session w).2.2) := by
  have hsession : (s.within d).session? = s.session? := rfl
  have hentry : (s.leave w).1.entry = s.entry := by rw [leave_fst]
  have hleave := leave_within h hs w
  unfold enter
  rw [hsession]
  split
  · rfl
  · split
    · rfl
    · rw [hleave]
      generalize s.leave w = left at hentry
      obtain ⟨s', w'⟩ := left
      cases hentry.trans hs
      simp only [Prod.map, within, h.enterSession]
      rfl

theorem call_within (h : e.Follows f d) (hs : s.entry = e) (host : TaskHost τ) (method : String)
    (arguments : Octets) (u : τ) (w : σ) : ((s.within d).call host method arguments u (f w)).2.2 =
      f (s.call host method arguments u w).2.2 := by
  obtain ⟨id, entry, context, _ | x⟩ := s
  · rfl
  · cases hs
    simp only [call, within]
    cases CText.ofString method with
    | error cause => rfl
    | ok name => exact h.call context x.2 name (.ofOctets arguments) true w

theorem destroy_within (h : e.Follows f d) (hs : s.entry = e) (w : σ) :
    (s.within d).destroy (f w) = f (s.destroy w) := by
  have hentry : (s.leave w).1.entry = s.entry := by rw [leave_fst]
  unfold destroy
  rw [leave_within h hs]
  generalize s.leave w = left at hentry
  obtain ⟨s', w'⟩ := left
  cases hentry.trans hs
  exact h.destroyService s'.context w'

theorem run_within (h : e.Follows f d) (operations : List Operation) {p : ActiveService σ × σ}
    (hp : p.1.entry = e) : run operations (p.map (within d) f) = (run operations p).map (within d) f ∧
      (run operations p).1.entry = e := by
  induction operations generalizing p with
  | nil => exact ⟨rfl, hp⟩
  | cons o rest ih =>
    obtain ⟨s, w⟩ := p
    unfold run at ih ⊢
    rw [List.foldl_cons, List.foldl_cons]
    cases o with
    | enter session =>
      have hentry := (s.enter_entry session w).trans hp
      have henter := enter_within h hp session w
      simp only [operate, Prod.map] at henter ⊢
      rw [henter]
      exact ih hentry
    | call host method arguments t =>
      have hcall := call_within h hp host method arguments t w
      simp only [operate, Prod.map] at hcall ⊢
      rw [hcall]
      exact ih (p := (s, (s.call host method arguments t w).2.2)) hp

/-- In the other library a worker does the same. -/
theorem employ_within (h : e.Follows f d) (id : ServiceId) (operations : List Operation) (w : σ) :
    employ d id operations (f w) = (employ e id operations w).map (Except.map (within d)) f := by
  have hentry : ∀ s, (create e id w).1 = .ok s → s.entry = e := fun _ hs => create_entry hs
  unfold employ
  rw [create_within h]
  generalize create e id w = made at hentry
  obtain ⟨_ | s, w'⟩ := made
  · rfl
  · obtain ⟨hrun, -⟩ := run_within h operations (p := (s, w')) (hentry s rfl)
    simp only [Prod.map, Except.map] at hrun ⊢
    rw [hrun]

theorem lifetime_within (h : e.Follows f d) (id : ServiceId) (operations : List Operation) (w : σ) :
    lifetime d id operations (f w) = f (lifetime e id operations w) := by
  have hentry : ∀ s, (employ e id operations w).1 = .ok s → s.entry = e := by
    intro s hs
    unfold employ at hs
    rcases hmade : create e id w with ⟨_ | s', w'⟩
    · rw [hmade] at hs
      cases hs
    · rw [hmade] at hs
      cases hs
      have hs' : s'.entry = e := create_entry (w := w) (by rw [hmade])
      exact (run_within h operations (p := (s', w')) hs').2
  unfold lifetime
  rw [employ_within h]
  generalize employ e id operations w = employed at hentry
  obtain ⟨_ | s, w'⟩ := employed
  · rfl
  · exact destroy_within h (hentry s rfl) w'

end
end ActiveService
end TaskGrid
