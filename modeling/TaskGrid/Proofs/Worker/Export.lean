import TaskGrid.Proofs.Text.Utf8
import TaskGrid.Proofs.Worker.Tenure
import TaskGrid.Worker.Service

/-! Exported services as a worker meets them: behind the contexts that are in use there are states that the
service can come to by its own functions. -/
namespace TaskGrid

variable {σ τ ω α β : Type}

@[simp] theorem CText.read_over (s : String) : (CText.over s).read = s := Utf8.decodeLossy_encode s

@[simp] theorem Data.read_ofOctets (bytes : Octets) : (Data.ofOctets bytes).read = bytes :=
  List.take_length

/-- A service that a library exports. What it keeps and the world around it are a part of `σ`. -/
structure Export (σ ω α β : Type) where
  service : Service ω α β
  get : σ → Memory α β × ω
  set : σ → Memory α β × ω → σ
  get_set : ∀ w part, get (set w part) = part

def Export.entry (e : Export σ ω α β) : EntryPoints σ := e.service.entryPoints.within e.get e.set

/-- The states that a service can come to, with the session that it is in. -/
inductive Service.Reached (s : Service ω α β) (group name : String) :
    α → Option (String × β) → Prop where
  | created {held : α} {w w' : ω} (h : s.create group name w = (.ok held, w')) :
    Reached s group name held none
  | entered {held held' : α} {session : String} {state : β} {w w' : ω}
    (h : Reached s group name held none) (hs : s.enter held session w = (.ok state, held', w')) :
    Reached s group name held' (some (session, state))
  | refused {held held' : α} {session : String} {panic : Panic} {w w' : ω}
    (h : Reached s group name held none) (hs : s.enter held session w = (.error panic, held', w')) :
    Reached s group name held' none
  | left {held : α} {session : String} {state : β}
    (h : Reached s group name held (some (session, state))) (w : ω) :
    Reached s group name (s.leave held state w).2.1 none
  | called {held : α} {session : String} {state : β}
    (h : Reached s group name held (some (session, state))) (method : String) (input : Octets)
    (w : ω) :
    Reached s group name (s.call held state method input w).2.1
      (some (session, (s.call held state method input w).2.2.1))

/-- What the contexts in use stand for. One is null after a panic, or if there was no service to enter. -/
inductive Service.Live (s : Service ω α β) (group name : String) (m : Memory α β) :
    Context → Option (String × Context) → Prop where
  | unmade {w : ω} (h : (s.create group name w).1.isOk = false) : Live s group name m none none
  | absent {w : ω} (h : (s.create group name w).1.isOk = false) (session : String) :
    Live s group name m none (some (session, none))
  | made {c : Nat} {held : α} (hc : m.services.get? c = some held)
    (h : s.Reached group name held none) : Live s group name m (some c) none
  | unopened {c : Nat} {held before : α} {session : String} {w : ω}
    (hc : m.services.get? c = some held) (h : s.Reached group name held none)
    (hbefore : s.Reached group name before none) (hs : (s.enter before session w).1.isOk = false) :
    Live s group name m (some c) (some (session, none))
  | opened {c x : Nat} {held : α} {session : String} {state : β}
    (hc : m.services.get? c = some held) (hx : m.sessions.get? x = some state)
    (h : s.Reached group name held (some (session, state))) :
    Live s group name m (some c) (some (session, some x))

namespace Memory

variable {m : Memory α β}

theorem service?_of_get? {c : Nat} {held : α} (h : m.services.get? c = some held) :
    m.service? (some c) = some (c, held) := by
  simp [service?, h]

theorem session?_of_get? {x : Nat} {state : β} (h : m.sessions.get? x = some state) :
    m.session? (some x) = some (x, state) := by
  simp [session?, h]

end Memory

theorem Table.get?_insert_self {κ ν : Type} [DecidableEq κ] (t : Table κ ν) (k : κ) (v : ν) :
    (t.insert k v).get? k = some v := by
  simp

namespace Service

variable {s : Service ω α β} {group name : String} {p : Memory α β × ω} {m : Memory α β}
  {service : Context}

theorem live_createAt (s : Service ω α β) (group name : String) (p : Memory α β × ω) :
    s.Live group name (s.createAt (CText.over group) (CText.over name) p).2.1
      (s.createAt (CText.over group) (CText.over name) p).1 none := by
  obtain ⟨m, v⟩ := p
  simp only [createAt, CText.read_over]
  rcases hr : s.create group name v with ⟨panic | held, v'⟩
  · exact .unmade (w := v) (by rw [hr]; rfl)
  · exact .made (Table.get?_insert_self ..) (.created hr)

theorem live_enterAt (h : s.Live group name p.1 service none) (session : String) :
    s.Live group name (s.enterAt service (CText.over session) p).2.1 service
      (some (session, (s.enterAt service (CText.over session) p).1)) := by
  obtain ⟨m, v⟩ := p
  cases h with
  | unmade h => exact .absent h session
  | @made c held hc h =>
    rcases hr : s.enter held session v with ⟨panic | state, held', v'⟩ <;>
      simp only [enterAt, Memory.service?_of_get? hc, CText.read_over, hr]
    · refine .unopened (w := v) ?_ (.refused h hr) h (by rw [hr]; rfl)
      exact Table.get?_insert_self ..
    · refine .opened ?_ ?_ (.entered h hr)
      · exact Table.get?_insert_self ..
      · exact Table.get?_insert_self ..

theorem live_leaveAt {x : Context} {session : String}
    (h : s.Live group name p.1 service (some (session, x))) :
    s.Live group name (s.leaveAt service x p).1 service none := by
  obtain ⟨m, v⟩ := p
  cases h with
  | absent h => exact .unmade h
  | unopened hc h hbefore hs =>
    simp only [leaveAt, Memory.service?_of_get? hc]
    exact .made hc h
  | opened hc hx h =>
    simp only [leaveAt, Memory.service?_of_get? hc, Memory.session?_of_get? hx]
    exact .made (Table.get?_insert_self ..) (.left h v)

theorem callAt_of_get? {c x : Nat} {held : α} {state : β} (hc : m.services.get? c = some held)
    (hx : m.sessions.get? x = some state) (method : CText) (input : Data) (v : ω) :
    s.callAt (some c) (some x) method input true (m, v) =
      (reply (settle method.read (s.call held state method.read input.read v).1),
        { m with
          services := m.services.insert c (s.call held state method.read input.read v).2.1
          sessions := m.sessions.insert x (s.call held state method.read input.read v).2.2.1 },
        (s.call held state method.read input.read v).2.2.2) := by
  simp only [callAt, if_true, Memory.service?_of_get? hc, Memory.session?_of_get? hx]

theorem callAt_of_null (s : Service ω α β) (service : Context) (method : CText) (input : Data)
    (p : Memory α β × ω) :
    s.callAt service none method input true p = (reply (.error notInitialized), p) := by
  obtain ⟨m, v⟩ := p
  simp only [callAt, if_true]
  cases m.service? service <;> rfl

theorem live_callAt {x : Context} {session : String}
    (h : s.Live group name p.1 service (some (session, x))) (method : CText) (input : Data) :
    s.Live group name (s.callAt service x method input true p).2.1 service (some (session, x)) := by
  obtain ⟨m, v⟩ := p
  cases h with
  | absent h =>
    rw [callAt_of_null]
    exact .absent h session
  | unopened hc h hbefore hs =>
    rw [callAt_of_null]
    exact .unopened hc h hbefore hs
  | opened hc hx h =>
    rw [callAt_of_get? hc hx]
    exact .opened (Table.get?_insert_self ..) (Table.get?_insert_self ..) (.called h _ _ v)

end Service

namespace Export

variable (e : Export σ ω α β) (service : Context) (w : σ)

theorem createService_entry (group name : CText) : e.entry.createService group name w =
    ((e.service.createAt group name (e.get w)).1,
      e.set w (e.service.createAt group name (e.get w)).2) :=
  rfl

theorem enterSession_entry (session : CText) : e.entry.enterSession service session w =
    ((e.service.enterAt service session (e.get w)).1,
      e.set w (e.service.enterAt service session (e.get w)).2) :=
  rfl

theorem leaveSession_entry (session : Context) : e.entry.leaveSession service session w =
    e.set w (e.service.leaveAt service session (e.get w)) :=
  rfl

theorem call_entry (session : Context) (method : CText) (input : Data) :
    e.entry.call service session method input true w =
      ((e.service.callAt service session method input true (e.get w)).1,
        e.set w (e.service.callAt service session method input true (e.get w)).2) :=
  rfl

end Export

/-- The contexts of an exported service in its tenure are not stale, whatever else the library keeps. -/
theorem EntryPoints.Tenure.live {e : Export σ ω α β} {id : ServiceId} {c : Context}
    {session : Option (String × Context)} {w : σ} (h : e.entry.Tenure id c session w) :
    e.service.Live id.group id.name (e.get w).1 c session := by
  induction h with
  | created w hid =>
    rw [e.createService_entry, e.get_set]
    exact Service.live_createAt e.service _ _ (e.get w)
  | entered h session hsession ih =>
    rw [e.enterSession_entry, e.get_set]
    exact Service.live_enterAt ih session
  | left h ih =>
    rw [e.leaveSession_entry, e.get_set]
    exact Service.live_leaveAt ih
  | called h method input ih =>
    rw [e.call_entry, e.get_set]
    exact Service.live_callAt ih method input

end TaskGrid
