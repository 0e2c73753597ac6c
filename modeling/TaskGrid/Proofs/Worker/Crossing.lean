import TaskGrid.Proofs.Worker.Unwinding
import TaskGrid.Proofs.Worker.Watching

/-! A panic that gets past the boundary ends the process. What a worker does with a wild service is told by a service
whose errors and panics run no code, in a world that ends with such a panic. -/
namespace TaskGrid

variable {σ ω α β γ : Type}

/-- Something in a process that a panic ends. What nobody is left to see is `unseen`. -/
def Unwinding.fatal (x : Unwinding σ γ) (unseen : γ) : Except Panic σ → γ × Except Panic σ
  | .error panic => (unseen, .error panic)
  | .ok p => match x p with
    | (.ok a, p) => (a, .ok p)
    | (.error panic, _) => (unseen, .error panic)

@[simp] theorem Unwinding.fatal_ended (x : Unwinding σ γ) (unseen : γ) (panic : Panic) :
    x.fatal unseen (.error panic) = (unseen, .error panic) :=
  rfl

theorem Unwinding.fatal_snd (x : Unwinding σ γ) (unseen : γ) (p : σ) :
    (x.fatal unseen (.ok p)).2 = (x p).1.map fun _ => (x p).2 := by
  simp only [fatal]
  rcases x p with ⟨panic | a, q⟩ <;> rfl

/-- The entry points in a process that ends with the first panic that gets past them. -/
def UnwindingEntryPoints.fatal (e : UnwindingEntryPoints σ) : EntryPoints (Except Panic σ) where
  createService group name := Unwinding.fatal (e.createService group name) none
  destroyService service p := (Unwinding.fatal (e.destroyService service) () p).2
  enterSession service session := Unwinding.fatal (e.enterSession service session) none
  leaveSession service session p := (Unwinding.fatal (e.leaveSession service session) () p).2
  call service session method input callback :=
    Unwinding.fatal (e.call service session method input callback) ⟨[], 1⟩

namespace Service

/-- The functions of a service keep a property of the world. -/
structure Preserves (s : Service ω α β) (Q : ω → Prop) : Prop where
  create : ∀ {w} group name, Q w → Q (s.create group name w).2
  enter : ∀ {w} held session, Q w → Q (s.enter held session w).2.2
  leave : ∀ {w} held state, Q w → Q (s.leave held state w).2.2
  call : ∀ {w} held state method input, Q w → Q (s.call held state method input w).2.2.2
  release : ∀ {w} held, Q w → Q (s.release held w).2

variable {s : Service ω α β} {Q : ω → Prop} {p : Memory α β × ω}

theorem Preserves.createAt (h : s.Preserves Q) (group name : CText) (hp : Q p.2) :
    Q (s.createAt group name p).2.2 := by
  obtain ⟨m, w⟩ := p
  have hmade := h.create group.read name.read hp
  rcases hr : s.create group.read name.read w with ⟨panic | held, w'⟩ <;>
    simpa [Service.createAt, hr] using hmade

theorem Preserves.destroyAt (h : s.Preserves Q) (service : Context) (hp : Q p.2) :
    Q (s.destroyAt service p).2 := by
  obtain ⟨m, w⟩ := p
  cases hs : m.service? service with
  | none => simpa [Service.destroyAt, hs] using hp
  | some x => simpa [Service.destroyAt, hs] using h.release x.2 hp

/-- What the functions keep of the world, a worker keeps. -/
theorem Preserves.keeps (h : s.Preserves Q) : s.entryPoints.Keeps fun _ _ p => Q p.2 where
  enter {c p} session hp := by
    obtain ⟨m, w⟩ := p
    cases hs : m.service? c with
    | none => simpa [entryPoints, enterAt, hs] using hp
    | some x =>
      have hentered := h.enter x.2 session hp
      rcases hr : s.enter x.2 session w with ⟨panic | state, held, w'⟩ <;>
        simpa [entryPoints, enterAt, hs, hr] using hentered
  call {c x p} _ method input hp := by
    obtain ⟨m, w⟩ := p
    cases hs : m.service? c with
    | none => simpa [entryPoints, callAt, hs] using hp
    | some y =>
      cases ht : m.session? x with
      | none => simpa [entryPoints, callAt, hs, ht] using hp
      | some z => simpa [entryPoints, callAt, hs, ht] using h.call y.2 z.2 method.read input.read hp
  leave {c x p} _ hp := by
    obtain ⟨m, w⟩ := p
    cases hs : m.service? c with
    | none => simpa [entryPoints, leaveAt, hs] using hp
    | some y =>
      cases ht : m.session? x with
      | none => simpa [entryPoints, leaveAt, hs, ht] using hp
      | some z => simpa [entryPoints, leaveAt, hs, ht] using h.leave y.2 z.2 hp

end Service

/-- What the functions keep of the world, a worker keeps for as long as it has the service. -/
theorem ActiveService.lifetime_preserves {s : Service ω α β} {Q : ω → Prop} (h : s.Preserves Q) {id : ServiceId}
    (hid : id.nulPosition? = none) (operations : List Operation) {p : Memory α β × ω} (hp : Q p.2) :
    Q (lifetime s.entryPoints id operations p).2 := by
  obtain ⟨a, -, -, -, q, hq, hlifetime⟩ := keeps_employ h.keeps hid operations
    (h.createAt (CText.over id.group) (CText.over id.name) hp)
  rw [hlifetime]
  exact h.destroyAt a.context hq

namespace WildService
open Service (Fault Thrown reply settle notInitialized createAt destroyAt enterAt leaveAt callAt)

/-- What was caught, once what it carries is dropped. -/
def dropping : Except (Thrown ω) γ → Unwinding ω (Except Panic γ)
  | .ok a => pure (.ok a)
  | .error thrown => (fun _ => .error thrown.panic) <$> thrown.drop

/-- The outcome of a method, once the text of its error is written. -/
def telling : Except (Thrown ω) (Except (Fault ω) Octets) → Unwinding ω (Except Panic (Except String Octets))
  | .ok (.ok output) => pure (.ok (.ok output))
  | .ok (.error fault) => (fun message => .ok (.error message)) <$> fault.write
  | .error thrown => dropping (.error thrown)

@[simp] theorem dropping_ok (a : γ) (w : ω) : dropping (.ok a) w = (.ok (.ok a), w) := rfl

@[simp] theorem dropping_error (thrown : Thrown ω) (w : ω) :
    (dropping (.error thrown) : Unwinding ω (Except Panic γ)) w =
      ((thrown.drop w).1.map fun _ => .error thrown.panic, (thrown.drop w).2) :=
  Throwing.map_run ..

@[simp] theorem telling_output (output : Octets) (w : ω) :
    telling (.ok (.ok output)) w = (.ok (.ok (.ok output)), w) :=
  rfl

@[simp] theorem telling_fault (fault : Fault ω) (w : ω) : telling (.ok (.error fault)) w =
    ((fault.write w).1.map fun message => .ok (.error message), (fault.write w).2) :=
  Throwing.map_run ..

@[simp] theorem telling_thrown (thrown : Thrown ω) : telling (.error thrown) = dropping (.error thrown) := rfl

/-- The end of a world, if there is a panic. -/
def ending (x : Unwinding ω (Except Panic γ)) (w : ω) : Except Panic γ × Except Panic ω :=
  match x w with
  | (.ok a, w) => (a, .ok w)
  | (.error panic, _) => (.error panic, .error panic)

variable (s : WildService ω α β)

/-- The service in a world that ends with the first panic that nothing catches. -/
def mortal : Service (Except Panic ω) α β where
  create group name
    | .error panic => (.error panic, .error panic)
    | .ok w =>
      let (made, w) := s.create group name w
      ending (dropping made) w
  enter held session
    | .error panic => (.error panic, held, .error panic)
    | .ok w =>
      let (entered, held, w) := s.enter held session w
      let (entered, w) := ending (dropping entered) w
      (entered, held, w)
  leave held state
    | .error panic => (.error panic, held, .error panic)
    | .ok w =>
      let (left, held, w) := s.leave held state w
      let (left, w) := ending (dropping left) w
      (left, held, w)
  call held state method input
    | .error panic => (.error panic, held, state, .error panic)
    | .ok w =>
      let (outcome, held, state, w) := s.call held state method input w
      let (outcome, w) := ending (telling outcome) w
      (outcome, held, state, w)
  release held
    | .error panic => (.error panic, .error panic)
    | .ok w =>
      let (released, w) := s.release held w
      ending (dropping released) w

/-- What is left of memory and the world: nothing if the world ended. -/
def fate (p : Memory α β × Except Panic ω) : Except Panic (Memory α β × ω) := p.2.map fun w => (p.1, w)

@[simp] theorem fate_ok (m : Memory α β) (w : ω) : fate (m, .ok w) = .ok (m, w) := rfl

@[simp] theorem fate_ended (m : Memory α β) (panic : Panic) :
    fate (m, (.error panic : Except Panic ω)) = .error panic :=
  rfl

theorem isOk_fate (p : Memory α β × Except Panic ω) : (fate p).isOk = p.2.isOk := by
  obtain ⟨m, panic | w⟩ := p <;> rfl

theorem createService_fate (group name : CText) (p : Memory α β × Except Panic ω) :
    s.unwinding.fatal.createService group name (fate p) = (s.mortal.createAt group name p).map id fate := by
  obtain ⟨m, panic | w⟩ := p
  · rfl
  · rcases hr : s.create group.read name.read w with ⟨thrown | held, w'⟩
    · rcases hd : thrown.drop w' with ⟨panic | _, w''⟩ <;>
        simp [UnwindingEntryPoints.fatal, Unwinding.fatal, unwinding, creating, mortal, createAt, hr, hd,
          ending, Except.map]
    · simp [UnwindingEntryPoints.fatal, Unwinding.fatal, unwinding, creating, mortal, createAt, hr, ending]

theorem destroyService_fate (service : Context) (p : Memory α β × Except Panic ω) :
    s.unwinding.fatal.destroyService service (fate p) = fate (s.mortal.destroyAt service p) := by
  obtain ⟨m, panic | w⟩ := p
  · cases hs : m.service? service <;> simp [UnwindingEntryPoints.fatal, mortal, destroyAt, hs]
  · cases hs : m.service? service with
    | none => simp [UnwindingEntryPoints.fatal, Unwinding.fatal, unwinding, destroyAt, hs]
    | some x =>
      rcases hr : s.release x.2 w with ⟨thrown | held, w'⟩
      · rcases hd : thrown.drop w' with ⟨panic | _, w''⟩ <;>
          simp [UnwindingEntryPoints.fatal, Unwinding.fatal, unwinding, releasing, mortal, destroyAt, hs, hr, hd,
            ending, Except.map]
      · simp [UnwindingEntryPoints.fatal, Unwinding.fatal, unwinding, releasing, mortal, destroyAt, hs, hr, ending]

theorem enterSession_fate (service : Context) (session : CText) (p : Memory α β × Except Panic ω) :
    s.unwinding.fatal.enterSession service session (fate p) =
      (s.mortal.enterAt service session p).map id fate := by
  obtain ⟨m, panic | w⟩ := p
  · cases hs : m.service? service <;> simp [UnwindingEntryPoints.fatal, mortal, enterAt, hs]
  · cases hs : m.service? service with
    | none => simp [UnwindingEntryPoints.fatal, Unwinding.fatal, unwinding, enterAt, hs]
    | some x =>
      rcases hr : s.enter x.2 session.read w with ⟨thrown | held, kept, w'⟩
      · rcases hd : thrown.drop w' with ⟨panic | _, w''⟩ <;>
          simp [UnwindingEntryPoints.fatal, Unwinding.fatal, unwinding, entering, mortal, enterAt, hs, hr, hd,
            ending, Except.map]
      · simp [UnwindingEntryPoints.fatal, Unwinding.fatal, unwinding, entering, mortal, enterAt, hs, hr, ending]

theorem leaveSession_fate (service session : Context) (p : Memory α β × Except Panic ω) :
    s.unwinding.fatal.leaveSession service session (fate p) =
      fate (s.mortal.leaveAt service session p) := by
  obtain ⟨m, panic | w⟩ := p
  · cases hs : m.service? service <;> cases ht : m.session? session <;>
      simp [UnwindingEntryPoints.fatal, mortal, leaveAt, hs, ht]
  · cases hs : m.service? service with
    | none => simp [UnwindingEntryPoints.fatal, Unwinding.fatal, unwinding, leaveAt, hs]
    | some x =>
      cases ht : m.session? session with
      | none => simp [UnwindingEntryPoints.fatal, Unwinding.fatal, unwinding, leaveAt, hs, ht]
      | some y =>
        rcases hr : s.leave x.2 y.2 w with ⟨thrown | left, kept, w'⟩
        · rcases hd : thrown.drop w' with ⟨panic | _, w''⟩ <;>
            simp [UnwindingEntryPoints.fatal, Unwinding.fatal, unwinding, leaving, mortal, leaveAt, hs, ht, hr,
              hd, ending, Except.map]
        · simp [UnwindingEntryPoints.fatal, Unwinding.fatal, unwinding, leaving, mortal, leaveAt, hs, ht, hr, ending]

section
variable {s} {m : Memory α β} {service session : Context} {c x : Nat} {held : α} {state : β}

/-- A call that finds a service and a session reports what can be told of the method, or else panics. -/
theorem unwinding_call_of_service? (hc : m.service? service = some (c, held))
    (hx : m.session? session = some (x, state)) (method : CText) (input : Data) (w : ω) :
    let sent := s.call held state method.read input.read w
    let told := telling sent.1 sent.2.2.2
    s.unwinding.call service session method input true (m, w) =
      (told.1.map fun outcome => reply (settle method.read outcome),
        { m with
          services := m.services.insert c sent.2.1
          sessions := m.sessions.insert x sent.2.2.1 }, told.2) := by
  simp only
  rcases hr : s.call held state method.read input.read w with ⟨thrown | fault | output, held', state', w'⟩
  · rcases hd : thrown.drop w' with ⟨panic | _, w''⟩ <;>
      simp [unwinding, calling, hc, hx, hr, hd, settle, Except.map]
  · rcases hd : fault.write w' with ⟨panic | message, w''⟩ <;>
      simp [unwinding, calling, hc, hx, hr, hd, settle, Except.map]
  · simp [unwinding, calling, hc, hx, hr, settle, Except.map]

/-- Where there is no service or no session no method is called. -/
theorem unwinding_call_of_missing (h : m.service? service = none ∨ m.session? session = none)
    (method : CText) (input : Data) (w : ω) : s.unwinding.call service session method input true (m, w) =
      (.ok (reply (.error notInitialized)), m, w) := by
  rcases h with h | h
  · simp [unwinding, h]
  · cases hs : m.service? service <;> simp [unwinding, hs, h]

end

/-- What a call does to memory and the world. -/
theorem call_fate (service session : Context) (method : CText) (input : Data) (callback : Bool)
    (p : Memory α β × Except Panic ω) :
    (s.unwinding.fatal.call service session method input callback (fate p)).2 =
      fate (s.mortal.callAt service session method input callback p).2 := by
  obtain ⟨m, panic | w⟩ := p
  · cases callback with
    | false => rfl
    | true =>
      cases hs : m.service? service <;> cases ht : m.session? session <;>
        simp [UnwindingEntryPoints.fatal, mortal, callAt, hs, ht]
  · cases callback with
    | false => rfl
    | true =>
      cases hs : m.service? service with
      | none =>
        simp [UnwindingEntryPoints.fatal, Unwinding.fatal, unwinding_call_of_missing (.inl hs), callAt, hs]
      | some y =>
        cases ht : m.session? session with
        | none =>
          simp [UnwindingEntryPoints.fatal, Unwinding.fatal, unwinding_call_of_missing (.inr ht), callAt, hs, ht]
        | some z =>
          have hcall := unwinding_call_of_service? (s := s) hs ht method input w
          rcases hr : s.call y.2 z.2 method.read input.read w with ⟨outcome, held, state, w'⟩
          rw [hr] at hcall
          rcases hd : telling outcome w' with ⟨panic | told, w''⟩ <;>
            simp [UnwindingEntryPoints.fatal, Unwinding.fatal, hcall, mortal, callAt, ending, hs, ht, hr, hd,
              Except.map]

theorem mortal_follows : s.mortal.entryPoints.Follows fate s.unwinding.fatal where
  createService group name p := s.createService_fate group name p
  destroyService service p := s.destroyService_fate service p
  enterSession service session p := s.enterSession_fate service session p
  leaveSession service session p := s.leaveSession_fate service session p
  call service session method input callback p := s.call_fate service session method input callback p

/-- Nothing panics but what is caught: what was thrown is dropped, and errors are written, without a panic. -/
structure Tame : Prop where
  create : ∀ group name w, let r := s.create group name w
    (dropping r.1 r.2).1.isOk
  enter : ∀ held session w, let r := s.enter held session w
    (dropping r.1 r.2.2).1.isOk
  leave : ∀ held state w, let r := s.leave held state w
    (dropping r.1 r.2.2).1.isOk
  call : ∀ held state method input w, let r := s.call held state method input w
    (telling r.1 r.2.2.2).1.isOk
  release : ∀ held w, let r := s.release held w
    (dropping r.1 r.2).1.isOk

theorem isOk_ending (x : Unwinding ω (Except Panic γ)) (w : ω) : (ending x w).2.isOk = (x w).1.isOk := by
  unfold ending
  rcases x w with ⟨panic | a, w'⟩ <;> rfl

/-- The world of a tame service does not end. -/
theorem Tame.mortal_preserves {s : WildService ω α β} (h : s.Tame) :
    s.mortal.Preserves fun w => w.isOk where
  create {w} group name hw := by
    cases w with
    | error panic => cases hw
    | ok w => exact (isOk_ending _ _).trans (h.create group name w)
  enter {w} held session hw := by
    cases w with
    | error panic => cases hw
    | ok w => exact (isOk_ending _ _).trans (h.enter held session w)
  leave {w} held state hw := by
    cases w with
    | error panic => cases hw
    | ok w => exact (isOk_ending _ _).trans (h.leave held state w)
  call {w} held state method input hw := by
    cases w with
    | error panic => cases hw
    | ok w => exact (isOk_ending _ _).trans (h.call held state method input w)
  release {w} held hw := by
    cases w with
    | error panic => cases hw
    | ok w => exact (isOk_ending _ _).trans (h.release held w)

end WildService
end TaskGrid
