import TaskGrid.Worker.Service

/-! The bodies of the exported entry points with their panics in sight. Each may unwind out of a function of the
service, where it is caught, but also out of what follows: the error of a method is written and dropped, and what a
panic carries is dropped, with nothing around it that catches. -/
namespace TaskGrid

/-- Something that may throw a `π`; what it changed before stays changed. -/
abbrev Throwing (π σ α : Type) := ExceptT π (StateM σ) α

abbrev Unwinding (σ α : Type) := Throwing Panic σ α

/-- The panic that something ended in. -/
def Unwinding.panic? {α : Type} : Except Panic α → Option Panic
  | .ok _ => none
  | .error panic => some panic

namespace Throwing

variable {σ ω μ α γ π π' : Type}

/-- Catches what something throws. -/
def caught (x : Throwing π σ α) : Throwing π' σ (Except π α) := ExceptT.lift x.run

/-- Something that concerns the world only. -/
def aside (x : Throwing π ω α) : Throwing π (μ × ω) α := fun (m, w) => ((x w).1, m, (x w).2)

/-! What each part of a body does to a state. -/

@[simp] theorem pure_run (a : α) (p : σ) : (pure a : Throwing π σ α) p = (.ok a, p) := rfl

@[simp] theorem modifyGet_run (f : σ → α × σ) (p : σ) :
    (modifyGet f : Throwing π σ α) p = (.ok (f p).1, (f p).2) :=
  rfl

@[simp] theorem modify_run (f : σ → σ) (p : σ) : (modify f : Throwing π σ PUnit) p = (.ok (), f p) :=
  rfl

@[simp] theorem get_bind_run (f : σ → Throwing π σ α) (p : σ) : (get >>= f) p = f p p := rfl

@[simp] theorem modify_bind_run (g : σ → σ) (f : PUnit → Throwing π σ α) (p : σ) :
    (modify g >>= f) p = f () (g p) :=
  rfl

/-- What is thrown goes no further than where it is caught. -/
@[simp] theorem caught_bind_run (x : Throwing π σ α) (f : Except π α → Throwing π' σ γ) (p : σ) :
    (x.caught >>= f) p = f (x p).1 (x p).2 :=
  rfl

@[simp] theorem aside_run (x : Throwing π ω α) (m : μ) (w : ω) :
    x.aside (m, w) = ((x w).1, m, (x w).2) :=
  rfl

/-- What a part throws that is not caught is what the whole throws. -/
@[simp] theorem map_run (f : α → γ) (x : Throwing π σ α) (p : σ) :
    (f <$> x) p = ((x p).1.map f, (x p).2) := by
  rw [← bind_pure_comp]
  change StateT.run (ExceptT.bindCont (m := StateM σ) (fun a => pure (f a)) (x p).1) (x p).2 = _
  rcases x p with ⟨thrown | a, p'⟩ <;> rfl

end Throwing

/-- The entry points of a library that may let a panic out. -/
@[ext] structure UnwindingEntryPoints (σ : Type) where
  createService : (group name : CText) → Unwinding σ Context
  destroyService : (service : Context) → Unwinding σ Unit
  enterSession : (service : Context) → (session : CText) → Unwinding σ Context
  leaveSession : (service session : Context) → Unwinding σ Unit
  call : (service session : Context) → (method : CText) → (input : Data) → (callback : Bool) →
    Unwinding σ CallReply

def EntryPoints.calm {σ : Type} (e : EntryPoints σ) : UnwindingEntryPoints σ where
  createService group name := do
    modifyGet (e.createService group name)
  destroyService service := do
    modify (e.destroyService service)
  enterSession service session := do
    modifyGet (e.enterSession service session)
  leaveSession service session := do
    modify (e.leaveSession service session)
  call service session method input callback := do
    modifyGet (e.call service session method input callback)

namespace Service

/-- An error as a method gives it: its own code writes the text, and may panic. So may its destructor, which runs
next and is the end of `write`. -/
structure Fault (ω : Type) where
  write : Unwinding ω String

/-- What a panic carries, with the destructor of it. -/
structure Thrown (ω : Type) where
  panic : Panic
  drop : Unwinding ω Unit

end Service

/-- A service whose errors and panics run code of their own. A panic on top of one that is not caught yet is left out:
it ends the process wherever it happens. -/
abbrev WildService (ω α β : Type) := Service ω α β (Service.Fault ω) (Service.Thrown ω)

namespace WildService
open Service (Fault Thrown reply notInitialized)

variable {ω α β : Type} (s : WildService ω α β)

/-! The service's own functions, on what is kept in memory. -/

def creating (group name : String) : Throwing (Thrown ω) (Memory α β × ω) α := fun (m, w) =>
  let (made, w) := s.create group name w
  (made, m, w)

def entering (address : Nat) (held : α) (session : String) :
    Throwing (Thrown ω) (Memory α β × ω) β := fun (m, w) =>
  let (entered, held, w) := s.enter held session w
  (entered, { m with services := m.services.insert address held }, w)

def leaving (address : Nat) (held : α) (state : β) :
    Throwing (Thrown ω) (Memory α β × ω) Unit := fun (m, w) =>
  let (left, held, w) := s.leave held state w
  (left, { m with services := m.services.insert address held }, w)

def calling (address at' : Nat) (held : α) (state : β) (method : String) (input : Octets) :
    Throwing (Thrown ω) (Memory α β × ω) (Except (Fault ω) Octets) := fun (m, w) =>
  let (outcome, held, state, w) := s.call held state method input w
  (outcome,
    { m with
      services := m.services.insert address held
      sessions := m.sessions.insert at' state }, w)

def releasing (held : α) : Throwing (Thrown ω) (Memory α β × ω) Unit := fun (m, w) =>
  let (released, w) := s.release held w
  (released, m, w)

/-- The entry points as they are exported. What was thrown is dropped where the arm that caught it ends. -/
def unwinding : UnwindingEntryPoints (Memory α β × ω) where
  createService group name := do
    match ← (s.creating group.read name.read).caught with
    | .ok held => modifyGet fun (m, w) =>
      let (context, m) := m.addService held
      (context, m, w)
    | .error thrown =>
      thrown.drop.aside
      return none
  destroyService service := do
    let (m, _) ← get
    match m.service? service with
    | none => return
    | some (address, held) =>
      modify fun (m, w) => ({ m with services := m.services.erase address }, w)
      match ← (s.releasing held).caught with
      | .ok _ => return
      | .error thrown => thrown.drop.aside
  enterSession service session := do
    let (m, _) ← get
    match m.service? service with
    | none => return none
    | some (address, held) =>
      match ← (s.entering address held session.read).caught with
      | .ok state => modifyGet fun (m, w) =>
        let (context, m) := m.addSession state
        (context, m, w)
      | .error thrown =>
        thrown.drop.aside
        return none
  leaveSession service session := do
    let (m, _) ← get
    match m.service? service, m.session? session with
    | some (address, held), some (at', state) =>
      modify fun (m, w) => ({ m with sessions := m.sessions.erase at' }, w)
      match ← (s.leaving address held state).caught with
      | .ok _ => return
      | .error thrown => thrown.drop.aside
    | _, _ => return
  call service session method input callback := do
    if callback then
      let (m, _) ← get
      match m.service? service, m.session? session with
      | some (address, held), some (at', state) =>
        match ← (s.calling address at' held state method.read input.read).caught with
        | .ok (.ok output) => return reply (.ok output)
        | .ok (.error fault) =>
          let message ← fault.write.aside
          return reply (.error message)
        | .error thrown =>
          let message := "method " ++ method.read ++ " panicked: " ++ thrown.panic.message
          thrown.drop.aside
          return reply (.error message)
      | _, _ => return reply (.error notInitialized)
    else return ⟨[], 1⟩

end WildService

namespace Service
variable {ω α β : Type}

/-- What a panic carries if nothing comes of dropping it. -/
def Thrown.plain (panic : Panic) : Thrown ω where
  panic
  drop := pure ()

def Fault.plain (message : String) : Fault ω := ⟨pure message⟩

theorem mapError_ok {ε ε' : Type} (f : ε → ε') (a : α) : (Except.ok a).mapError f = .ok a := rfl

theorem mapError_error {ε ε' : Type} (f : ε → ε') (e : ε) :
    (Except.error e : Except ε α).mapError f = .error (f e) :=
  rfl

variable (s : Service ω α β)

/-- A service whose errors and panics run no code, among those whose do. -/
def wild : WildService ω α β where
  create group name w := ((s.create group name w).1.mapError .plain, (s.create group name w).2)
  enter held session w := ((s.enter held session w).1.mapError .plain, (s.enter held session w).2)
  leave held state w := ((s.leave held state w).1.mapError .plain, (s.leave held state w).2)
  call held state method input w :=
    (((s.call held state method input w).1.map fun outcome => outcome.mapError .plain).mapError .plain,
      (s.call held state method input w).2)
  release held w := ((s.release held w).1.mapError .plain, (s.release held w).2)

theorem wild_unwinding_createService (group name : CText) :
    s.wild.unwinding.createService group name = s.entryPoints.calm.createService group name := by
  funext ⟨m, w⟩
  rcases hr : s.create group.read name.read w with ⟨panic | held, w'⟩ <;>
    simp [WildService.unwinding, WildService.creating, wild, EntryPoints.calm, entryPoints, createAt, hr,
      mapError_ok, mapError_error, Except.map, Thrown.plain]

theorem wild_unwinding_destroyService (service : Context) :
    s.wild.unwinding.destroyService service = s.entryPoints.calm.destroyService service := by
  funext ⟨m, w⟩
  cases hs : m.service? service with
  | none => simp [WildService.unwinding, EntryPoints.calm, entryPoints, destroyAt, hs]
  | some x =>
    rcases hr : s.release x.2 w with ⟨panic | held, w'⟩ <;>
      simp [WildService.unwinding, WildService.releasing, wild, EntryPoints.calm, entryPoints, destroyAt, hs,
        hr, mapError_ok, mapError_error, Thrown.plain]

theorem wild_unwinding_enterSession (service : Context) (session : CText) :
    s.wild.unwinding.enterSession service session =
      s.entryPoints.calm.enterSession service session := by
  funext ⟨m, w⟩
  cases hs : m.service? service with
  | none => simp [WildService.unwinding, EntryPoints.calm, entryPoints, enterAt, hs]
  | some x =>
    rcases hr : s.enter x.2 session.read w with ⟨panic | state, held, w'⟩ <;>
      simp [WildService.unwinding, WildService.entering, wild, EntryPoints.calm, entryPoints, enterAt, hs, hr,
        mapError_ok, mapError_error, Except.map, Thrown.plain]

theorem wild_unwinding_leaveSession (service session : Context) :
    s.wild.unwinding.leaveSession service session =
      s.entryPoints.calm.leaveSession service session := by
  funext ⟨m, w⟩
  cases hs : m.service? service with
  | none => simp [WildService.unwinding, EntryPoints.calm, entryPoints, leaveAt, hs]
  | some x =>
    cases ht : m.session? session with
    | none => simp [WildService.unwinding, EntryPoints.calm, entryPoints, leaveAt, hs, ht]
    | some y =>
      rcases hr : s.leave x.2 y.2 w with ⟨panic | left, held, w'⟩ <;>
        simp [WildService.unwinding, WildService.leaving, wild, EntryPoints.calm, entryPoints, leaveAt, hs, ht,
          hr, mapError_ok, mapError_error, Thrown.plain]

theorem wild_unwinding_call (service session : Context) (method : CText) (input : Data)
    (callback : Bool) : s.wild.unwinding.call service session method input callback =
      s.entryPoints.calm.call service session method input callback := by
  funext ⟨m, w⟩
  cases callback with
  | false => simp [WildService.unwinding, EntryPoints.calm, entryPoints, callAt]
  | true =>
    cases hs : m.service? service with
    | none => simp [WildService.unwinding, EntryPoints.calm, entryPoints, callAt, hs]
    | some x =>
      cases ht : m.session? session with
      | none => simp [WildService.unwinding, EntryPoints.calm, entryPoints, callAt, hs, ht]
      | some y =>
        rcases hr : s.call x.2 y.2 method.read input.read w with
          ⟨panic | message | output, held, state, w'⟩ <;>
          simp [WildService.unwinding, WildService.calling, wild, EntryPoints.calm, entryPoints, callAt, settle,
            hs, ht, hr, mapError_ok, mapError_error, Except.map, Thrown.plain, Fault.plain]

/-- Whatever panics in a service whose errors are texts, nothing unwinds out of an entry point. -/
theorem wild_unwinding_eq_calm : s.wild.unwinding = s.entryPoints.calm := by
  apply UnwindingEntryPoints.ext
  · funext group name
    exact s.wild_unwinding_createService group name
  · funext service
    exact s.wild_unwinding_destroyService service
  · funext service session
    exact s.wild_unwinding_enterSession service session
  · funext service session
    exact s.wild_unwinding_leaveSession service session
  · funext service session method input callback
    exact s.wild_unwinding_call service session method input callback

end Service
end TaskGrid
