import TaskGrid.Panic
import TaskGrid.Table
import TaskGrid.Worker.Boundary

/-!
Services, and the entry points that export them. The panics of a service's functions are caught at the
boundary, and a call that is given a callback uses it exactly once.
-/

namespace TaskGrid

/-- What a library hosts. A service keeps an `α`, and a `β` for each session; it may change a world `ω`
around it, and any of its functions may panic, with a `π`. A method gives its output or an error `ε`, which
is its text if nothing else is said. -/
structure Service (ω α β : Type) (ε : Type := String) (π : Type := Panic) where
  create : (group name : String) → ω → Except π α × ω
  enter : α → (session : String) → ω → Except π β × α × ω
  leave : α → β → ω → Except π Unit × α × ω
  call : α → β → (method : String) → (input : Octets) → ω →
    Except π (Except ε Octets) × α × β × ω
  release : α → ω → Except π Unit × ω

/-- What an exported service keeps, by its address; `next` was not given out yet. -/
structure Memory (α β : Type) where
  services : Table Nat α := {}
  sessions : Table Nat β := {}
  next : Nat := 1

namespace Memory

variable {α β : Type}

def service? (m : Memory α β) (c : Context) : Option (Nat × α) :=
  c.bind fun address => (m.services.get? address).map fun s => (address, s)

def session? (m : Memory α β) (c : Context) : Option (Nat × β) :=
  c.bind fun address => (m.sessions.get? address).map fun s => (address, s)

def addService (m : Memory α β) (s : α) : Context × Memory α β :=
  (some m.next, { m with services := m.services.insert m.next s, next := m.next + 1 })

def addSession (m : Memory α β) (s : β) : Context × Memory α β :=
  (some m.next, { m with sessions := m.sessions.insert m.next s, next := m.next + 1 })

end Memory

namespace Service

variable {ω α β : Type}

/-- What a call without a service or a session reports. -/
def notInitialized : String := "Service or session is not initialized"

/-- Exported creation: null if the service panics. -/
def createAt (s : Service ω α β) (group name : CText) :
    Memory α β × ω → Context × Memory α β × ω
  | (m, w) =>
    match s.create group.read name.read w with
    | (.error _, w) => (none, m, w)
    | (.ok service, w) =>
      let (context, m) := m.addService service
      (context, m, w)

def destroyAt (s : Service ω α β) (service : Context) : Memory α β × ω → Memory α β × ω
  | (m, w) =>
    match m.service? service with
    | none => (m, w)
    | some (address, held) =>
      ({ m with services := m.services.erase address }, (s.release held w).2)

/-- Exported entry into a session: null without a service, or if it panics. -/
def enterAt (s : Service ω α β) (service : Context) (session : CText) :
    Memory α β × ω → Context × Memory α β × ω
  | (m, w) =>
    match m.service? service with
    | none => (none, m, w)
    | some (address, held) =>
      let (entered, held, w) := s.enter held session.read w
      let m := { m with services := m.services.insert address held }
      match entered with
      | .error _ => (none, m, w)
      | .ok state =>
        let (context, m) := m.addSession state
        (context, m, w)

/-- Exported exit from a session, of which nothing is kept. -/
def leaveAt (s : Service ω α β) (service session : Context) : Memory α β × ω → Memory α β × ω
  | (m, w) =>
    match m.service? service, m.session? session with
    | some (address, held), some (at', state) =>
      let (_, held, w) := s.leave held state w
      ({ m with
          services := m.services.insert address held
          sessions := m.sessions.erase at' }, w)
    | _, _ => (m, w)

def reply : Except String Octets → CallReply
  | .ok output => ⟨[⟨true, 0, .ofOctets output⟩], 0⟩
  | .error message => ⟨[⟨true, 1, .ofOctets (Utf8.encode message)⟩], 1⟩

/-- The outcome of a method that may panic. -/
def settle (method : String) : Except Panic (Except String Octets) → Except String Octets
  | .ok outcome => outcome
  | .error panic => .error ("method " ++ method ++ " panicked: " ++ panic.message)

/-- Exported call. Without a callback nothing is called. -/
def callAt (s : Service ω α β) (service session : Context) (method : CText) (input : Data)
    (callback : Bool) : Memory α β × ω → CallReply × Memory α β × ω
  | (m, w) =>
    if callback then
      match m.service? service, m.session? session with
      | some (address, held), some (at', state) =>
        let (outcome, held, state, w) := s.call held state method.read input.read w
        (reply (settle method.read outcome),
          { m with
            services := m.services.insert address held
            sessions := m.sessions.insert at' state }, w)
      | _, _ => (reply (.error notInitialized), m, w)
    else (⟨[], 1⟩, m, w)

def entryPoints (s : Service ω α β) : EntryPoints (Memory α β × ω) where
  createService := s.createAt
  destroyService := s.destroyAt
  enterSession := s.enterAt
  leaveSession := s.leaveAt
  call := s.callAt

end Service
end TaskGrid
