import TaskGrid.Plane.Memory
import TaskGrid.Proofs.Session.Handover
import TaskGrid.Session.Request

/-! Sessions that share a control plane in memory. A ledger notes, session by session, what became of the
tasks that the plane took, and which fates were set by name. -/
namespace TaskGrid

namespace SessionRequest

/-- The tasks that a request brings, of those that were taken meanwhile: a submission brings them all, for
its handler. -/
def accepted : SessionRequest → List SubmittedRecord → List Tracked
  | .submit _ handler _, records => records.map fun r => ⟨r.task, handler⟩
  | _, _ => []

/-- The tasks that a request makes a session forget. -/
def forgotten : SessionRequest → Session → List Tracked
  | .drop, s => s.tracker.byResult.values
  | _, _ => []

end SessionRequest

/-- What became of tasks; an entry names its session. Discarded tasks were claimed as unknown to the plane, forgotten
ones were pending when their session was dropped, and `fates` were set by name, or by a deletion. -/
structure Ledger where
  accepted : List (Nat × Tracked) := []
  delivered : List (Nat × Delivery) := []
  discarded : List (Nat × Tracked) := []
  forgotten : List (Nat × Tracked) := []
  fates : String → Option Fate := fun _ => none

namespace Ledger

def share {α : Type} (i : Nat) (l : List (Nat × α)) : List α :=
  (l.filter (·.1 = i)).map Prod.snd

/-- The ledger after a call of session `i`, which was `s`, on a plane that was `p`. -/
def note (l : Ledger) (i : Nat) (request : SessionRequest) (s : Session) (p : MemoryPlane)
    (r : Performed MemoryPlane) : Ledger where
  accepted := l.accepted ++
    (request.accepted (r.plane.submitted.drop p.submitted.length)).map fun t => (i, t)
  delivered := l.delivered ++ r.deliveries.map fun d => (i, d)
  discarded := l.discarded ++ (r.claims.filterMap Tracker.Claim.discarded?).map fun t => (i, t)
  forgotten := l.forgotten ++ (request.forgotten s).map fun t => (i, t)
  fates id := if id ∈ r.plane.deleted.drop p.deleted.length then some .deleted else l.fates id

end Ledger

structure Fleet where
  plane : MemoryPlane
  sessions : List Session := []
  ledger : Ledger := {}

/-- What happens to sessions and their plane. Of a wait it is the first `limit` rounds; `visits` are the orders in
which they go through results. -/
inductive FleetStep where
  | create (properties : Properties)
  | attach (id : String) (properties : Properties)
  | call (session : Nat) (request : SessionRequest) (limit : Nat) (visits : Nat → Visit)
  | setFate (result : String) (fate : Fate)
  | setResponder (responder : Payload → Fate)
  | failNext (call : PlaneCall) (e : ClientError)

namespace Fleet

/-- A plane whose results stay created for a number of polls, and no sessions. -/
def start (pollDelay : Nat) : Fleet where
  plane := { pollDelay }

def call (f : Fleet) (i : Nat) (request : SessionRequest) (limit : Nat) (visits : Nat → Visit) :
    Fleet :=
  match f.sessions[i]? with
  | none => f
  | some s =>
    let r := s.perform MemoryPlane.plane limit visits f.plane request
    { plane := r.plane
      sessions := f.sessions.set i r.session
      ledger := f.ledger.note i request s f.plane r }

def step (f : Fleet) : FleetStep → Fleet
  | .create properties =>
    match Session.create MemoryPlane.plane properties f.plane with
    | (.ok s, p) => { f with plane := p, sessions := f.sessions ++ [s] }
    | (.error _, p) => { f with plane := p }
  | .attach id properties =>
    match Session.attach properties id with
    | .ok s => { f with sessions := f.sessions ++ [s] }
    | .error _ => f
  | .call i request limit visits => f.call i request limit visits
  | .setFate result fate =>
    { f with
      plane := f.plane.setFate result fate
      ledger := { f.ledger with
        fates := fun id => if id = result then some fate else f.ledger.fates id } }
  | .setResponder responder => { f with plane := { f.plane with responder := some responder } }
  | .failNext call e => { f with plane := f.plane.failNext call e }

def run (f : Fleet) (steps : List FleetStep) : Fleet := steps.foldl step f

/-- Whatever sessions may come to, over a plane of any delay. -/
def Reachable (f : Fleet) : Prop := ∃ pollDelay steps, f = (start pollDelay).run steps

def tracked (f : Fleet) (i : Nat) : List Tracked :=
  (f.sessions[i]?).elim [] fun s => s.tracker.byResult.values

end Fleet
end TaskGrid
