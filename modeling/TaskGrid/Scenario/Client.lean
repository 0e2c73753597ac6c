import TaskGrid.Plane.Request
import TaskGrid.Plane.Scripted
import TaskGrid.Session.Request

/-!
Scenarios of clients: several sessions over one control plane in memory, whose calls may be answered from
a script, and a record of every callback.
-/

namespace TaskGrid

inductive MemorySetup where
  | failNext (call : PlaneCall) (e : ClientError)
  | setFate (result : String) (fate : Fate)
  | respond (methods : Table String Fate) (otherwise : Fate)

def MemoryPlane.prepare (p : MemoryPlane) : MemorySetup → MemoryPlane
  | .failNext call e => p.failNext call e
  | .setFate result fate => p.setFate result fate
  | .respond methods otherwise =>
    { p with responder := some fun payload => (methods.get? payload.method).getD otherwise }

inductive MemoryStep where
  | prepare (setup : MemorySetup)
  | call (request : PlaneRequest)
  | calls
  | state

inductive MemoryShown where
  | nothing
  | reply (reply : Except ClientError PlaneReply)
  | calls (calls : List (PlaneCall × String))
  | state (p : MemoryPlane)

def MemoryPlane.step (p : MemoryPlane) : MemoryStep → MemoryPlane × MemoryShown
  | .prepare setup => (p.prepare setup, .nothing)
  | .call request =>
    let (reply, p) := MemoryPlane.plane.perform request p
    (p, .reply reply)
  | .calls => (p, .calls p.calls)
  | .state => (p, .state p)

inductive ScriptEntry where
  | session (answer : Except ClientError String)
  | results (answer : Except ClientError (List String))
  | submission (answer : Except ClientError (List SubmittedTask))
  | statuses (answer : Except ClientError (List (String × ResultStatus)))
  | download (answer : Except ClientError Octets)
  | taskResults (answer : Except ClientError (Table String (List String)))

def Script.add (s : Script) : ScriptEntry → Script
  | .session a => { s with sessions := s.sessions ++ [a] }
  | .results a => { s with results := s.results ++ [a] }
  | .submission a => { s with submissions := s.submissions ++ [a] }
  | .statuses a => { s with statuses := s.statuses ++ [a] }
  | .download a => { s with downloads := s.downloads ++ [a] }
  | .taskResults a => { s with taskResults := s.taskResults ++ [a] }

structure ClientBench where
  plane : Scripted MemoryPlane
  sessions : List Session := []
  current : Nat := 0
  handlers : List String := []
  delivered : List Delivery := []

inductive ClientStep where
  | prepare (setup : MemorySetup)
  | script (entry : ScriptEntry)
  | create (properties : Properties)
  | attach (id : String) (properties : Properties)
  | switch (index : Nat)
  | call (request : SessionRequest)
  | handler (name : String) (tasks : List String)
  | state

inductive ClientShown where
  | nothing
  | noSession
  | opened (answer : Except ClientError String)
  | reply (answer : Except ClientError SessionReply)
  | handler (counts : Option (Nat × List Nat))
  | state (plane : Scripted MemoryPlane)

structure ClientReport where
  shown : ClientShown
  pending : Option Nat
  calls : List (PlaneCall × String)
  delivered : List Delivery

namespace ClientBench

def control : ControlPlane (Scripted MemoryPlane) := Scripted.plane MemoryPlane.plane

def start (pollDelay : Nat) : ClientBench where
  plane := { base := { pollDelay } }

def session? (b : ClientBench) : Option Session := b.sessions[b.current]?

def addSession (b : ClientBench) (s : Session) : ClientBench :=
  { b with sessions := b.sessions ++ [s], current := b.sessions.length }

/-- Rounds after which every awaited result that can settle has settled: one more than the polls that
find it created and the calls that do not reach the plane or fail there. -/
def patience (b : ClientBench) : Nat :=
  b.plane.base.pollDelay + (b.plane.base.failures .resultStatuses).length +
    b.plane.script.statuses.length + 2

/-- The handlers after a call: a submission brings its own. -/
def handlersAfter (b : ClientBench) : SessionRequest → List String
  | .submit _ handler _ =>
    if handler.name ∈ b.handlers then b.handlers else b.handlers ++ [handler.name]
  | _ => b.handlers

def call (b : ClientBench) (request : SessionRequest) : ClientBench × ClientShown :=
  match b.session? with
  | none => (b, .noSession)
  | some s =>
    let r := s.perform control b.patience (fun _ => .listed) b.plane request
    ({ b with
        plane := r.plane
        sessions := b.sessions.set b.current r.session
        handlers := b.handlersAfter request
        delivered := b.delivered ++ r.deliveries },
      .reply r.answer)

/-- How often a handler was called, in all and for each of some tasks. -/
def handlerCounts (b : ClientBench) (name : String) (tasks : List String) : Option (Nat × List Nat) :=
  if name ∈ b.handlers then
    let own := b.delivered.filter (·.handler.name = name)
    some (own.length, tasks.map fun task => own.countP (·.task = task))
  else none

def step (b : ClientBench) : ClientStep → ClientBench × ClientShown
  | .prepare setup => ({ b with plane := { b.plane with base := b.plane.base.prepare setup } }, .nothing)
  | .script entry =>
    ({ b with plane := { b.plane with script := b.plane.script.add entry } }, .nothing)
  | .create properties =>
    match Session.create control properties b.plane with
    | (.ok s, plane) => ({ b with plane }.addSession s, .opened (.ok s.id))
    | (.error e, plane) => ({ b with plane }, .opened (.error e))
  | .attach id properties =>
    match Session.attach properties id with
    | .ok s => (b.addSession s, .opened (.ok s.id))
    | .error flaw => (b, .opened (.error flaw.toGrid.toClient))
  | .switch index => ({ b with current := index }, .nothing)
  | .call request => b.call request
  | .handler name tasks => (b, .handler (b.handlerCounts name tasks))
  | .state => (b, .state b.plane)

def observe (b : ClientBench) (s : ClientStep) : ClientBench × ClientReport :=
  let (b', shown) := b.step s
  (b', {
    shown := shown
    pending := b'.session?.map Session.pendingCount
    calls := b'.plane.base.calls.drop b.plane.base.calls.length
    delivered := b'.delivered.drop b.delivered.length })

def run (b : ClientBench) (steps : List ClientStep) : ClientBench :=
  steps.foldl (fun b s => (b.step s).1) b

end ClientBench
end TaskGrid
