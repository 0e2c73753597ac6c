import TaskGrid.Plane.Request
import TaskGrid.Session.Connect
import TaskGrid.Session.Request
import TaskGrid.Uuid

/-!
Scenarios of remote calls: a server that answers from a script, or that no one can connect to, a control
plane reached by calls to it, and a session with a client of its own.
-/

namespace TaskGrid

structure ReceivedCall where
  method : Rpc.Method
  messages : List method.request.Value

def ReceivedCall.resultNames : ReceivedCall → List String
  | ⟨.createResultsMetaData, messages⟩ => messages.flatMap fun (results, _) => results.map (·.1)
  | ⟨.createResults, messages⟩ => messages.flatMap fun (results, _) => results.map (·.1)
  | _ => []

/-- A reply, given the names of the results that its call asks for. -/
abbrev ScriptedReply (m : Rpc.Method) := List String → Rpc.Reply m.reply.Value

structure ScriptedServer where
  address : Option String
  replies : (m : Rpc.Method) → List (ScriptedReply m) := fun _ => []
  dialed : List String := []
  connected : List Nat := []
  received : List ReceivedCall := []
  nameCount : Nat := 0

namespace ScriptedServer

def unreachable : Rpc.Status := ⟨.unavailable, "tcp connect error"⟩

/-- The status of a call that the script says nothing about. -/
def unscripted (m : Rpc.Method) : Rpc.Status := ⟨.unimplemented, m.name ++ " is not scripted"⟩

def dial (endpoint : String) (s : ScriptedServer) : Nat × ScriptedServer :=
  (s.dialed.length, { s with dialed := s.dialed ++ [endpoint] })

def reaches (s : ScriptedServer) (channel : Nat) : Bool :=
  s.address.isSome && s.dialed[channel]? == s.address

def note (s : ScriptedServer) (channel : Nat) (call : ReceivedCall) : ScriptedServer :=
  { s with
    connected := if s.connected.contains channel then s.connected else s.connected ++ [channel]
    received := s.received ++ [call] }

def call (channel : Nat) (m : Rpc.Method) (messages : List m.request.Value) (s : ScriptedServer) :
    Rpc.Reply m.reply.Value × ScriptedServer :=
  if s.reaches channel then
    let received : ReceivedCall := ⟨m, messages⟩
    let s := s.note channel received
    match s.replies m with
    | [] => (.failed (unscripted m), s)
    | reply :: rest =>
      (reply received.resultNames,
        { s with replies := fun m' => if h : m' = m then h ▸ rest else s.replies m' })
  else (.failed unreachable, s)

def freshName (s : ScriptedServer) : String × ScriptedServer :=
  (Uuid.ofNat s.nameCount, { s with nameCount := s.nameCount + 1 })

def service : Rpc.Service ScriptedServer where
  dial := dial
  call := call
  freshName := freshName

/-- The address that channels are made for, and what one of them tells: whether it is of use, whether it still is once
it has failed, and whether it has failed then. -/
def probe (endpoint : String) (s : ScriptedServer) : Except ClientError (String × List Bool) := do
  let client ← RemoteClient.ofEndpoint endpoint
  let factory := RemotePlane.factory service client.endpoint
  let (made, s) := factory.create s
  let channel ← made
  let failed := { channel with failed := true }
  return (client.endpoint, [factory.isUsable channel s, factory.isUsable failed s, failed.failed])

end ScriptedServer

structure ConnectedSession where
  session : Session
  client : RemoteClient

structure RemoteBench where
  server : ScriptedServer
  client : RemoteClient
  connected : Option ConnectedSession := none
  delivered : List Delivery := []

inductive RemoteStep where
  | plane (request : PlaneRequest)
  | connect (properties : Properties)
  | session (request : SessionRequest)

inductive RemoteShown where
  | noSession
  | plane (answer : Except ClientError PlaneReply)
  | opened (answer : Except ClientError String)
  | session (answer : Except ClientError SessionReply)

structure RemoteReport where
  shown : RemoteShown
  received : List ReceivedCall
  connections : Nat
  pending : Option Nat
  delivered : List Delivery

namespace RemoteBench

def control : ControlPlane (RemotePlane ScriptedServer) := RemotePlane.plane ScriptedServer.service

/-- Rounds after which every awaited result has settled that the script ever settles. -/
def patience (b : RemoteBench) : Nat := (b.server.replies .getResultStatus).length + 1

def callSession (b : RemoteBench) (c : ConnectedSession) (request : SessionRequest) :
    RemoteBench × RemoteShown :=
  let r := c.session.perform control b.patience (fun _ => .listed) ⟨c.client, b.server⟩ request
  ({ b with
      server := r.plane.world
      connected := some ⟨r.session, r.plane.client⟩
      delivered := b.delivered ++ r.deliveries },
    .session r.answer)

/-- Takes a step. A session that was connected before stays if no other can be connected. -/
def step (b : RemoteBench) : RemoteStep → RemoteBench × RemoteShown
  | .plane request =>
    let (answer, plane) := control.perform request ⟨b.client, b.server⟩
    ({ b with server := plane.world, client := plane.client }, .plane answer)
  | .connect properties =>
    match Session.connect ScriptedServer.service properties b.server with
    | (.error e, server) => ({ b with server }, .opened (.error e))
    | (.ok (s, client), server) =>
      ({ b with server, connected := some ⟨s, client⟩ }, .opened (.ok s.id))
  | .session request =>
    match b.connected with
    | none => (b, .noSession)
    | some c => b.callSession c request

def pending? (b : RemoteBench) : Option Nat := b.connected.map fun c => c.session.pendingCount

def observe (b : RemoteBench) (s : RemoteStep) : RemoteBench × RemoteReport :=
  let (b', shown) := b.step s
  (b', {
    shown := shown
    received := b'.server.received.drop b.server.received.length
    connections := b'.server.connected.length
    pending := b'.pending?
    delivered := b'.delivered.drop b.delivered.length })

end RemoteBench
end TaskGrid
