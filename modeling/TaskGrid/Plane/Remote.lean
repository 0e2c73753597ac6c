import TaskGrid.Channel.Endpoint
import TaskGrid.Channel.Pool
import TaskGrid.Plane.Naming
import TaskGrid.Plane.Placement
import TaskGrid.Rpc.Service

/-!
A control plane that is reached by remote calls. Every call goes over a channel of a pool; a channel that
fails is not used again. The payloads of tasks travel as results of their own.
-/

namespace TaskGrid

open Wire

structure RemoteChannel where
  number : Nat
  failed : Bool := false
  deriving DecidableEq, Repr

structure RemoteClient where
  endpoint : String
  channels : ChannelPool RemoteChannel := {}
  dataLimit : Option Nat := none
  deriving DecidableEq, Repr

def RemoteClient.ofEndpoint (endpoint : String) : Except ClientError RemoteClient :=
  (Endpoint.check endpoint).map fun endpoint => { endpoint }

structure RemotePlane (ω : Type) where
  client : RemoteClient
  world : ω

namespace RemotePlane

variable {ω α : Type}

def losesChannel : Except GridError α → Bool
  | .ok _ => false
  | .error e => e.isTransportFailure

def factory (service : Rpc.Service ω) (endpoint : String) : ChannelFactory ω RemoteChannel where
  create w :=
    let (number, w) := service.dial endpoint w
    (.ok { number }, w)
  isUsable c _ := !c.failed

def exchange (service : Rpc.Service ω) (m : Rpc.Method) (messages : List m.request.Value)
    (read : Rpc.Reply m.reply.Value → Except GridError α) : Call (RemotePlane ω) α := fun p =>
  let factory := factory service p.client.endpoint
  match p.client.channels.acquire factory p.world with
  | (.error e, channels, world) => (.error e, ⟨{ p.client with channels }, world⟩)
  | (.ok channel, channels, world) =>
    let (reply, world) := service.call channel.number m messages world
    let answer := read reply
    let channels := channels.release factory { channel with failed := losesChannel answer } world
    (answer.mapError GridError.toClient, ⟨{ p.client with channels }, world⟩)

def ask (service : Rpc.Service ω) (m : Rpc.Method) (message : m.request.Value)
    (read : m.reply.Value → Except GridError α) : Call (RemotePlane ω) α :=
  exchange service m [message] fun reply => (reply.first.mapError .rpc).bind read

def createSession (service : Rpc.Service ω) (options : TaskOptions) (partitions : List String) :
    Call (RemotePlane ω) String :=
  ask service .createSession (some options.toMessage, partitions, ()) fun (id, ()) => .ok id

def madeResults : Message.createResultsResponse.Value → List ResultInfo
  | (results, ()) => results.map ResultInfo.ofMessage

def createEmptyResults (service : Rpc.Service ω) (session : String) (names : List String) :
    Call (RemotePlane ω) (List String) :=
  ask service .createResultsMetaData (names.map fun name => (name, ()), session, ()) fun reply =>
    Naming.idsOf names (madeResults reply)

def createResults (service : Rpc.Service ω) (session : String) (payloads : List PlacedPayload) :
    Call (RemotePlane ω) (List String) :=
  ask service .createResults (payloads.map fun p => (p.name, p.data, ()), session, ()) fun reply =>
    Naming.idsOf (payloads.map (·.name)) (madeResults reply)

/-- The greatest size of data in one message, which is to be positive. -/
def readDataLimit : Message.serviceConfigurationResponse.Value → Except GridError Nat
  | (size, ()) =>
    let size := Int32.toInt size
    if 0 < size then .ok size.toNat
    else .error (.unexpectedResponse s!"invalid data chunk size {size}")

/-- The greatest size of data in one message, asked for once. -/
def dataLimit (service : Rpc.Service ω) : Call (RemotePlane ω) Nat := fun p =>
  match p.client.dataLimit with
  | some limit => (.ok limit, p)
  | none =>
    match ask service .getServiceConfiguration () readDataLimit p with
    | (.error e, p) => (.error e, p)
    | (.ok limit, p) => (.ok limit, { p with client := { p.client with dataLimit := some limit } })

/-- Streams payloads into results in turn, up to the first that fails. -/
def upload (service : Rpc.Service ω) (session : String) (limit : Nat) :
    List (PlacedPayload × String) → Call (RemotePlane ω) Unit
  | [], p => (.ok (), p)
  | (payload, id) :: r, p =>
    let messages := PlacedPayload.uploadMessages session id limit payload.data
    match exchange service .uploadResultData messages
        (fun reply => (reply.first.mapError .rpc).map fun _ => ()) p with
    | (.error e, p) => (.error e, p)
    | (.ok (), p) => upload service session limit r p

def placeInline (service : Rpc.Service ω) (session : String) (payloads : List PlacedPayload) :
    Call (RemotePlane ω) (List (Nat × String)) := fun p =>
  if payloads = [] then (.ok [], p)
  else match createResults service session payloads p with
    | (.error e, p) => (.error e, p)
    | (.ok ids, p) => (.ok ((payloads.map (·.index)).zip ids), p)

def placeStreamed (service : Rpc.Service ω) (session : String) (limit : Nat)
    (payloads : List PlacedPayload) : Call (RemotePlane ω) (List (Nat × String)) := fun p =>
  if payloads = [] then (.ok [], p)
  else match createEmptyResults service session (payloads.map (·.name)) p with
    | (.error e, p) => (.error e, p)
    | (.ok ids, p) =>
      match upload service session limit (payloads.zip ids) p with
      | (.error e, p) => (.error e, p)
      | (.ok (), p) => (.ok ((payloads.map (·.index)).zip ids), p)

def place (service : Rpc.Service ω) (session : String) (limit : Nat) (payloads : List PlacedPayload) :
    Call (RemotePlane ω) (List (Nat × String)) := fun p =>
  match placeInline service session (payloads.filter (·.fits limit)) p with
  | (.error e, p) => (.error e, p)
  | (.ok inline, p) =>
    match placeStreamed service session limit (payloads.filter (!·.fits limit)) p with
    | (.error e, p) => (.error e, p)
    | (.ok streamed, p) => (.ok (inline ++ streamed), p)

def taskCreations (given : List (Nat × String)) :
    (index : Nat) → List TaskSubmission → List Message.taskCreation.Value
  | _, [] => []
  | index, task :: r =>
    (task.outputs, task.dependencies, PlacedPayload.idAt given index, none, ()) ::
      taskCreations given (index + 1) r

def submittedTasks : Message.submitTasksResponse.Value → List SubmittedTask
  | (tasks, ()) => tasks.map SubmittedTask.ofMessage

def freshName (service : Rpc.Service ω) (p : RemotePlane ω) : String × RemotePlane ω :=
  let (name, world) := service.freshName p.world
  (name, { p with world })

def submitTasks (service : Rpc.Service ω) (session : String) (options : Option TaskOptions)
    (tasks : List TaskSubmission) : Call (RemotePlane ω) (List SubmittedTask) := fun p =>
  match dataLimit service p with
  | (.error e, p) => (.error e, p)
  | (.ok limit, p) =>
    let (names, p) := freshNames (freshName service) tasks.length p
    let payloads := PlacedPayload.number 0 names (tasks.map (·.payload))
    match place service session limit payloads p with
    | (.error e, p) => (.error e, p)
    | (.ok given, p) =>
      ask service .submitTasks
        (session, options.map TaskOptions.toMessage, taskCreations given 0 tasks, ())
        (fun reply => .ok (submittedTasks reply)) p

def resultStatuses (service : Rpc.Service ω) (session : String) (results : List String) :
    Call (RemotePlane ω) (List (String × ResultStatus)) :=
  ask service .getResultStatus (results, session, ()) fun (statuses, ()) =>
    .ok (statuses.map fun (id, status, ()) => (id, .ofInt (Int32.toInt status)))

def resultInfo (service : Rpc.Service ω) (result : String) : Call (RemotePlane ω) ResultInfo :=
  ask service .getResult (result, ()) fun
    | (some raw, ()) => .ok (ResultInfo.ofMessage raw)
    | (none, ()) => .error (.unexpectedResponse ("no metadata returned for result " ++ result))

def taskOutput (service : Rpc.Service ω) (session task : String) : Call (RemotePlane ω) TaskOutput :=
  ask service .tryGetTaskOutput (session, task, ()) fun output => .ok (TaskOutput.ofMessage output)

def failureDetails : Except ClientError TaskOutput → String
  | .ok (.error details) => details
  | .ok .ok => "result is aborted"
  | .error e => "result is aborted, task error unavailable: " ++ e.message

/-- Why the download of a result failed: its task did, if the result is aborted. -/
def downloadFailure (service : Rpc.Service ω) (session result : String) :
    Call (RemotePlane ω) ClientError := fun p =>
  match resultInfo service result p with
  | (.error e, p) => (.error e, p)
  | (.ok info, p) =>
    if info.status = .aborted then
      let (output, p) := taskOutput service session info.ownerTask p
      (.ok (.task info.ownerTask (failureDetails output)), p)
    else
      (.ok (.internal
        ("result " ++ result ++ " could not be downloaded while " ++ info.status.name)), p)

def readChunks (reply : Rpc.Reply Message.downloadResultDataResponse.Value) :
    Except GridError Octets :=
  (reply.all.mapError .rpc).map fun messages => messages.flatMap Prod.fst

def downloadResult (service : Rpc.Service ω) (session result : String) :
    Call (RemotePlane ω) Octets := fun p =>
  match exchange service .downloadResultData [(session, result, ())] readChunks p with
  | (.error (.rpc _), p) =>
    match downloadFailure service session result p with
    | (.ok e, p) | (.error e, p) => (.error e, p)
  | (answer, p) => (answer, p)

def taskResults (service : Rpc.Service ω) (tasks : List String) :
    Call (RemotePlane ω) (Table String (List String)) :=
  ask service .getResultIds (tasks, ()) fun (results, ()) =>
    .ok (.ofList (results.map fun (task, ids, ()) => (task, ids)))

def plane (service : Rpc.Service ω) : ControlPlane (RemotePlane ω) where
  createSession := createSession service
  cancelSession session := ask service .cancelSession (session, ()) fun _ => .ok ()
  closeSession session := ask service .closeSession (session, ()) fun _ => .ok ()
  purgeSession session := ask service .purgeSession (session, ()) fun _ => .ok ()
  createResults := createEmptyResults service
  submitTasks := submitTasks service
  resultStatuses := resultStatuses service
  downloadResult := downloadResult service
  taskResults := taskResults service
  deleteResults session results :=
    ask service .deleteResultsData (session, results, ()) fun _ => .ok ()
  freshName := freshName service

end RemotePlane
end TaskGrid
