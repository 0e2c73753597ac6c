import TaskGrid.Payload
import TaskGrid.Plane.Basic
import TaskGrid.Uuid

/-!
A control plane that keeps everything in memory. Its ids count up, a result stays created for a number of
polls and then meets its fate, every call is logged, and calls can be made to fail.
-/

namespace TaskGrid

/-- What becomes of a result. An echo is the payload of its task; a pending result stays created for ever. -/
inductive Fate where
  | echo
  | completed (data : Octets)
  | aborted (details : String)
  | abortedWithData (data : Octets)
  | deleted
  | notFound
  | pending
  deriving DecidableEq, Repr

def Fate.status : Fate → ResultStatus
  | .echo | .completed _ => .completed
  | .aborted _ | .abortedWithData _ => .aborted
  | .deleted => .deleted
  | .notFound => .notFound
  | .pending => .created

inductive PlaneCall where
  | createSession | cancelSession | closeSession | purgeSession | createResults | submitTasks
  | resultStatuses | downloadResult | taskResults | deleteResults
  deriving DecidableEq, Repr

structure StoredResult where
  owner : Option String := none
  payload : Octets := []
  fate : Option Fate := none
  polls : Nat := 0
  delay : Nat := 0
  deriving DecidableEq, Repr

instance : Inhabited StoredResult := ⟨{}⟩

namespace StoredResult

def settled (r : StoredResult) : Fate := r.fate.getD .echo

/-- A poll: the result after it, and the status it reports. Polls count from when the result has an
owner. -/
def poll (r : StoredResult) : StoredResult × ResultStatus :=
  if r.owner.isNone then (r, .created)
  else
    let r := { r with polls := r.polls + 1 }
    (r, if r.polls ≤ r.delay then .created else r.settled.status)

/-- The result once a task was submitted to produce it; a fate set before stays. -/
def submitted (r : StoredResult) (task : String) (payload : Octets) (delay : Nat) (fate : Fate) :
    StoredResult :=
  { r with owner := some task, payload := payload, delay := delay, fate := some (r.fate.getD fate) }

def data (r : StoredResult) (id : String) : Except ClientError Octets :=
  match r.settled with
  | .echo => .ok r.payload
  | .completed data | .abortedWithData data => .ok data
  | .aborted details => .error (.task (r.owner.getD "") details)
  | .deleted | .notFound | .pending => .error (.rpc ⟨.notFound, "result " ++ id⟩)

end StoredResult

structure SubmittedRecord where
  session : String
  task : String
  options : Option TaskOptions
  submission : TaskSubmission

/-- A plane in memory. Submitted results are found created by `pollDelay` polls and have the fate that the responder
gives to the payload of their task, and calls of a kind meet the failures that are set for them in turn. -/
structure MemoryPlane where
  pollDelay : Nat := 0
  responder : Option (Payload → Fate) := none
  sessionPartitions : List (List String) := []
  results : Table String StoredResult := {}
  resultCount : Nat := 0
  tasks : Table String (List String) := {}
  submitted : List SubmittedRecord := []
  submitBatchSizes : List Nat := []
  statusBatchSizes : List Nat := []
  downloads : Table String Nat := {}
  deleted : List String := []
  calls : List (PlaneCall × String) := []
  failures : PlaneCall → List ClientError := fun _ => []
  nameCount : Nat := 0

namespace MemoryPlane

instance : Inhabited MemoryPlane := ⟨{}⟩

/-- Sets the fate of a result, which may not be there yet. -/
def setFate (p : MemoryPlane) (result : String) (fate : Fate) : MemoryPlane :=
  let r := (p.results.get? result).getD {}
  { p with results := p.results.insert result { r with fate := some fate } }

/-- Makes the next call of a kind fail that has no failure ahead of it. -/
def failNext (p : MemoryPlane) (call : PlaneCall) (e : ClientError) : MemoryPlane :=
  { p with failures := fun c => if c = call then p.failures c ++ [e] else p.failures c }

def callCount (p : MemoryPlane) (call : PlaneCall) : Nat := p.calls.countP (·.1 = call)

def downloadCount (p : MemoryPlane) (result : String) : Nat := (p.downloads.get? result).getD 0

def record (call : PlaneCall) (target : String) : Call MemoryPlane Unit := fun p =>
  let p := { p with calls := p.calls ++ [(call, target)] }
  match p.failures call with
  | [] => (.ok (), p)
  | e :: rest => (.error e, { p with failures := fun c => if c = call then rest else p.failures c })

/-- A recorded call: its effect follows unless it is to fail. -/
def recorded {α : Type} (call : PlaneCall) (target : String) (effect : Call MemoryPlane α) :
    Call MemoryPlane α := fun p =>
  match record call target p with
  | (.ok (), p) => effect p
  | (.error e, p) => (.error e, p)

def createSession (_options : TaskOptions) (partitions : List String) : Call MemoryPlane String :=
  recorded .createSession "" fun p =>
    let p := { p with sessionPartitions := p.sessionPartitions ++ [partitions] }
    (.ok s!"session-{p.sessionPartitions.length}", p)

def sessionCall (call : PlaneCall) (session : String) : Call MemoryPlane Unit :=
  recorded call session fun p => (.ok (), p)

/-- Makes one result; ids count from one, and a fate set before stays. -/
def addResult (p : MemoryPlane) : MemoryPlane × String :=
  let count := p.resultCount + 1
  let id := s!"r{count}"
  ({ p with resultCount := count, results := p.results.insert id ((p.results.get? id).getD {}) }, id)

def addResults : Nat → MemoryPlane → MemoryPlane × List String
  | 0, p => (p, [])
  | n + 1, p =>
    let (p, id) := p.addResult
    let (p, ids) := addResults n p
    (p, id :: ids)

def createResults (session : String) (names : List String) : Call MemoryPlane (List String) :=
  recorded .createResults session fun p =>
    let (p, ids) := p.addResults names.length
    (.ok ids, p)

def respond (p : MemoryPlane) (payload : Octets) : Fate :=
  match p.responder, Payload.decode payload with
  | some responder, .ok payload => responder payload
  | _, _ => .echo

def assign (task : String) (submission : TaskSubmission) (fate : Fate) (delay : Nat)
    (results : Table String StoredResult) (id : String) : Table String StoredResult :=
  results.insert id (((results.get? id).getD {}).submitted task submission.payload delay fate)

def addTask (session : String) (options : Option TaskOptions) (p : MemoryPlane)
    (submission : TaskSubmission) : MemoryPlane × SubmittedTask :=
  let task := s!"t{p.submitted.length + 1}"
  let fate := p.respond submission.payload
  ({ p with
      results := submission.outputs.foldl (assign task submission fate p.pollDelay) p.results
      tasks := p.tasks.insert task submission.outputs
      submitted := p.submitted ++ [⟨session, task, options, submission⟩] },
    ⟨task, submission.outputs⟩)

def addTasks (session : String) (options : Option TaskOptions) :
    List TaskSubmission → MemoryPlane → MemoryPlane × List SubmittedTask
  | [], p => (p, [])
  | t :: r, p =>
    let (p, task) := addTask session options p t
    let (p, tasks) := addTasks session options r p
    (p, task :: tasks)

def submitTasks (session : String) (options : Option TaskOptions) (tasks : List TaskSubmission) :
    Call MemoryPlane (List SubmittedTask) :=
  recorded .submitTasks session fun p =>
    let p := { p with submitBatchSizes := p.submitBatchSizes ++ [tasks.length] }
    let (p, submitted) := addTasks session options tasks p
    (.ok submitted, p)

def pollResult (p : MemoryPlane) (id : String) : MemoryPlane × ResultStatus :=
  match p.results.get? id with
  | none => (p, .notFound)
  | some r => ({ p with results := p.results.insert id r.poll.1 }, r.poll.2)

def pollResults : List String → MemoryPlane → MemoryPlane × List (String × ResultStatus)
  | [], p => (p, [])
  | id :: r, p =>
    let (p, status) := p.pollResult id
    let (p, statuses) := pollResults r p
    (p, (id, status) :: statuses)

/-- Polls a batch of results. The size of the batch is noted also if the call is to fail. -/
def resultStatuses (session : String) (ids : List String) :
    Call MemoryPlane (List (String × ResultStatus)) := fun p =>
  recorded .resultStatuses session (fun p =>
    let (p, statuses) := pollResults ids p
    (.ok statuses, p)) { p with statusBatchSizes := p.statusBatchSizes ++ [ids.length] }

/-- The data of a result. The download counts also if there is none. -/
def downloadResult (_session id : String) : Call MemoryPlane Octets :=
  recorded .downloadResult id fun p =>
    let p := { p with downloads := p.downloads.insert id (p.downloadCount id + 1) }
    match p.results.get? id with
    | none => (.error (.rpc ⟨.notFound, "result " ++ id⟩), p)
    | some r => (r.data id, p)

def taskResults (ids : List String) : Call MemoryPlane (Table String (List String)) :=
  recorded .taskResults "" fun p =>
    (.ok (.ofList (ids.filterMap fun id => (p.tasks.get? id).map fun results => (id, results))), p)

def deleteResult (p : MemoryPlane) (id : String) : MemoryPlane :=
  { p with
    results := match p.results.get? id with
      | none => p.results
      | some r => p.results.insert id { r with fate := some .deleted }
    deleted := p.deleted ++ [id] }

def deleteResults (session : String) (ids : List String) : Call MemoryPlane Unit :=
  recorded .deleteResults session fun p => (.ok (), ids.foldl deleteResult p)

def freshName (p : MemoryPlane) : String × MemoryPlane :=
  (Uuid.ofNat p.nameCount, { p with nameCount := p.nameCount + 1 })

def plane : ControlPlane MemoryPlane where
  createSession := createSession
  cancelSession := sessionCall .cancelSession
  closeSession := sessionCall .closeSession
  purgeSession := sessionCall .purgeSession
  createResults := createResults
  submitTasks := submitTasks
  resultStatuses := resultStatuses
  downloadResult := downloadResult
  taskResults := taskResults
  deleteResults := deleteResults
  freshName := freshName

end MemoryPlane
end TaskGrid
