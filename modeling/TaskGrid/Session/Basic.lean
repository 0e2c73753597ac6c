import TaskGrid.Chunks
import TaskGrid.Payload
import TaskGrid.Plane.Basic
import TaskGrid.Session.Tracker
import TaskGrid.Settings.Views
import TaskGrid.Visit

/-!
A session: tasks are submitted in batches, and the session keeps track of them until their outcomes are
delivered or it is dropped.
-/

namespace TaskGrid

/-- A session on a control plane, the options of tasks that are submitted without their own, and what it waits for. -/
structure Session where
  id : String
  options : TaskOptions
  submitBatchSize : Nat
  waitBatchSize : Nat
  submit_pos : 0 < submitBatchSize
  wait_pos : 0 < waitBatchSize
  tracker : Tracker := {}
  dropped : Bool := false

/-- What a call on a session leaves behind. -/
structure SessionResult (σ α : Type) where
  answer : Except ClientError α
  session : Session
  plane : σ

namespace Session

def pendingCount (s : Session) : Nat := s.tracker.size

def attach (p : Properties) (id : String) : Except Settings.Flaw Session := do
  let submit ← p.settings.count Settings.submitBatchSizeKey Settings.defaultBatchSize
  let wait ← p.settings.count Settings.waitBatchSizeKey Settings.defaultBatchSize
  if h : 0 < submit ∧ 0 < wait then
    return {
      id := id
      options := p.options
      submitBatchSize := submit
      waitBatchSize := wait
      submit_pos := h.1
      wait_pos := h.2 }
  else throw .emptyBatch

/-- Makes a session in the partition of the properties and attaches to it. -/
def create {σ : Type} (plane : ControlPlane σ) (p : Properties) : Call σ Session := fun w =>
  match plane.createSession p.options p.partition?.toList w with
  | (.error e, w) => (.error e, w)
  | (.ok id, w) => ((attach p id).mapError fun f => f.toGrid.toClient, w)

def submission (payload : Payload) (result : String) : Except ClientError TaskSubmission :=
  match payload.encode with
  | .error flaw => .error flaw.toGrid.toClient
  | .ok bytes => .ok ⟨bytes, [result], payload.dependencies⟩

/-- The result that a submitted task is found by: the first it names, or else the one that was made for
its place in the batch. -/
def resultFor (made : List String) (index : Nat) (task : SubmittedTask) : Option String :=
  match task.outputs with
  | result :: _ => some result
  | [] => made[index]?

/-- The tasks of a reply that have a result, each with it, counted from a place in the batch. -/
def accepted (made : List String) : (index : Nat) → List SubmittedTask → List (String × String)
  | _, [] => []
  | index, task :: r =>
    match resultFor made index task with
    | some result => (task.id, result) :: accepted made (index + 1) r
    | none => accepted made (index + 1) r

def track (s : Session) (handler : Handler) (tasks : List (String × String)) : Session :=
  { s with tracker := tasks.foldl (fun t e => t.insert e.1 e.2 handler) s.tracker }

/-- Makes the results of a batch and submits its tasks; they are tracked once they are accepted. -/
def submitBatch {σ : Type} (plane : ControlPlane σ) (handler : Handler) (options : TaskOptions)
    (batch : List Payload) (s : Session) (w : σ) : SessionResult σ (List String) :=
  let (names, w) := freshNames plane.freshName batch.length w
  match plane.createResults s.id names w with
  | (.error e, w) => ⟨.error e, s, w⟩
  | (.ok made, w) =>
    if made.length ≠ batch.length then
      ⟨.error (.internal
        s!"requested {batch.length} results, control plane created {made.length}"), s, w⟩
    else match (batch.zip made).mapM fun e => submission e.1 e.2 with
      | .error e => ⟨.error e, s, w⟩
      | .ok submissions =>
        match plane.submitTasks s.id (some options) submissions w with
        | (.error e, w) => ⟨.error e, s, w⟩
        | (.ok tasks, w) =>
          let tracked := accepted made 0 tasks
          ⟨.ok (tracked.map Prod.fst), s.track handler tracked, w⟩

def submitBatches {σ : Type} (plane : ControlPlane σ) (handler : Handler) (options : TaskOptions) :
    List (List Payload) → Session → σ → SessionResult σ (List String)
  | [], s, w => ⟨.ok [], s, w⟩
  | batch :: r, s, w =>
    match submitBatch plane handler options batch s w with
    | ⟨.error e, s, w⟩ => ⟨.error e, s, w⟩
    | ⟨.ok tasks, s, w⟩ =>
      match submitBatches plane handler options r s w with
      | ⟨.error e, s, w⟩ => ⟨.error e, s, w⟩
      | ⟨.ok more, s, w⟩ => ⟨.ok (tasks ++ more), s, w⟩

/-- Submits tasks with their own options or those of the session. The answer is their ids in the order
of the requests. -/
def submit {σ : Type} (s : Session) (plane : ControlPlane σ) (requests : List Payload)
    (handler : Handler) (options : Option TaskOptions) (w : σ) : SessionResult σ (List String) :=
  if s.dropped then ⟨.error (.sessionDropped s.id), s, w⟩
  else submitBatches plane handler (options.getD s.options) (chunks s.submitBatchSize requests) s w

/-- The greatest number of results in a request for deletion. -/
def cleanupBatchSize : Nat := 500

def deleteBatches {σ : Type} (plane : ControlPlane σ) (session : String) :
    List (List String) → Call σ Unit
  | [], w => (.ok (), w)
  | batch :: r, w =>
    match plane.deleteResults session batch w with
    | (.error e, w) => (.error e, w)
    | (.ok (), w) => deleteBatches plane session r w

/-- Deletes the data of the results of tasks, the tasks taken in any order. -/
def cleanup {σ : Type} (s : Session) (plane : ControlPlane σ) (visit : Visit) (tasks : List String) :
    Call σ Unit := fun w =>
  if tasks = [] then (.ok (), w)
  else match plane.taskResults tasks w with
    | (.error e, w) => (.error e, w)
    | (.ok results, w) =>
      deleteBatches plane s.id (chunks cleanupBatchSize (visit.arrange results.values).flatten) w

/-- Forgets the tasks that are pending, then cancels and purges the session. -/
def drop {σ : Type} (s : Session) (plane : ControlPlane σ) (w : σ) : SessionResult σ Unit :=
  let s := { s with dropped := true, tracker := {} }
  match plane.cancelSession s.id w with
  | (.error e, w) => ⟨.error e, s, w⟩
  | (.ok (), w) =>
    let (answer, w) := plane.purgeSession s.id w
    ⟨answer, s, w⟩

/-- Takes no more submissions; submitted tasks still run. -/
def close {σ : Type} (s : Session) (plane : ControlPlane σ) : Call σ Unit := plane.closeSession s.id

/-- Cancels the tasks of the session, which stay tracked. -/
def cancel {σ : Type} (s : Session) (plane : ControlPlane σ) : Call σ Unit := plane.cancelSession s.id

def purge {σ : Type} (s : Session) (plane : ControlPlane σ) : Call σ Unit := plane.purgeSession s.id

end Session
end TaskGrid
