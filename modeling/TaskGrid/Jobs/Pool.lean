import TaskGrid.Jobs.Set
import TaskGrid.Table

/-!
A pool of threads that run jobs, newest first, as a machine of atomic steps. A step is what happens while
a lock is held, or a notification between two locks; the threads and the callers may take their steps
in any order that the machine allows.

A caller enters a job and offers it. A job that is refused the caller discards; for one that is accepted
it notifies a thread that waits, and completes the offer, which may start a thread. From the offer to its
completion the caller keeps the handles of the threads to itself, so that no other offer, and no stop, comes
in between. A thread reaches the queue, where it takes a job, parks, or exits; it finishes its job and
retires it. A call that shuts the pool down stops it and takes the handles, raises the alarm, and returns
once it has joined the threads.
-/

namespace TaskGrid

structure Job where
  number : Nat
  set : Option String := none
  deriving DecidableEq, Repr

/-- Where a thread stands. It is ready once it is done with a job, and retiring while the set of a job that has ended
does not know yet. -/
inductive ThreadPhase where
  | starting
  | ready
  | parked
  | notified
  | running (job : Job)
  | retiring (job : Job)
  | exited
  deriving DecidableEq, Repr

def ThreadPhase.alerted : ThreadPhase → ThreadPhase
  | .parked => .notified
  | phase => phase

/-- An offer under way. Its job is in the queue; a thread may have been notified, and one may have to be started. -/
structure JobOffer where
  job : Job
  start : Bool
  announced : Bool := false
  deriving DecidableEq, Repr

inductive ShutDownPhase where
  | stopping
  | joining
  | returned
  deriving DecidableEq, Repr

/-- A call that shuts a pool down, by a thread of it or by someone else, with the handles that it took. -/
structure ShutDown where
  caller : Option Nat
  handles : List Nat
  phase : ShutDownPhase := .stopping
  deriving DecidableEq, Repr

inductive JobEvent where
  | accepted (job : Job)
  | answered (job : Job) (answer : Except ClientError Unit)
  | begun (job : Job)
  | ended (job : Job) (outcome : JobOutcome)
  | collected (set : String) (answer : Except ClientError Unit)

def JobEvent.begun? : JobEvent → Option Job
  | .begun job => some job
  | _ => none

/-- A pool. The newest job comes first in the queue; `idle` counts also the threads that were notified and did not wake
yet, `threadCount` also those that are about to be started, and `handles` are those that no call took yet. -/
structure JobPool where
  limit : Nat
  queue : List Job := []
  idle : Nat := 0
  threadCount : Nat := 0
  stopped : Bool := false
  threads : List ThreadPhase := []
  handles : List Nat := []
  shutDowns : List ShutDown := []
  entered : Nat := 0
  entering : List Job := []
  refused : List Job := []
  offering : Option JobOffer := none
  sets : Table String JobSet := {}
  log : List JobEvent := []

namespace JobPool

def start (limit : Nat) : JobPool where
  limit := limit

def setOf (p : JobPool) (name : String) : JobSet := (p.sets.get? name).getD {}

def pending (p : JobPool) (name : String) : Nat := (p.setOf name).live

def updateSet (p : JobPool) (name : Option String) (f : JobSet → JobSet) : JobPool :=
  { p with
    sets := match name with
      | none => p.sets
      | some name => p.sets.insert name (f (p.setOf name)) }

def setThread (p : JobPool) (thread : Nat) (phase : ThreadPhase) : JobPool :=
  { p with threads := p.threads.set thread phase }

def note (p : JobPool) (event : JobEvent) : JobPool := { p with log := p.log ++ [event] }

def nextJob (p : JobPool) (set : Option String) : Job := ⟨p.entered, set⟩

def enter (set : Option String) (p : JobPool) : JobPool :=
  { p with entered := p.entered + 1, entering := p.nextJob set :: p.entering }.updateSet set JobSet.enter

/-- Whether a thread is to be started for one more job: the queue will be longer than the number of threads
that wait for work. -/
def wantsThread (p : JobPool) : Bool := p.idle < p.queue.length + 1 && p.threadCount < p.limit

def accept (job : Job) (p : JobPool) : JobPool :=
  { p with
    queue := job :: p.queue
    threadCount := if p.wantsThread then p.threadCount + 1 else p.threadCount
    offering := some ⟨job, p.wantsThread, false⟩ }.note (.accepted job)

def offer (job : Job) (p : JobPool) : JobPool :=
  let p := { p with entering := p.entering.erase job }
  if p.stopped then { p with refused := job :: p.refused } else p.accept job

def discard (job : Job) (p : JobPool) : Except ClientError Unit × JobPool :=
  let answer := .error .poolStopped
  (answer, ({ p with refused := p.refused.erase job }.updateSet job.set JobSet.leave).note
    (.answered job answer))

def notify (p : JobPool) : Option Nat → JobPool
  | none => p
  | some thread => p.setThread thread .notified

def announce (notified : Option Nat) (p : JobPool) : JobPool :=
  { p.notify notified with offering := p.offering.map ({ · with announced := true }) }

def startThread (p : JobPool) : JobPool :=
  { p with threads := p.threads ++ [.starting], handles := p.handles ++ [p.threads.length] }

/-- The pool after a thread could not be started. The job stays in the queue. -/
def failStart (p : JobPool) : JobPool := { p with threadCount := p.threadCount - 1 }

def complete (offer : JobOffer) (failure : Option String) (p : JobPool) :
    Except ClientError Unit × JobPool :=
  let (answer, p) : Except ClientError Unit × JobPool :=
    if offer.start then
      match failure with
      | none => (.ok (), p.startThread)
      | some details => (.error (.io details), p.failStart)
    else (.ok (), p)
  (answer, { p with offering := none }.note (.answered offer.job answer))

/-- A thread at the queue takes the newest job; without one it parks, or exits if the pool is stopped. -/
def arrive (thread : Nat) (p : JobPool) : JobPool :=
  match p.queue with
  | job :: rest => ({ p with queue := rest }.setThread thread (.running job)).note (.begun job)
  | [] =>
    if p.stopped then p.setThread thread .exited
    else { p with idle := p.idle + 1 }.setThread thread .parked

def reach? (thread : Nat) (p : JobPool) : Option JobPool :=
  match p.threads[thread]? with
  | some .starting | some .ready => some (p.arrive thread)
  | some .notified => some ({ p with idle := p.idle - 1 }.arrive thread)
  | _ => none

def finish? (thread : Nat) (outcome : JobOutcome) (p : JobPool) : Option JobPool :=
  match p.threads[thread]? with
  | some (.running job) =>
    some (((p.setThread thread (.retiring job)).updateSet job.set (JobSet.record · outcome)).note
      (.ended job outcome))
  | _ => none

def retire? (thread : Nat) (p : JobPool) : Option JobPool :=
  match p.threads[thread]? with
  | some (.retiring job) => some ((p.setThread thread .ready).updateSet job.set JobSet.leave)
  | _ => none

def stop (caller : Option Nat) (p : JobPool) : JobPool :=
  { p with stopped := true, handles := [], shutDowns := p.shutDowns ++ [⟨caller, p.handles, .stopping⟩] }

def setShutDown (p : JobPool) (call : Nat) (phase : ShutDownPhase) : JobPool :=
  { p with shutDowns := p.shutDowns.modify call ({ · with phase }) }

def alarm (call : Nat) (p : JobPool) : JobPool :=
  { p.setShutDown call .joining with threads := p.threads.map ThreadPhase.alerted }

/-- Whether a call has joined the threads whose handles it took. It does not join its own. -/
def joined (p : JobPool) (s : ShutDown) : Bool :=
  s.handles.all fun thread => s.caller = some thread || p.threads[thread]? = some .exited

def collect? (name : String) (p : JobPool) : Option (Except ClientError Unit × JobPool) :=
  (p.setOf name).collect?.map fun (answer, s) =>
    (answer, { p with sets := p.sets.insert name s }.note (.collected name answer))

/-- A set is dropped once it has no jobs; what it has to say goes nowhere. -/
def dropSet? (name : String) (p : JobPool) : Option JobPool :=
  (p.collect? name).map fun (_, p) => { p with sets := p.sets.erase name }

def mayNotify (p : JobPool) : Option Nat → Bool
  | some thread => p.threads[thread]? = some .parked
  | none => !p.threads.contains .parked

/-- Whether someone may call: a thread of the pool only while it runs a job. -/
def mayCall (p : JobPool) : Option Nat → Bool
  | some thread =>
    match p.threads[thread]? with
    | some (.running _) => true
    | _ => false
  | none => true

inductive Step where
  | enter (set : Option String)
  | offer (job : Job)
  | discard (job : Job)
  | announce (notified : Option Nat)
  | complete (failure : Option String)
  | reach (thread : Nat)
  | finish (thread : Nat) (outcome : JobOutcome)
  | retire (thread : Nat)
  | stop (caller : Option Nat)
  | alarm (call : Nat)
  | join (call : Nat)
  | collect (set : String)
  | dropSet (set : String)
  deriving DecidableEq, Repr

def step? (p : JobPool) : Step → Option JobPool
  | .enter set => some (p.enter set)
  | .offer job => if p.offering = none ∧ job ∈ p.entering then some (p.offer job) else none
  | .discard job => if job ∈ p.refused then some (p.discard job).2 else none
  | .announce notified =>
    match p.offering with
    | some ⟨_, _, false⟩ => if p.mayNotify notified then some (p.announce notified) else none
    | _ => none
  | .complete failure =>
    match p.offering with
    | some ⟨job, start, true⟩ => some (p.complete ⟨job, start, true⟩ failure).2
    | _ => none
  | .reach thread => p.reach? thread
  | .finish thread outcome => p.finish? thread outcome
  | .retire thread => p.retire? thread
  | .stop caller => if p.offering = none ∧ p.mayCall caller then some (p.stop caller) else none
  | .alarm call =>
    match p.shutDowns[call]? with
    | some ⟨_, _, .stopping⟩ => some (p.alarm call)
    | _ => none
  | .join call =>
    match p.shutDowns[call]? with
    | some ⟨caller, handles, .joining⟩ =>
      if p.joined ⟨caller, handles, .joining⟩ then some (p.setShutDown call .returned) else none
    | _ => none
  | .collect set => (p.collect? set).map Prod.snd
  | .dropSet set => p.dropSet? set

def after (p : JobPool) (s : Step) : JobPool := (p.step? s).getD p

def run (p : JobPool) (steps : List Step) : JobPool := steps.foldl after p

/-- A caller enters and offers the next job and is answered with nothing in between; the first thread that
waits is notified, and a thread that is needed may fail to start. -/
def spawn (set : Option String) (failure : Option String) (p : JobPool) :
    Except ClientError Unit × JobPool :=
  let job := p.nextJob set
  let p := (p.enter set).offer job
  match p.offering with
  | none => p.discard job
  | some offer => (p.announce (p.threads.findIdx? (· = .parked))).complete offer failure

def shutDown (caller : Option Nat) (p : JobPool) : JobPool := (p.stop caller).alarm p.shutDowns.length

def begun (p : JobPool) : List Job := p.log.filterMap JobEvent.begun?

end JobPool
end TaskGrid
