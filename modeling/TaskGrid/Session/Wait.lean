import TaskGrid.Session.Basic

/-!
Waiting for outcomes. A waiter goes round by round: it takes a snapshot of the results it awaits, polls
their statuses, claims those that are final, and delivers their outcomes; then it stops or pauses. Only
claiming changes what a session tracks, and of several waiters each result is claimed by one. The order
in which a round goes through results is left open.
-/

namespace TaskGrid

/-- When to return before everything awaited is resolved: once one task is, or once one failed. -/
structure WaitBehavior where
  any : Bool := false
  breakOnError : Bool := false
  deriving DecidableEq, Repr

def WaitBehavior.bits (b : WaitBehavior) : Nat :=
  (if b.any then 1 else 0) + if b.breakOnError then 2 else 0

/-- How to poll, in milliseconds: the pause between two rounds, and the time to give up after. A timeout is taken to
fit a deadline, so that the clock can tell when it is over. -/
structure WaitOptions where
  polling : Nat := 500
  timeout : Option Nat := none
  deriving DecidableEq, Repr

inductive Outcome where
  | response (data : Octets)
  | failure (e : ClientError)
  deriving DecidableEq, Repr

structure Delivery where
  handler : Handler
  task : String
  outcome : Outcome
  deriving DecidableEq, Repr

/-- Where a waiter stands: the results it still awaits, unless it awaits all, how many it saw resolved,
and how long it paused. -/
structure Waiter where
  scope : Option (List String)
  resolved : Nat := 0
  elapsed : Nat := 0
  deriving DecidableEq, Repr

def Waiter.paused (w : Waiter) (time : Nat) : Waiter := { w with elapsed := w.elapsed + time }

inductive StopReason where
  | nothingAwaited | taskFailed | oneResolved | allResolved | timedOut
  deriving DecidableEq, Repr

namespace Session

/-- A waiter for the given tasks, or for all if none is given. Tasks that are not tracked are skipped. -/
def waiter (s : Session) (tasks : List String) : Waiter where
  scope := if tasks = [] then none else some (tasks.filterMap s.tracker.resultOf?).eraseDups

def awaited (s : Session) (w : Waiter) : List String := w.scope.getD s.tracker.results

/-- The statuses that batches of results are answered with. The results of a batch that fails have
none. -/
def pollBatches {σ : Type} (plane : ControlPlane σ) (session : String) :
    List (List String) → Table String ResultStatus → σ → Table String ResultStatus × σ
  | [], statuses, w => (statuses, w)
  | batch :: r, statuses, w =>
    match plane.resultStatuses session batch w with
    | (.ok answer, w) => pollBatches plane session r (statuses.insertAll answer) w
    | (.error _, w) => pollBatches plane session r statuses w

def poll {σ : Type} (s : Session) (plane : ControlPlane σ) (results : List String) (w : σ) :
    Table String ResultStatus × σ :=
  pollBatches plane s.id (chunks s.waitBatchSize results) {} w

/-- The outcome of a result with a final status; none if the control plane does not know it. -/
def outcome? {σ : Type} (plane : ControlPlane σ) (session result : String) (status : ResultStatus)
    (w : σ) : Option Outcome × σ :=
  match status with
  | .notFound => (none, w)
  | .deleted => (some (.failure (.internal s!"data of result {result} was deleted")), w)
  | .aborted =>
    match plane.downloadResult session result w with
    | (.ok _, w) =>
      (some (.failure (.internal s!"result {result} is aborted but its data is available")), w)
    | (.error e, w) => (some (.failure e), w)
  | _ =>
    match plane.downloadResult session result w with
    | (.ok data, w) => (some (.response data), w)
    | (.error e, w) => (some (.failure e), w)

/-- Whether an outcome counts as a success: a response whose callback does not panic. -/
def succeeded (handler : Handler) : Outcome → Bool
  | .response _ => !handler.panics
  | .failure _ => false

/-- Delivers the outcome of a claimed result. The flag tells whether the task counts as failed. -/
def dispatch {σ : Type} (plane : ControlPlane σ) (session result : String) (status : ResultStatus)
    (tracked : Tracked) (w : σ) : Option Delivery × Bool × σ :=
  match outcome? plane session result status w with
  | (none, w) => (none, false, w)
  | (some outcome, w) =>
    (some ⟨tracked.handler, tracked.task, outcome⟩, !succeeded tracked.handler outcome, w)

def dispatchAll {σ : Type} (plane : ControlPlane σ) (session : String) :
    List Tracker.Claim → σ → List Delivery × Bool × σ
  | [], w => ([], false, w)
  | ⟨_, _, none⟩ :: r, w => dispatchAll plane session r w
  | ⟨result, status, some tracked⟩ :: r, w =>
    let (delivery, failed, w) := dispatch plane session result status tracked w
    let (deliveries, more, w) := dispatchAll plane session r w
    (delivery.toList ++ deliveries, failed || more, w)

def settle (w : Waiter) (claims : List Tracker.Claim) : Waiter :=
  { w with
    scope := w.scope.map fun ids => ids.filter fun id => !claims.any (·.result = id)
    resolved := w.resolved + claims.length }

def verdict (s : Session) (behavior : WaitBehavior) (options : WaitOptions) (w : Waiter)
    (failed : Bool) : Option StopReason :=
  if behavior.breakOnError && failed then some .taskFailed
  else if behavior.any && 0 < w.resolved then some .oneResolved
  else if s.awaited w = [] then some .allResolved
  else if options.timeout.any (· ≤ w.elapsed) then some .timedOut
  else none

/-- What a round, or a whole wait, leaves behind. `stopped` is absent if the waiter would go on. -/
structure WaitResult (σ : Type) where
  claims : List Tracker.Claim
  deliveries : List Delivery
  stopped : Option StopReason
  waiter : Waiter
  session : Session
  plane : σ

def round {σ : Type} (plane : ControlPlane σ) (behavior : WaitBehavior) (options : WaitOptions)
    (visit : Visit) (waiter : Waiter) (s : Session) (w : σ) : WaitResult σ :=
  let snapshot := visit.arrange (s.awaited waiter)
  if snapshot = [] then ⟨[], [], some .nothingAwaited, waiter, s, w⟩
  else
    let (statuses, w) := s.poll plane snapshot w
    let (tracker, claims) := s.tracker.claim (visit.arrange statuses.entries)
    let s := { s with tracker }
    let (deliveries, failed, w) := dispatchAll plane s.id claims w
    let waiter := settle waiter claims
    ⟨claims, deliveries, s.verdict behavior options waiter failed, waiter, s, w⟩

/-- Rounds until the waiter stops, but no more than a given number. Pauses take as long as the options
say. -/
def rounds {σ : Type} (plane : ControlPlane σ) (behavior : WaitBehavior) (options : WaitOptions) :
    Nat → (visits : Nat → Visit) → Waiter → Session → σ → WaitResult σ
  | 0, _, waiter, s, w => ⟨[], [], none, waiter, s, w⟩
  | n + 1, visits, waiter, s, w =>
    let r := round plane behavior options (visits 0) waiter s w
    match r.stopped with
    | some _ => r
    | none =>
      let r' := rounds plane behavior options n (fun i => visits (i + 1))
        (r.waiter.paused options.polling) r.session r.plane
      { r' with claims := r.claims ++ r'.claims, deliveries := r.deliveries ++ r'.deliveries }

/-- Waits for the given tasks, or for all if none is given, for at most a number of rounds. -/
def wait {σ : Type} (s : Session) (plane : ControlPlane σ) (limit : Nat) (visits : Nat → Visit)
    (tasks : List String) (behavior : WaitBehavior) (options : WaitOptions) (w : σ) : WaitResult σ :=
  rounds plane behavior options limit visits (s.waiter tasks) s w

end Session
end TaskGrid
