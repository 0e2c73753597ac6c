import TaskGrid.Jobs.Pool

/-!
Scenarios of a job pool: jobs with known outcomes, jobs that hold a thread until they are released, and
threads that take all the steps they can before the next thing happens.
-/

namespace TaskGrid

inductive JobScript where
  | hold
  | run (id : String) (outcome : JobOutcome)
  deriving DecidableEq, Repr

structure JobBench where
  pool : JobPool
  scripts : Table Nat JobScript := {}
  held : List Nat := []
  shown : Nat := 0

inductive JobBenchStep where
  | hold
  | release
  | spawn (set : Option String) (id : String) (outcome : JobOutcome)
  | wait (set : String)
  | dropSet (set : String)
  | pending (set : String)
  | threads
  | shutDown
  | ran

inductive JobShown where
  | nothing
  | answer (r : Except ClientError Unit)
  | noSet
  | existed (b : Bool)
  | count (n : Nat)
  | threads (limit count : Nat)
  | ran (ids : List String)

namespace JobBench

/-- A bench with a pool of at most so many threads; zero stands for the number of processors. -/
def start (limit processors : Nat) : JobBench where
  pool := .start (if limit = 0 then processors else limit)

/-- How a job ends; none while it is held. -/
def outcome? (b : JobBench) (job : Job) : Option JobOutcome :=
  if job.number ∈ b.held then none
  else match b.scripts.get? job.number with
    | some (.run _ outcome) => some outcome
    | _ => some .done

def threadStep? (b : JobBench) (thread : Nat) (phase : ThreadPhase) : Option JobPool :=
  match phase with
  | .starting | .ready | .notified => b.pool.reach? thread
  | .running job => (b.outcome? job).bind fun outcome => b.pool.finish? thread outcome
  | .retiring _ => b.pool.retire? thread
  | .parked | .exited => none

def firstStep? (b : JobBench) : Option JobPool :=
  b.pool.threads.zipIdx.findSome? fun (phase, thread) => b.threadStep? thread phase

def settleFor : Nat → JobBench → JobBench
  | 0, b => b
  | n + 1, b =>
    match b.firstStep? with
    | none => b
    | some pool => settleFor n { b with pool }

/-- All the steps that threads can take: a job takes no more than four, and a thread one more to park or
to exit. -/
def settle (b : JobBench) : JobBench :=
  b.settleFor (4 * (b.pool.queue.length + b.pool.threads.length))

def spawn (b : JobBench) (set : Option String) (script : JobScript) : Except ClientError Unit × JobBench :=
  let number := (b.pool.nextJob set).number
  let (answer, pool) := b.pool.spawn set none
  let b := { b with
    pool := pool
    scripts := b.scripts.insert number script
    held := if script = JobScript.hold then number :: b.held else b.held }
  (answer, b.settle)

def release (b : JobBench) : JobBench := { b with held := [] }.settle

def wait (b : JobBench) (set : String) : Option (Except ClientError Unit × JobBench) :=
  let b := b.release
  if b.pool.sets.contains set then
    (b.pool.collect? set).map fun (answer, pool) => (answer, { b with pool })
  else none

def shutDown (b : JobBench) : JobBench :=
  let b := b.release
  { b with pool := b.pool.shutDown none }.settle

/-- The ids that jobs wrote down and that were not shown yet. -/
def fresh (b : JobBench) : List String :=
  (b.pool.begun.drop b.shown).filterMap fun job =>
    match b.scripts.get? job.number with
    | some (.run id _) => some id
    | _ => none

def step (b : JobBench) : JobBenchStep → JobShown × JobBench
  | .hold =>
    let (answer, b) := b.spawn none .hold
    (.answer answer, b)
  | .release => (.nothing, b.release)
  | .spawn set id outcome =>
    let (answer, b) := b.spawn set (.run id outcome)
    (.answer answer, b)
  | .wait set =>
    match b.wait set with
    | none => (.noSet, b.release)
    | some (answer, b) => (.answer answer, b)
  | .dropSet set =>
    let b := b.release
    (.existed (b.pool.sets.contains set), { b with pool := (b.pool.dropSet? set).getD b.pool })
  | .pending set => (if b.pool.sets.contains set then .count (b.pool.pending set) else .noSet, b)
  | .threads => (.threads b.pool.limit b.pool.threadCount, b)
  | .shutDown => (.nothing, b.shutDown)
  | .ran => (.ran b.fresh, { b with shown := b.pool.begun.length })

/-- A job that stops the pool it runs on and then offers another job there: whether the first job was
taken, and what became of the second. -/
def selfShutDown (limit processors : Nat) : Bool × Except ClientError Unit :=
  let b := start limit processors
  let (first, pool) := b.pool.spawn none none
  let pool := (pool.reach? 0).getD pool
  (first.isOk, ((pool.shutDown (some 0)).spawn none none).1)

end JobBench
end TaskGrid
