import TaskGrid.Channel.Pool

/-!
Scenarios of a channel pool whose channels are numbers, and which break and are repaired from outside.
-/

namespace TaskGrid

structure NumberedChannels where
  created : Nat := 0
  failures : Nat := 0
  broken : List Nat := []
  deriving DecidableEq, Repr

namespace NumberedChannels

def create (n : NumberedChannels) : Except ClientError Nat × NumberedChannels :=
  if n.failures = 0 then (.ok (n.created + 1), { n with created := n.created + 1 })
  else (.error (.transport "cannot connect"), { n with failures := n.failures - 1 })

def factory : ChannelFactory NumberedChannels Nat where
  create := create
  isUsable c n := !n.broken.contains c

/-- Breaks a channel. The flag tells whether it was of use before. -/
def breakChannel (n : NumberedChannels) (c : Nat) : Bool × NumberedChannels :=
  if n.broken.contains c then (false, n) else (true, { n with broken := c :: n.broken })

/-- Repairs a channel. The flag tells whether it was broken. -/
def repair (n : NumberedChannels) (c : Nat) : Bool × NumberedChannels :=
  if n.broken.contains c then (true, { n with broken := n.broken.filter (· ≠ c) }) else (false, n)

end NumberedChannels

/-- A pool of numbered channels and those that are checked out, by the names of their holders. -/
structure ChannelBench where
  pool : ChannelPool Nat := {}
  world : NumberedChannels := {}
  held : Table String Nat := {}

inductive ChannelStep where
  | acquire (holder : String)
  | drop (holder : String)
  | replace (holder : String) (channel : Nat)
  | breakChannel (channel : Nat)
  | repair (channel : Nat)
  | failNext
  | release (channel : Nat)
  | use (breaks panics : Bool)

inductive ChannelShown where
  | nothing
  | flag (b : Bool)
  | channel (answer : Except ClientError Nat)
  | previous (channel : Option Nat)
  | panicked

namespace ChannelBench

open NumberedChannels (factory)

def release (b : ChannelBench) (c : Nat) : ChannelBench :=
  { b with pool := b.pool.release factory c b.world }

def hold (b : ChannelBench) (holder : String) (c : Nat) : ChannelBench :=
  let before := b.held.get? holder
  let b := { b with held := b.held.insert holder c }
  match before with
  | some old => b.release old
  | none => b

def useChannel (breaks panics : Bool) (c : Nat) (n : NumberedChannels) :
    ChannelPool.Used NumberedChannels Nat Nat where
  answer := if panics then .error .other else .ok c
  channel := c
  world := if breaks then (n.breakChannel c).2 else n

def step (b : ChannelBench) : ChannelStep → ChannelShown × ChannelBench
  | .acquire holder =>
    match b.pool.acquire factory b.world with
    | (.error e, pool, world) => (.channel (.error e), { b with pool, world })
    | (.ok c, pool, world) => (.channel (.ok c), { b with pool, world }.hold holder c)
  | .drop holder =>
    match b.held.get? holder with
    | none => (.flag false, b)
    | some c => (.flag true, { b with held := b.held.erase holder }.release c)
  | .replace holder channel =>
    match b.held.get? holder with
    | none => (.previous none, b)
    | some c => (.previous (some c), { b with held := b.held.insert holder channel })
  | .breakChannel c =>
    let (changed, world) := b.world.breakChannel c
    (.flag changed, { b with world })
  | .repair c =>
    let (changed, world) := b.world.repair c
    (.flag changed, { b with world })
  | .failNext => (.nothing, { b with world := { b.world with failures := b.world.failures + 1 } })
  | .release c => (.nothing, b.release c)
  | .use breaks panics =>
    match b.pool.withChannel factory (useChannel breaks panics) b.world with
    | (.error e, pool, world) => (.channel (.error e), { b with pool, world })
    | (.ok (.error _), pool, world) => (.panicked, { b with pool, world })
    | (.ok (.ok c), pool, world) => (.channel (.ok c), { b with pool, world })

end ChannelBench
end TaskGrid
