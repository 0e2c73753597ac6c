import TaskGrid.Client.Error
import TaskGrid.Panic
import TaskGrid.Table

/-!
A pool of channels. A channel is either free in the pool or checked out by one holder; it goes back when
the holder is done with it, unless it is of no more use.
-/

namespace TaskGrid

/-- A maker of channels; `ω` is its state, and that of what the channels lead to. -/
structure ChannelFactory (ω γ : Type) where
  create : ω → Except ClientError γ × ω
  isUsable : γ → ω → Bool

/-- The channels that are free, the one released last first. -/
structure ChannelPool (γ : Type) where
  free : List γ := []
  deriving DecidableEq, Repr

namespace ChannelPool

variable {ω γ α : Type}

/-- The first channel that is of use, and those after it; the ones before it are discarded. -/
def takeUsable (isUsable : γ → Bool) : List γ → Option (γ × List γ)
  | [] => none
  | c :: r => if isUsable c then some (c, r) else takeUsable isUsable r

def acquire (p : ChannelPool γ) (factory : ChannelFactory ω γ) (w : ω) :
    Except ClientError γ × ChannelPool γ × ω :=
  match takeUsable (factory.isUsable · w) p.free with
  | some (c, free) => (.ok c, ⟨free⟩, w)
  | none =>
    let (made, w) := factory.create w
    (made, ⟨[]⟩, w)

def release (p : ChannelPool γ) (factory : ChannelFactory ω γ) (c : γ) (w : ω) : ChannelPool γ :=
  if factory.isUsable c w then ⟨c :: p.free⟩ else p

/-- What a user of a channel leaves behind: its answer, unless it panics, and the channel. -/
structure Used (ω γ α : Type) where
  answer : Except Panic α
  channel : γ
  world : ω

/-- Runs something with a channel, which goes back to the pool even after a panic. -/
def withChannel (p : ChannelPool γ) (factory : ChannelFactory ω γ) (use : γ → ω → Used ω γ α) (w : ω) :
    Except ClientError (Except Panic α) × ChannelPool γ × ω :=
  match p.acquire factory w with
  | (.error e, p, w) => (.error e, p, w)
  | (.ok c, p, w) =>
    let used := use c w
    (.ok used.answer, p.release factory used.channel used.world, used.world)

def idleCount (p : ChannelPool γ) : Nat := p.free.length

end ChannelPool
end TaskGrid
