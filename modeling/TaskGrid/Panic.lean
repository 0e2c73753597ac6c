/-!
Panics, as they look to whoever catches them. What a panic carries is dropped after that look, which is taken not to
panic again; only a `WildService` may do otherwise.
-/

namespace TaskGrid

inductive Panic where
  | text (message : String)
  | other
  deriving DecidableEq, Repr

def Panic.message : Panic → String
  | .text message => message
  | .other => "unknown panic payload"

end TaskGrid
