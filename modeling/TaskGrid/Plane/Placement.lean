import TaskGrid.Chunks
import TaskGrid.Wire.Messages

/-!
Where the payloads of a submission go. Each becomes the data of a result with a name of its own: up to a
limit the data comes with the request that makes the result, beyond it the data is streamed in chunks.
-/

namespace TaskGrid

open Wire

structure PlacedPayload where
  index : Nat
  name : String
  data : Octets
  deriving DecidableEq, Repr

namespace PlacedPayload

def number : (index : Nat) → (names : List String) → List Octets → List PlacedPayload
  | index, name :: names, data :: r => ⟨index, name, data⟩ :: number (index + 1) names r
  | _, _, _ => []

def fits (limit : Nat) (p : PlacedPayload) : Bool := p.data.length ≤ limit

def uploadMessages (session result : String) (limit : Nat) (data : Octets) :
    List Message.uploadResultDataRequest.Value :=
  (some (.inl (session, result, ())), ()) ::
    (chunks limit data).map fun chunk => (some (.inr (.inl chunk)), ())

/-- The id given to a place; none is the empty id. -/
def idAt (given : List (Nat × String)) (index : Nat) : String := (given.lookup index).getD ""

end PlacedPayload
end TaskGrid
