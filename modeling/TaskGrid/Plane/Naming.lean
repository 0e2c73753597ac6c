import TaskGrid.Error
import TaskGrid.Plane.Basic

/-!
New results are asked for by name, and come back with their ids in any order.
-/

namespace TaskGrid.Naming

/-- The ids that belong to names, each of which can be taken once. -/
def take : Table String String → (names : List String) → Except GridError (List String)
  | _, [] => .ok []
  | ids, name :: r =>
    match ids.get? name with
    | none => .error (.unexpectedResponse ("result " ++ name ++ " missing from response"))
    | some id => (take (ids.erase name) r).map (id :: ·)

/-- The ids of new results in the order of the names that were asked for. -/
def idsOf (names : List String) (made : List ResultInfo) : Except GridError (List String) :=
  if made.length ≠ names.length then
    .error (.unexpectedResponse
      s!"asked for {names.length} results, control plane created {made.length}")
  else take (Table.ofList (made.map fun r => (r.name, r.id))) names

end TaskGrid.Naming
