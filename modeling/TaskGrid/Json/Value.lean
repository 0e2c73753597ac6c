import TaskGrid.Decimal.Shortest

/-!
JSON values, and the text of a scalar.
-/

namespace TaskGrid

namespace Json

/-- A number: integers of up to 64 bits are kept exactly, all others as binary floating point. -/
inductive Number where
  | integer (i : Int)
  | real (x : Binary64)
  deriving DecidableEq, Repr

/-- Floating-point numbers keep a decimal point; a power of ten is written for a first digit beyond
sixteen places before the point or five after it. -/
def realLayout : Decimal.Layout := ⟨-5, 15, "e+", "e-"⟩

def Number.text : Number → String
  | .integer i => toString i
  | .real x => realLayout.text x

end Json

/-- A JSON value. Readers list the members of an object once each, in increasing order of names. -/
inductive Json where
  | null
  | bool (b : Bool)
  | num (n : Json.Number)
  | str (s : String)
  | arr (items : List Json)
  | obj (members : List (String × Json))
  deriving Inhabited

namespace Json

def insertMember (name : String) (value : Json) : List (String × Json) → List (String × Json)
  | [] => [(name, value)]
  | (n, v) :: r =>
    if name < n then (name, value) :: (n, v) :: r
    else if name = n then (name, value) :: r
    else (n, v) :: insertMember name value r

/-- The object with the given members, the last of one name winning. -/
def object (members : List (String × Json)) : Json :=
  .obj (members.foldl (fun ms m => insertMember m.1 m.2 ms) [])

def member? (name : String) : Json → Option Json
  | .obj members => (members.find? (·.1 = name)).map Prod.snd
  | _ => none

def isObject : Json → Bool
  | .obj _ => true
  | _ => false

def ofNat (n : Nat) : Json := .num (.integer n)

def texts (ts : List String) : Json := .arr (ts.map .str)

end Json
end TaskGrid
