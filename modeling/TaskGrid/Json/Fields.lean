import TaskGrid.Json.Value

/-!
Documents read without complaint: a member that is missing or of the wrong kind has the empty value of
its kind.
-/

namespace TaskGrid.Json

def field (j : Json) (name : String) : Json := (j.member? name).getD .null

def asText : Json → String
  | .str s => s
  | _ => ""

def asInt : Json → Int
  | .num (.integer i) => i
  | _ => 0

def asFlag : Json → Bool
  | .bool b => b
  | _ => false

def asList : Json → List Json
  | .arr items => items
  | _ => []

def asMembers : Json → List (String × Json)
  | .obj members => members
  | _ => []

def isNull : Json → Bool
  | .null => true
  | _ => false

def textAt (j : Json) (name : String) : String := asText (field j name)

def intAt (j : Json) (name : String) : Int := asInt (field j name)

def natAt (j : Json) (name : String) : Nat := (intAt j name).toNat

def flagAt (j : Json) (name : String) : Bool := asFlag (field j name)

def listAt (j : Json) (name : String) : List Json := asList (field j name)

def textsAt (j : Json) (name : String) : List String := (listAt j name).map asText

def textTable (entries : List (String × String)) : Json :=
  object (entries.map fun e => (e.1, .str e.2))

mutual

def mapTexts (f : String → String) : Json → Json
  | .str s => .str (f s)
  | .arr items => .arr (mapItems f items)
  | .obj members => .obj (mapMembers f members)
  | j => j

def mapItems (f : String → String) : List Json → List Json
  | [] => []
  | j :: r => mapTexts f j :: mapItems f r

def mapMembers (f : String → String) : List (String × Json) → List (String × Json)
  | [] => []
  | (name, j) :: r => (name, mapTexts f j) :: mapMembers f r

end

end TaskGrid.Json
