import TaskGrid.Json.Fields
import TaskGrid.Text.Hex
import TaskGrid.Wire.Schema

/-!
Messages as JSON documents: every field under its name, bytes in hexadecimal digits, an absent message as
null, and a choice as an object of the one case that was made. Reading gives the empty value to fields
that are missing.
-/

namespace TaskGrid.Wire

def Scalar.ofJson (t : Scalar) (j : Json) : t.Value :=
  match t with
  | .int32 => Int32.ofInt j.asInt
  | .int64 => Int64.ofInt j.asInt
  | .text => j.asText
  | .octets => Hex.octetsOf j.asText

def Scalar.toJson (t : Scalar) (x : t.Value) : Json :=
  match t, x with
  | .int32, x => .num (.integer (Int32.toInt x))
  | .int64, x => .num (.integer (Int64.toInt x))
  | .text, x => .str x
  | .octets, x => .str (Hex.textOf x)

namespace Schema

mutual

def ofJson : (s : Schema) → Json → s.Value
  | .done, _ => ()
  | .scalar _ name t rest, j => (t.ofJson (j.field name), rest.ofJson j)
  | .texts _ name rest, j => (j.textsAt name, rest.ofJson j)
  | .table _ name rest, j =>
    (Table.ofList ((j.field name).asMembers.map fun m => (m.1, m.2.asText)), rest.ofJson j)
  | .message _ name body rest, j =>
    (if (j.field name).isNull then none else some (body.ofJson (j.field name)), rest.ofJson j)
  | .messages _ name body rest, j => ((j.listAt name).map body.ofJson, rest.ofJson j)
  | .choice name cases rest, j => (cases.caseOfJson (j.field name), rest.ofJson j)

def caseOfJson : (s : Schema) → Json → Option s.Case
  | .done, _ => none
  | .scalar _ name t rest, j =>
    match j.member? name with
    | some v => some (.inl (t.ofJson v))
    | none => (rest.caseOfJson j).map .inr
  | .message _ name body rest, j =>
    match j.member? name with
    | some v => some (.inl (body.ofJson v))
    | none => (rest.caseOfJson j).map .inr
  | .texts _ _ rest, j => rest.caseOfJson j
  | .table _ _ rest, j => rest.caseOfJson j
  | .messages _ _ _ rest, j => rest.caseOfJson j
  | .choice _ _ rest, j => rest.caseOfJson j

end

mutual

def members : (s : Schema) → s.Value → List (String × Json)
  | .done, _ => []
  | .scalar _ name t rest, (x, xs) => (name, t.toJson x) :: rest.members xs
  | .texts _ name rest, (x, xs) => (name, Json.texts x) :: rest.members xs
  | .table _ name rest, (x, xs) => (name, Json.textTable x.entries) :: rest.members xs
  | .message _ name body rest, (x, xs) =>
    (name, match x with
      | none => .null
      | some v => .object (body.members v)) :: rest.members xs
  | .messages _ name body rest, (x, xs) =>
    (name, .arr (x.map fun v => .object (body.members v))) :: rest.members xs
  | .choice name cases rest, (x, xs) =>
    (name, match x with
      | none => .null
      | some c => .object (cases.caseMembers c)) :: rest.members xs

def caseMembers : (s : Schema) → s.Case → List (String × Json)
  | .scalar _ name t _, .inl x => [(name, t.toJson x)]
  | .scalar _ _ _ rest, .inr c => rest.caseMembers c
  | .message _ name body _, .inl v => [(name, .object (body.members v))]
  | .message _ _ _ rest, .inr c => rest.caseMembers c
  | .texts _ _ rest, c => rest.caseMembers c
  | .table _ _ rest, c => rest.caseMembers c
  | .messages _ _ _ rest, c => rest.caseMembers c
  | .choice _ _ rest, c => rest.caseMembers c

end

def toJson (s : Schema) (v : s.Value) : Json := .object (s.members v)

end Schema
end TaskGrid.Wire
