import TaskGrid.Table
import TaskGrid.Wire.Field

/-!
Message schemas, the values they describe, and one codec for all of them. A message is written field by
field in the order of its schema; reading merges the fields of an input, in any order, into the empty
value.
-/

namespace TaskGrid.Wire

/-- The plain kinds of content. Enumerations are open: they are integers of 32 bits. -/
inductive Scalar where
  | int32 | int64 | text | octets
  deriving DecidableEq, Repr

abbrev Scalar.Value : Scalar → Type
  | .int32 => Int32
  | .int64 => Int64
  | .text => String
  | .octets => Octets

/-- The fields of a message, each with its number and name. There are `texts` and `messages` any number of times, a
`message` may be absent, and of a choice there is one case at most; its cases are the `scalar` and `message` fields
of a schema of its own. -/
inductive Schema where
  | done
  | scalar (number : Nat) (name : String) (type : Scalar) (rest : Schema)
  | texts (number : Nat) (name : String) (rest : Schema)
  | table (number : Nat) (name : String) (rest : Schema)
  | message (number : Nat) (name : String) (body rest : Schema)
  | messages (number : Nat) (name : String) (body rest : Schema)
  | choice (name : String) (cases rest : Schema)
  deriving DecidableEq, Repr

namespace Schema

mutual

def Value : Schema → Type
  | .done => Unit
  | .scalar _ _ type rest => type.Value × rest.Value
  | .texts _ _ rest => List String × rest.Value
  | .table _ _ rest => Table String String × rest.Value
  | .message _ _ body rest => Option body.Value × rest.Value
  | .messages _ _ body rest => List body.Value × rest.Value
  | .choice _ cases rest => Option cases.Case × rest.Value

def Case : Schema → Type
  | .done => Empty
  | .scalar _ _ type rest => type.Value ⊕ rest.Case
  | .message _ _ body rest => body.Value ⊕ rest.Case
  | .texts _ _ rest => rest.Case
  | .table _ _ rest => rest.Case
  | .messages _ _ _ rest => rest.Case
  | .choice _ _ rest => rest.Case

end

end Schema

namespace Scalar

/-- The value of a field that is not written. -/
def zero : (t : Scalar) → t.Value
  | .int32 => (0 : Int32)
  | .int64 => (0 : Int64)
  | .text => ""
  | .octets => []

def isZero : (t : Scalar) → t.Value → Bool
  | .int32, x => x == (0 : Int32)
  | .int64, x => x == (0 : Int64)
  | .text, x => x == ""
  | .octets, x => x.isEmpty

/-- How the content of a kind is framed. -/
def framing : Scalar → Framing
  | .int32 | .int64 => .varint
  | .text | .octets => .delimited

/-- An integer as a natural number of 64 bits. -/
def unsigned (i : Int) : Nat := (i % UInt64.size).toNat

def write : (t : Scalar) → t.Value → Octets
  | .int32, x => Varint.write (unsigned (Int32.toInt x))
  | .int64, x => Varint.write (unsigned (Int64.toInt x))
  | .text, x => Varint.write (Utf8.encode x).length ++ Utf8.encode x
  | .octets, x => Varint.write (List.length x) ++ x

/-- The value of a content; the wrong framing and bytes that are no text have none. Integers keep
their low bits. -/
def read? : (t : Scalar) → Content → Option t.Value
  | .int32, .varint n => some (Int32.ofInt n)
  | .int64, .varint n => some (Int64.ofInt n)
  | .text, .octets b => (Utf8.decode b).toOption
  | .octets, .octets b => some b
  | _, _ => none

end Scalar

def writeDelimited (number : Nat) (bytes : Octets) : Octets :=
  Key.write ⟨number, .delimited⟩ ++ Varint.write bytes.length ++ bytes

def writeScalar (number : Nat) (t : Scalar) (x : t.Value) : Octets :=
  Key.write ⟨number, t.framing⟩ ++ t.write x

/-- A plain field, left out if its value is that of a field that is not written. -/
def writeNonzero (number : Nat) (t : Scalar) (x : t.Value) : Octets :=
  if t.isZero x then [] else writeScalar number t x

namespace Schema

/-- An entry of a table: the key and its value. -/
def entry : Schema := .scalar 1 "key" .text (.scalar 2 "value" .text .done)

mutual

def encode : (s : Schema) → s.Value → Octets
  | .done, _ => []
  | .scalar n _ t rest, (x, xs) => writeNonzero n t x ++ rest.encode xs
  | .texts n _ rest, (x, xs) =>
    x.flatMap (fun t => writeDelimited n (Utf8.encode t)) ++ rest.encode xs
  | .table n _ rest, (x, xs) =>
    x.entries.flatMap (fun e => writeDelimited n
      (writeNonzero 1 .text e.1 ++ writeNonzero 2 .text e.2)) ++ rest.encode xs
  | .message n _ body rest, (x, xs) =>
    (match x with
      | none => []
      | some v => writeDelimited n (body.encode v)) ++ rest.encode xs
  | .messages n _ body rest, (x, xs) =>
    x.flatMap (fun v => writeDelimited n (body.encode v)) ++ rest.encode xs
  | .choice _ cases rest, (x, xs) =>
    (match x with
      | none => []
      | some c => cases.encodeCase c) ++ rest.encode xs

def encodeCase : (s : Schema) → s.Case → Octets
  | .scalar n _ t _, .inl x => writeScalar n t x
  | .scalar _ _ _ rest, .inr c => rest.encodeCase c
  | .message n _ body _, .inl v => writeDelimited n (body.encode v)
  | .message _ _ _ rest, .inr c => rest.encodeCase c
  | .texts _ _ rest, c => rest.encodeCase c
  | .table _ _ rest, c => rest.encodeCase c
  | .messages _ _ _ rest, c => rest.encodeCase c
  | .choice _ _ rest, c => rest.encodeCase c

end

def empty : (s : Schema) → s.Value
  | .done => ()
  | .scalar _ _ t rest => (t.zero, rest.empty)
  | .texts _ _ rest => ([], rest.empty)
  | .table _ _ rest => (Table.empty, rest.empty)
  | .message _ _ _ rest => (none, rest.empty)
  | .messages _ _ _ rest => ([], rest.empty)
  | .choice _ _ rest => (none, rest.empty)

def tables : Schema → List Nat
  | .done => []
  | .table n _ rest => n :: rest.tables
  | .scalar _ _ _ rest | .texts _ _ rest | .message _ _ _ rest | .messages _ _ _ rest
  | .choice _ _ rest => rest.tables

def octets? : Content → Option Octets
  | .octets b => some b
  | _ => none

def mergeFields {α : Type} (tables : List Nat) (limit : Nat) (merge : Field → α → Option α) (x : α)
    (bytes : Octets) : Option α :=
  (Field.readAll tables limit bytes).bind fun fields => fields.foldlM (fun x f => merge f x) x

def readEntry (limit : Nat) (bytes : Octets) : Option (String × String) :=
  mergeFields [] limit (fun f (k, v) =>
    if f.number = 1 then (Scalar.read? .text f.content).map fun k => (k, v)
    else if f.number = 2 then (Scalar.read? .text f.content).map fun v => (k, v)
    else some (k, v)) ("", "") bytes

mutual

/-- Merges a field into a message. Unknown fields change nothing; the last of several plain ones wins,
and messages are merged with what was there before. Deeper messages leave fewer groups to be open. -/
def merge : (s : Schema) → (limit : Nat) → Field → s.Value → Option s.Value
  | .done, _, _, _ => some ()
  | .scalar n _ t rest, limit, f, (x, xs) =>
    if f.number = n then (t.read? f.content).map fun x => (x, xs)
    else (rest.merge limit f xs).map fun xs => (x, xs)
  | .texts n _ rest, limit, f, (x, xs) =>
    if f.number = n then (Scalar.read? .text f.content).map fun t => (x ++ [t], xs)
    else (rest.merge limit f xs).map fun xs => (x, xs)
  | .table n _ rest, limit, f, (x, xs) =>
    if f.number = n then
      ((octets? f.content).bind (readEntry (limit - 1))).map fun (k, v) => (x.insert k v, xs)
    else (rest.merge limit f xs).map fun xs => (x, xs)
  | .message n _ body rest, limit, f, (x, xs) =>
    if f.number = n then
      ((octets? f.content).bind (mergeFields body.tables (limit - 1) (body.merge (limit - 1))
        (x.getD body.empty))).map fun v => (some v, xs)
    else (rest.merge limit f xs).map fun xs => (x, xs)
  | .messages n _ body rest, limit, f, (x, xs) =>
    if f.number = n then
      ((octets? f.content).bind (mergeFields body.tables (limit - 1) (body.merge (limit - 1))
        body.empty)).map fun v => (x ++ [v], xs)
    else (rest.merge limit f xs).map fun xs => (x, xs)
  | .choice _ cases rest, limit, f, (x, xs) =>
    match cases.mergeCase limit f x with
    | some read => read.map fun c => (some c, xs)
    | none => (rest.merge limit f xs).map fun xs => (x, xs)

/-- Merges a field into a choice, if it is one of its cases: a case that was made before is merged
with, any other is replaced. -/
def mergeCase : (s : Schema) → (limit : Nat) → Field → Option s.Case → Option (Option s.Case)
  | .done, _, _, _ => none
  | .scalar n _ t rest, limit, f, x =>
    if f.number = n then some ((t.read? f.content).map .inl)
    else (rest.mergeCase limit f (x.bind fun c => c.getRight?)).map fun r => r.map .inr
  | .message n _ body rest, limit, f, x =>
    if f.number = n then
      some (((octets? f.content).bind (mergeFields body.tables (limit - 1) (body.merge (limit - 1))
        ((x.bind fun c => c.getLeft?).getD body.empty))).map .inl)
    else (rest.mergeCase limit f (x.bind fun c => c.getRight?)).map fun r => r.map .inr
  | .texts _ _ rest, limit, f, x => rest.mergeCase limit f x
  | .table _ _ rest, limit, f, x => rest.mergeCase limit f x
  | .messages _ _ _ rest, limit, f, x => rest.mergeCase limit f x
  | .choice _ _ rest, limit, f, x => rest.mergeCase limit f x

end

/-- How many groups may be open around a field of a whole message. -/
def maxGroups : Nat := 100

def decode? (s : Schema) (bytes : Octets) : Option s.Value :=
  mergeFields s.tables maxGroups (s.merge maxGroups) s.empty bytes

end Schema
end TaskGrid.Wire
