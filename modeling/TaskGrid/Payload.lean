import TaskGrid.Error
import TaskGrid.Text.Hex

/-!
The payload of a task: a method call with its arguments, framed into fields. Every field is its length
in eight hexadecimal digits and then its bytes: the method's name, the arguments, and each data
dependency until the input ends.
-/

namespace TaskGrid

/-- A method call to be run by a worker. Its dependencies are the ids of the results that it needs. -/
structure Payload where
  method : String
  arguments : Octets
  dependencies : List String
  deriving DecidableEq, Repr

namespace Payload

inductive Flaw where
  | fieldTooLong (size : Nat)
  | truncatedLength (left : Nat)
  | badLength (digits : Octets)
  | truncatedField (size left : Nat)
  | methodNotText (flaw : Utf8.Flaw)
  | dependencyNotText (flaw : Utf8.Flaw)
  deriving DecidableEq, Repr

def lengthWidth : Nat := 8

def Flaw.message : Flaw → String
  | .fieldTooLong size => s!"field of {size} bytes does not fit a 32-bit length prefix"
  | .truncatedLength left => s!"truncated length prefix: {left} bytes left, {lengthWidth} needed"
  | .badLength digits =>
    "length prefix " ++ Text.quote (Utf8.decodeLossy digits) ++ " is not hexadecimal"
  | .truncatedField size left => s!"field length {size} exceeds the {left} remaining bytes"
  | .methodNotText flaw => "method name is not valid UTF-8: " ++ flaw.message
  | .dependencyNotText flaw => "data dependency is not valid UTF-8: " ++ flaw.message

def Flaw.toGrid (f : Flaw) : GridError := .payloadFormat f.message

def encodeField (field : Octets) : Except Flaw Octets :=
  if field.length < Nat.pow 16 lengthWidth then .ok (Hex.write lengthWidth field.length ++ field)
  else .error (.fieldTooLong field.length)

def fields (p : Payload) : List Octets :=
  Utf8.encode p.method :: p.arguments :: p.dependencies.map Utf8.encode

/-- The payload on the wire; the first field that is too long is the error. -/
def encode (p : Payload) : Except Flaw Octets := (p.fields.mapM encodeField).map List.flatten

def readField (bytes : Octets) : Except Flaw (Octets × { r : Octets // r.length < bytes.length }) :=
  if h : bytes.length < lengthWidth then .error (.truncatedLength bytes.length)
  else
    let rest := bytes.drop lengthWidth
    match Hex.read? (bytes.take lengthWidth) with
    | none => .error (.badLength (bytes.take lengthWidth))
    | some size =>
      if rest.length < size then .error (.truncatedField size rest.length)
      else .ok (rest.take size, ⟨rest.drop size, by
        simp only [lengthWidth] at h; simp only [rest, lengthWidth, List.length_drop]; omega⟩)

def readDependencies (bytes : Octets) : Except Flaw (List String) :=
  if bytes = [] then .ok []
  else match readField bytes with
    | .error e => .error e
    | .ok (field, ⟨rest, _⟩) => match Utf8.decode field with
      | .error e => .error (.dependencyNotText e)
      | .ok dependency => (readDependencies rest).map (dependency :: ·)
termination_by bytes.length

def decode (bytes : Octets) : Except Flaw Payload := do
  let (field, rest) ← readField bytes
  let method ← (Utf8.decode field).mapError .methodNotText
  let (arguments, rest) ← readField rest.val
  let dependencies ← readDependencies rest.val
  return ⟨method, arguments, dependencies⟩

end Payload
end TaskGrid
