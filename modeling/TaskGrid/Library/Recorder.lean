import TaskGrid.Worker.Service

/-!
A service that writes down what happens to it, and panics where its names say so.
-/

namespace TaskGrid.Library

structure Recorder where
  group : String
  name : String
  calls : Nat := 0
  deriving DecidableEq, Repr

structure Visit where
  session : String
  calls : Nat := 0
  deriving DecidableEq, Repr

namespace Recorder

def tag (r : Recorder) : String := r.group ++ "/" ++ r.name

/-- The outcome of a method; the call itself is counted already. -/
def answer (r : Recorder) (v : Visit) (method : String) (input : Octets) :
    Except Panic (Except String Octets) :=
  match method with
  | "Echo" => .ok (.ok input)
  | "Reverse" => .ok (.ok input.reverse)
  | "Empty" => .ok (.ok [])
  | "Session" => .ok (.ok (Utf8.encode v.session))
  | "Tag" => .ok (.ok (Utf8.encode r.tag))
  | "Count" => .ok (.ok (Utf8.encode s!"{v.calls}/{r.calls}"))
  | "Fail" => .ok (.error (Utf8.decodeLossy input))
  | "Panic" => .error (.text "service bug")
  | "PanicText" => .error (.text (Utf8.decodeLossy input))
  | "PanicOther" => .error .other
  | _ => .ok (.error ("unknown method " ++ method))

def panicIf {α : Type} (panics : Bool) (message : String) (a : α) : Except Panic α :=
  if panics then .error (.text message) else .ok a

end Recorder

/-- The recorder. The world around it is the list of what happened. -/
def recorder : Service (List String) Recorder Visit where
  create group name events :=
    let r : Recorder := { group, name }
    (Recorder.panicIf (name = "panic-create") ("cannot create " ++ name) r, events ++ ["create " ++ r.tag])
  enter r session events :=
    (Recorder.panicIf (session = "panic-enter") ("cannot enter " ++ session) { session }, r,
      events ++ ["enter " ++ session])
  leave r v events :=
    (Recorder.panicIf (v.session = "panic-leave") ("cannot leave " ++ v.session) (), r,
      events ++ [s!"leave {v.session} after {v.calls}"])
  call r v method input events :=
    let r := { r with calls := r.calls + 1 }
    let v := { v with calls := v.calls + 1 }
    (r.answer v method input, r, v, events ++ ["call " ++ method])
  release r events :=
    (Recorder.panicIf (r.tag.endsWith "panic-destroy") ("cannot destroy " ++ r.tag) (),
      events ++ [s!"destroy {r.tag} after {r.calls}"])

end TaskGrid.Library
