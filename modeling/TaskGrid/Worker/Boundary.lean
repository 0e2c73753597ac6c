import TaskGrid.Text.Utf8
import TaskGrid.Worker.Error

/-!
The boundary between a worker and an application library. It is that of the C language: a text ends at
its first zero byte, data is an address and a size, and what a library keeps for a service or a session
is an address that only the library can follow.
-/

namespace TaskGrid

/-- How a call ended, or what a report is about: zero means success. -/
abbrev CallStatus := Int32

def CallStatus.isOk (s : CallStatus) : Bool := s == 0

/-- The address of something that a library keeps; none is the null address. -/
abbrev Context := Option Nat

/-- A text on its way over the boundary: its bytes up to the terminator, or the null address. -/
abbrev CText := Option Octets

namespace CText

/-- The text at an address, read with U+FFFD for what is not UTF-8. -/
def read : CText → String
  | none => ""
  | some bytes => Utf8.decodeLossy bytes

def nulPosition? (s : String) : Option Nat := (Utf8.encode s).findIdx? (· == 0)

def ofString (s : String) : Except WorkerError CText :=
  match nulPosition? s with
  | some position => .error (.nulInText position)
  | none => .ok (some (Utf8.encode s))

end CText

/-- The bytes at an address, unless it is null, and how many of them are meant. -/
structure Data where
  bytes : Option Octets
  size : Nat
  deriving DecidableEq, Repr

namespace Data

def ofOctets (bytes : Octets) : Data := ⟨some bytes, bytes.length⟩

/-- The bytes that are handed over; a null address holds none. -/
def read (d : Data) : Octets :=
  match d.bytes with
  | none => []
  | some bytes => bytes.take d.size

end Data

/-- One use of the callback: whether the library hands back the caller's address, and what it says of a call. -/
structure Report where
  addressed : Bool
  status : CallStatus
  data : Data
  deriving DecidableEq, Repr

/-- What a call does at the boundary: its reports in order, then its status. -/
structure CallReply where
  reports : List Report
  status : CallStatus
  deriving DecidableEq, Repr

/-- The entry points of a library; `σ` is what they may change. Without a callback there are no reports of a call. -/
structure EntryPoints (σ : Type) where
  createService : (group name : CText) → σ → Context × σ
  destroyService : (service : Context) → σ → σ
  enterSession : (service : Context) → (session : CText) → σ → Context × σ
  leaveSession : (service session : Context) → σ → σ
  call : (service session : Context) → (method : CText) → (input : Data) → (callback : Bool) →
    σ → CallReply × σ

/-- The entry points, seen from a state of which theirs is a part. -/
def EntryPoints.within {σ τ : Type} (e : EntryPoints σ) (get : τ → σ) (set : τ → σ → τ) :
    EntryPoints τ where
  createService group name w :=
    let (context, part) := e.createService group name (get w)
    (context, set w part)
  destroyService service w := set w (e.destroyService service (get w))
  enterSession service session w :=
    let (context, part) := e.enterSession service session (get w)
    (context, set w part)
  leaveSession service session w := set w (e.leaveSession service session (get w))
  call service session method input callback w :=
    let (reply, part) := e.call service session method input callback (get w)
    (reply, set w part)

end TaskGrid
