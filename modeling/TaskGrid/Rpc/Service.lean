import TaskGrid.Rpc.Method
import TaskGrid.Rpc.Status

/-!
Making remote calls: what comes back from one, and what is known of the far side.
-/

namespace TaskGrid.Rpc

/-- What comes back from a call: messages, and then the status it failed with, if it did. -/
structure Reply (α : Type) where
  messages : List α
  failure : Option Status := none

namespace Reply

variable {α : Type}

def failed (s : Status) : Reply α := ⟨[], some s⟩

/-- All messages, unless the call failed, be it after some of them. -/
def all (r : Reply α) : Except Status (List α) :=
  match r.failure with
  | some s => .error s
  | none => .ok r.messages

def first (r : Reply α) : Except Status α :=
  match r.all with
  | .error s => .error s
  | .ok [] => .error ⟨.internal, "Missing response message."⟩
  | .ok (m :: _) => .ok m

def ofOctets (m : Method) (bytes : Octets) : Reply m.reply.Value :=
  match m.reply.decode? bytes with
  | some v => ⟨[v], none⟩
  | none => failed ⟨.internal, "malformed message"⟩

end Reply

/-- The far side of remote calls, whose state is an `ω`, and a source of names that no one else uses. A new channel
connects when it is first used. -/
structure Service (ω : Type) where
  dial : (endpoint : String) → ω → Nat × ω
  call : (channel : Nat) → (m : Method) → List m.request.Value → ω → Reply m.reply.Value × ω
  freshName : ω → String × ω

end TaskGrid.Rpc
