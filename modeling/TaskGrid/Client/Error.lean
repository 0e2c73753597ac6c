import TaskGrid.Error

/-!
What can go wrong for a client: in its sessions, in its pools, and in the calls below them.
-/

namespace TaskGrid

inductive ClientError where
  | task (id details : String)
  | rpc (status : Rpc.Status)
  | transport (details : String)
  | payload (details : String)
  | invalidSettings (details : String)
  | internal (details : String)
  | sessionDropped (session : String)
  | poolStopped
  | panicked (details : String)
  | io (details : String)
  | other (text : String)
  deriving DecidableEq, Repr

def ClientError.message : ClientError → String
  | .task id details => "Task " ++ id ++ " failed: " ++ details
  | .rpc status => "gRPC error: " ++ status.text
  | .transport details => "Transport error: " ++ details
  | .payload details => "Invalid payload: " ++ details
  | .invalidSettings details => "Invalid configuration: " ++ details
  | .internal details => "Internal error: " ++ details
  | .sessionDropped session => "Session " ++ session ++ " has been dropped"
  | .poolStopped => "Spawn on stopped ThreadPool"
  | .panicked details => "Task panicked: " ++ details
  | .io details => "IO error: " ++ details
  | .other text => text

def ClientError.isTaskError : ClientError → Bool
  | .task _ _ => true
  | _ => false

def GridError.toClient (e : GridError) : ClientError :=
  match e with
  | .rpc status => .rpc status
  | .transport details => .transport details
  | .serialization _ => .other e.message
  | .payloadFormat details => .payload details
  | .io details => .io details
  | .invalidSettings details => .invalidSettings details
  | .unexpectedResponse details => .internal details
  | .other text => .other text

end TaskGrid
