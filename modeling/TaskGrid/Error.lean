import TaskGrid.Rpc.Status

/-!
What can go wrong in the parts that clients and workers share: codecs, settings and remote calls.
-/

namespace TaskGrid

inductive GridError where
  | rpc (status : Rpc.Status)
  | transport (details : String)
  | serialization (details : String)
  | payloadFormat (details : String)
  | io (details : String)
  | invalidSettings (details : String)
  | unexpectedResponse (details : String)
  | other (text : String)
  deriving DecidableEq, Repr

def GridError.message : GridError → String
  | .rpc status => "gRPC error: " ++ status.text
  | .transport details => "Transport error: " ++ details
  | .serialization details => "Serialization error: " ++ details
  | .payloadFormat details => "Invalid payload format: " ++ details
  | .io details => "IO error: " ++ details
  | .invalidSettings details => "Invalid configuration: " ++ details
  | .unexpectedResponse details => "Unexpected response: " ++ details
  | .other text => text

/-- Whether the error means that the channel it came over is of no more use. -/
def GridError.isTransportFailure : GridError → Bool
  | .transport _ => true
  | .rpc status => status.code = .unavailable
  | _ => false

end TaskGrid
