import TaskGrid.Text.Quoted

/-!
The status a remote call ends with when it fails.
-/

namespace TaskGrid.Rpc

inductive Code where
  | ok | cancelled | unknown | invalidArgument | deadlineExceeded | notFound | alreadyExists
  | permissionDenied | resourceExhausted | failedPrecondition | aborted | outOfRange | unimplemented
  | internal | unavailable | dataLoss | unauthenticated
  deriving DecidableEq, Repr

def Code.all : List Code :=
  [.ok, .cancelled, .unknown, .invalidArgument, .deadlineExceeded, .notFound, .alreadyExists,
    .permissionDenied, .resourceExhausted, .failedPrecondition, .aborted, .outOfRange,
    .unimplemented, .internal, .unavailable, .dataLoss, .unauthenticated]

/-- The code of a number; numbers without one are unknown errors. -/
def Code.ofInt (n : Int) : Code :=
  if n < 0 then .unknown else (Code.all[n.toNat]?).getD .unknown

def Code.number (c : Code) : Nat := Code.all.idxOf c

def Code.name : Code → String
  | .ok => "Ok"
  | .cancelled => "Cancelled"
  | .unknown => "Unknown"
  | .invalidArgument => "InvalidArgument"
  | .deadlineExceeded => "DeadlineExceeded"
  | .notFound => "NotFound"
  | .alreadyExists => "AlreadyExists"
  | .permissionDenied => "PermissionDenied"
  | .resourceExhausted => "ResourceExhausted"
  | .failedPrecondition => "FailedPrecondition"
  | .aborted => "Aborted"
  | .outOfRange => "OutOfRange"
  | .unimplemented => "Unimplemented"
  | .internal => "Internal"
  | .unavailable => "Unavailable"
  | .dataLoss => "DataLoss"
  | .unauthenticated => "Unauthenticated"

structure Status where
  code : Code
  message : String
  deriving DecidableEq, Repr

def Status.text (s : Status) : String :=
  "status: " ++ s.code.name ++ ", message: " ++ Text.quote s.message ++
    ", details: [], metadata: MetadataMap \x7b headers: \x7b\x7d \x7d"

end TaskGrid.Rpc
