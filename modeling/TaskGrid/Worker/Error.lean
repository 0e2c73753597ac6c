import TaskGrid.Error

/-!
What can go wrong in a worker while it loads application libraries and hands tasks to them.
-/

namespace TaskGrid

inductive WorkerError where
  | libraryNotFound (path : String)
  | unloadable (path details : String)
  | missingSymbol (symbol path details : String)
  | noApplication
  | noService
  | sessionNotInitialized
  | nulInText (position : Nat)
  | payload (cause : GridError)
  | noExpectedResult
  | sendFailed (result details : String)
  | other (text : String)
  deriving DecidableEq, Repr

def WorkerError.message : WorkerError → String
  | .libraryNotFound path => "Application library not found: " ++ path
  | .unloadable path details => "Failed to load application library " ++ path ++ ": " ++ details
  | .missingSymbol symbol path details =>
    "Symbol " ++ symbol ++ " not found in " ++ path ++ ": " ++ details
  | .noApplication => "No application is loaded"
  | .noService => "No service is in use"
  | .sessionNotInitialized => "Session is not initialized"
  | .nulInText position =>
    s!"Invalid string for module: nul byte found in provided data at position: {position}"
  | .payload cause => "Invalid task payload: " ++ cause.message
  | .noExpectedResult => "Task has no expected result"
  | .sendFailed result details => "Failed to send result " ++ result ++ ": " ++ details
  | .other text => text

end TaskGrid
