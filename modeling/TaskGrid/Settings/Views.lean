import TaskGrid.Settings.Basic
import TaskGrid.TaskOptions.Basic

/-!
What the parts of the grid read from the settings, checked once.
-/

namespace TaskGrid

structure PlaneSettings where
  endpoint : String
  waitBatchSize : Nat
  submitBatchSize : Nat
  deriving DecidableEq, Repr

inductive LogLevel where
  | trace | debug | info | warn | error
  deriving DecidableEq, Repr

def LogLevel.directive : LogLevel → String
  | .trace => "trace"
  | .debug => "debug"
  | .info => "info"
  | .warn => "warn"
  | .error => "error"

structure Properties where
  settings : Settings := {}
  options : TaskOptions := {}

namespace Settings

def defaultBatchSize : Nat := 200

/-- Checks how to reach the control plane. -/
def checkPlane (endpoint : String) (wait submit : Nat) : Except Flaw PlaneSettings :=
  if Text.trimChars endpoint.toList = [] then .error .noEndpoint
  else if wait = 0 then .error .emptyWaitBatch
  else if submit = 0 then .error .emptySubmitBatch
  else .ok ⟨endpoint, wait, submit⟩

def plane (s : Settings) : Except Flaw PlaneSettings := do
  let wait ← s.count waitBatchSizeKey defaultBatchSize
  let submit ← s.count submitBatchSizeKey defaultBatchSize
  checkPlane (s.getD endpointKey "") wait submit

def defaultLibraryDirectory : String := "/data"

def libraryDirectory (s : Settings) : String := s.getD libraryDirectoryKey defaultLibraryDirectory

/-- How much the log tells; letter case does not matter. -/
def logLevel (s : Settings) : LogLevel :=
  match (s.getD logLevelKey "Information").map Char.toLower with
  | "verbose" | "trace" => .trace
  | "debug" => .debug
  | "warning" | "warn" => .warn
  | "error" | "fatal" | "critical" => .error
  | _ => .info

end Settings

/-- The partition a session is made in: that of the options, or else that of the settings. -/
def Properties.partition? (p : Properties) : Option String :=
  let name := if p.options.partition = "" then p.settings.getD Settings.partitionKey ""
    else p.options.partition
  if name = "" then none else some name

end TaskGrid
