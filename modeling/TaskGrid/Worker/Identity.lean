import TaskGrid.TaskOptions.Basic
import TaskGrid.Text.Split

/-!
The identities of applications and services, and the paths of application libraries.
-/

namespace TaskGrid

/-- An application, which is one library. Its version may be empty. -/
structure AppId where
  name : String
  version : String := ""
  deriving DecidableEq, Repr

namespace AppId

def ofOptions (o : TaskOptions) : AppId := ⟨o.applicationName, o.applicationVersion⟩

def libraryName (a : AppId) : String :=
  if a.version = "" then a.name else a.name ++ "." ++ a.version

def display (a : AppId) : String :=
  if a.version = "" then a.name else a.name ++ " (" ++ a.version ++ ")"

end AppId

/-- A service of an application. Its namespace and name may be empty. -/
structure ServiceId where
  app : AppId
  group : String
  name : String
  deriving DecidableEq, Repr

namespace ServiceId

def ofOptions (o : TaskOptions) : ServiceId :=
  ⟨.ofOptions o, o.applicationNamespace, o.applicationService⟩

def display (s : ServiceId) : String := s.group ++ "::" ++ s.name ++ " in " ++ s.app.display

end ServiceId

namespace Path

/-- A path below a directory. An absolute path stands for itself, and the separator is written once. -/
def join (directory path : String) : String :=
  if path.toList.head? = some '/' then path
  else match directory.toList.getLast? with
    | none => path
    | some '/' => directory ++ path
    | some _ => directory ++ "/" ++ path

/-- The steps of a path; those that stay where they are do not count. -/
def segments (path : String) : List String :=
  (Text.split '/' path).filter fun s => s ≠ "" ∧ s ≠ "."

/-- The last step of a path, unless it leads upwards. -/
def fileName? (path : String) : Option String :=
  match (segments path).getLast? with
  | some ".." => none
  | name => name

end Path
end TaskGrid
