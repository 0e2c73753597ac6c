import TaskGrid.Library.Echo
import TaskGrid.Library.Raw
import TaskGrid.Library.Recorder
import TaskGrid.Worker.Basic

/-!
Loaders of sample libraries: one that goes by the beginning of a file's name, and one for a directory of
which every file is known.
-/

namespace TaskGrid.Library

structure World where
  events : List String := []
  loads : List String := []
  echo : Memory String String := {}
  plain : Memory Unit String := {}
  recorder : Memory Recorder Visit := {}

def echoEntry : EntryPoints World :=
  (echo Unit).entryPoints.within (fun w => (w.echo, ())) fun w p => { w with echo := p.1 }

def plainEntry : EntryPoints World :=
  (plain Unit).entryPoints.within (fun w => (w.plain, ())) fun w p => { w with plain := p.1 }

def recorderEntry : EntryPoints World :=
  recorder.entryPoints.within (fun w => (w.recorder, w.events)) fun w p =>
    { w with recorder := p.1, events := p.2 }

def rawEntry : EntryPoints World :=
  raw.within World.events fun w events => { w with events }

def named (path name : String) : Except WorkerError (EntryPoints World) :=
  if name.startsWith "missing" then .error (.libraryNotFound path)
  else if name.startsWith "broken" then .error (.other ("cannot load " ++ name))
  else if name.startsWith "echo" then .ok echoEntry
  else if name.startsWith "raw" then .ok rawEntry
  else .ok recorderEntry

def byName : Loader World := fun path w =>
  ((named path ((Path.fileName? path).getD "")).map fun entry => ⟨entry, id⟩,
    { w with loads := w.loads ++ [path] })

inductive File where
  | library
  | unloadable (reason : String)
  | lacking (symbol : String)
  deriving DecidableEq, Repr

def files : List (String × File) := [
  ("libgood.so.1.0", .library),
  ("libplain.so", .library),
  ("libgarbage.so", .unloadable "file too short"),
  ("libzero.so", .unloadable "file too short"),
  ("libempty.so", .lacking "armonik_create_service"),
  ("libpartial.so", .lacking "armonik_call")]

/-- The file at a path below the directory. No steps, or steps upwards only, lead to a directory, and a
file has nothing below it. -/
def file? (path : String) : Option File :=
  match Path.segments path with
  | [name] =>
    if name = ".." then some (.unloadable "cannot read file data: Is a directory")
    else if (Text.split '/' path).getLast? = some name then files.lookup name
    else none
  | steps =>
    if steps.all (· = "..") then some (.unloadable "cannot read file data: Is a directory") else none

def below? (directory path : String) : Option String :=
  let start := (directory ++ "/").toList
  if start.isPrefixOf path.toList then some (String.ofList (path.toList.drop start.length)) else none

def fromDirectory (directory : String) : Loader World := fun path w =>
  let entry : Except WorkerError (EntryPoints World) :=
    match (below? directory path).bind file? with
    | none => .error (.libraryNotFound path)
    | some (.unloadable reason) => .error (.unloadable path (path ++ ": " ++ reason))
    | some (.lacking symbol) =>
      .error (.missingSymbol symbol path (path ++ ": undefined symbol: " ++ symbol))
    | some .library => .ok plainEntry
  (entry.map fun entry => ⟨entry, id⟩, w)

end TaskGrid.Library
