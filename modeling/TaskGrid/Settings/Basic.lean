import TaskGrid.Error
import TaskGrid.Table
import TaskGrid.Json.Reader
import TaskGrid.Text.Blank
import TaskGrid.Text.Utf8

/-!
Settings: a flat table from keys to texts, filled from documents and from the environment. A point or a
colon in a written key is a section mark, spelled by two underscores; the path of a leaf in a document
is spelled the same way, so that a variable of that name overrides it. Keys are looked up as they are.
-/

namespace TaskGrid

structure Settings where
  entries : Table String String
  deriving DecidableEq

namespace Settings

inductive Flaw where
  | malformed
  | notAnObject
  | unreadable
  | notACount (key value : String)
  | noEndpoint
  | emptyWaitBatch
  | emptySubmitBatch
  | emptyBatch
  deriving DecidableEq, Repr

def endpointKey : String := "GrpcClient__Endpoint"

def waitBatchSizeKey : String := "GrpcClient__WaitBatchSize"

def submitBatchSizeKey : String := "GrpcClient__SubmitBatchSize"

def libraryDirectoryKey : String := "Worker__ApplicationBasePath"

def partitionKey : String := "PartitionId"

def logLevelKey : String := "Serilog__MinimumLevel"

def Flaw.toGrid : Flaw → GridError
  | .malformed => .serialization "not a JSON document"
  | .notAnObject => .invalidSettings "configuration document must be a JSON object"
  | .unreadable => .io "unreadable file"
  | .notACount key value =>
    .invalidSettings (key ++ " must be a non-negative integer, got " ++ Text.quote value)
  | .noEndpoint => .invalidSettings (endpointKey ++ " must be set")
  | .emptyWaitBatch => .invalidSettings "wait_batch_size must be positive"
  | .emptySubmitBatch => .invalidSettings "submit_batch_size must be positive"
  | .emptyBatch => .invalidSettings "batch sizes must be positive"

/-- What stands between the sections of a key. -/
def sectionMark : String := "__"

def spellChar (c : Char) : List Char := if c = '.' || c = ':' then sectionMark.toList else [c]

/-- A written key, its section marks spelled out. -/
def spell (key : String) : String := String.ofList (key.toList.flatMap spellChar)

def empty : Settings := ⟨Table.empty⟩

instance : EmptyCollection Settings := ⟨empty⟩
instance : Inhabited Settings := ⟨empty⟩

def get? (s : Settings) (key : String) : Option String := s.entries.get? key

/-- The value of a key, or another if it is absent or empty. -/
def getD (s : Settings) (key default : String) : String :=
  match s.get? key with
  | some value => if value = "" then default else value
  | none => default

def maxCount : Nat := UInt64.size - 1

/-- The count that a text spells, with blanks around it and perhaps a plus sign. -/
def countOf? (value : String) : Option Nat :=
  (Numeral.readUnsigned? (Text.trimChars value.toList)).filter (· ≤ maxCount)

/-- The count under a key, or another if the value is absent or empty. -/
def count (s : Settings) (key : String) (default : Nat) : Except Flaw Nat :=
  match s.get? key with
  | none => .ok default
  | some value =>
    if value = "" then .ok default
    else match countOf? value with
      | some n => .ok n
      | none => .error (.notACount key value)

def set (s : Settings) (key value : String) : Settings := ⟨s.entries.insert (spell key) value⟩

def setAll (s : Settings) (vars : List (String × String)) : Settings :=
  vars.foldl (fun s e => s.set e.1 e.2) s

def ofList (vars : List (String × String)) : Settings := empty.setAll vars

def merge (s other : Settings) : Settings := ⟨s.entries.insertAll other.entries.entries⟩

/-- The key of a part of a document under the key of the whole. -/
def childKey (path name : String) : String :=
  if path = "" then spell name else path ++ sectionMark ++ spell name

mutual

/-- The leaves of a document under a key: their keys and texts, depth first. -/
def leaves (path : String) : Json → List (String × String)
  | .null => [(path, "")]
  | .bool b => [(path, if b then "true" else "false")]
  | .num n => [(path, n.text)]
  | .str s => [(path, s)]
  | .arr items => itemLeaves path 0 items
  | .obj members => memberLeaves path members

def itemLeaves (path : String) (index : Nat) : List Json → List (String × String)
  | [] => []
  | v :: r => leaves (childKey path (toString index)) v ++ itemLeaves path (index + 1) r

def memberLeaves (path : String) : List (String × Json) → List (String × String)
  | [] => []
  | (name, v) :: r => leaves (childKey path name) v ++ memberLeaves path r

end

def addDocument (s : Settings) (document : Json) : Except Flaw Settings :=
  if document.isObject then .ok ⟨s.entries.insertAll (leaves "" document)⟩ else .error .notAnObject

def addText (s : Settings) (text : String) : Except Flaw Settings :=
  match Json.parse? text with
  | some document => s.addDocument document
  | none => .error .malformed

/-- Writes the leaves of a document in a file, given the file's bytes if there is one. -/
def addFile (s : Settings) (content : Option Octets) : Except Flaw Settings :=
  match content.map Utf8.decode with
  | some (.ok text) => s.addText text
  | _ => .error .unreadable

end Settings
end TaskGrid
