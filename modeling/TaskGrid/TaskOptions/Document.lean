import TaskGrid.TaskOptions.Basic
import TaskGrid.Json.Reader

/-!
Task options as a JSON document: an object whose missing members take their defaults and whose unknown
ones are skipped, or an array of the members in their order, which may end early.
-/

namespace TaskGrid.TaskOptions

open Json

def memberNames : List String :=
  ["application_name", "application_version", "application_namespace", "application_service",
    "partition_id", "engine_type", "priority", "max_retries", "max_duration", "options"]

def textOf? : Json → Option String
  | .str s => some s
  | _ => none

def int32Of? : Json → Option Int32
  | .num (.integer i) =>
    if Int32.minValue.toInt ≤ i ∧ i ≤ Int32.maxValue.toInt then some (Int32.ofInt i) else none
  | _ => none

def durationOf? : Json → Option Duration
  | .num (.integer i) => (Binary64.ofQuotient? (decide (i < 0)) i.natAbs 1).bind Duration.ofReal?
  | .num (.real x) => Duration.ofReal? x
  | _ => none

def extraOf? : Json → Option (Table String String)
  | .obj members =>
    (members.mapM fun m => (textOf? m.2).map fun s => (m.1, s)).map Table.ofList
  | _ => none

def setMember (o : TaskOptions) (name : String) (v : Json) : Option TaskOptions :=
  match name with
  | "application_name" => (textOf? v).map fun s => { o with applicationName := s }
  | "application_version" => (textOf? v).map fun s => { o with applicationVersion := s }
  | "application_namespace" => (textOf? v).map fun s => { o with applicationNamespace := s }
  | "application_service" => (textOf? v).map fun s => { o with applicationService := s }
  | "partition_id" => (textOf? v).map fun s => { o with partition := s }
  | "engine_type" => (textOf? v).map fun s => { o with engineType := s }
  | "priority" => (int32Of? v).map fun i => { o with priority := i }
  | "max_retries" => (int32Of? v).map fun i => { o with maxRetries := i }
  | "max_duration" => (durationOf? v).map fun d => { o with maxDuration := d }
  | "options" => (extraOf? v).map fun t => { o with extra := t }
  | _ => some o

def setMembers (members : List (String × Json)) : Option TaskOptions :=
  members.foldlM (fun o m => o.setMember m.1 m.2) {}

/-- A value whose own members, if it is an object, are listed as they are written. -/
def readShallow : Reader Json := fun cs =>
  match readMembers .strict (fun _ => readValue .strict maxDepth) cs with
  | some (members, r) => some (.obj members, r)
  | none => readValue .strict maxDepth cs

/-- A member's value: nobody asks what an unknown member holds. -/
def readMemberValue (name : String) : Reader Json :=
  if name ∈ memberNames then readShallow else fun cs => readValue .lenient cs.length cs

/-- Options from the members of an object, none of which may occur twice. -/
def ofMembers? (members : List (String × Json)) : Option TaskOptions :=
  if ((members.map Prod.fst).filter (· ∈ memberNames)).Nodup then setMembers members else none

def ofItems? (items : List Json) : Option TaskOptions :=
  if items.length ≤ memberNames.length then setMembers (memberNames.zip items) else none

def parse? (text : String) : Option TaskOptions :=
  match readWholeText (readMembers .strict readMemberValue) text with
  | some members => ofMembers? members
  | none => (readWholeText (readItems readShallow) text).bind ofItems?

def toJson (o : TaskOptions) : Json := .object [
  ("application_name", .str o.applicationName),
  ("application_version", .str o.applicationVersion),
  ("application_namespace", .str o.applicationNamespace),
  ("application_service", .str o.applicationService),
  ("partition_id", .str o.partition),
  ("engine_type", .str o.engineType),
  ("priority", .num (.integer o.priority.toInt)),
  ("max_retries", .num (.integer o.maxRetries.toInt)),
  ("max_duration", match o.maxDuration.toReal? with
    | some x => .num (.real x)
    | none => .null),
  ("options", .object (o.extra.entries.map fun e => (e.1, .str e.2)))]

end TaskGrid.TaskOptions
