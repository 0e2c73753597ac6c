import TaskGrid.Duration
import TaskGrid.Table

/-!
The options that go with every task of a session, unless a submission brings its own.
-/

namespace TaskGrid

/-- Options of a task. The application fields say which library and service of a worker run it. -/
structure TaskOptions where
  applicationName : String := ""
  applicationVersion : String := ""
  applicationNamespace : String := ""
  applicationService : String := ""
  partition : String := ""
  engineType : String := ""
  priority : Int32 := 2
  maxRetries : Int32 := 3
  maxDuration : Duration := Duration.ofSeconds 300
  extra : Table String String := Table.empty
  deriving DecidableEq

namespace TaskOptions

instance : Inhabited TaskOptions := ⟨{}⟩

def forService (name version space service : String) : TaskOptions where
  applicationName := name
  applicationVersion := version
  applicationNamespace := space
  applicationService := service

/-- Equality that does not look at the order of the free-form options. -/
def same (a b : TaskOptions) : Bool :=
  decide ({ a with extra := Table.empty } = { b with extra := Table.empty }) &&
    a.extra.size == b.extra.size && a.extra.entries.all fun e => b.extra.get? e.1 == some e.2

end TaskOptions
end TaskGrid
