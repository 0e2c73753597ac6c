import TaskGrid.Payload
import TaskGrid.Settings.Views
import TaskGrid.Worker.ActiveService

/-!
A worker: it keeps at most one application library loaded and one service of it in use, and takes them
up again as long as tasks ask for the same ones.
-/

namespace TaskGrid

structure Library (σ : Type) where
  entry : EntryPoints σ
  unload : σ → σ

/-- A way to load the library at a path. -/
abbrev Loader (σ : Type) := (path : String) → σ → Except WorkerError (Library σ) × σ

/-- A worker; `σ` is what its libraries may change. -/
structure Worker (σ : Type) where
  directory : String
  load : Loader σ
  world : σ
  application : Option (AppId × Library σ) := none
  service : Option (ActiveService σ) := none

structure Task where
  session : String
  payload : Octets
  options : TaskOptions

namespace Worker

variable {σ τ : Type}

def start (settings : Settings) (load : Loader σ) (world : σ) : Worker σ where
  directory := settings.libraryDirectory
  load := load
  world := world

/-- Where the library of an application is expected. -/
def libraryPath (w : Worker σ) (app : AppId) : String := Path.join w.directory app.libraryName

def application? (w : Worker σ) : Option AppId := w.application.map Prod.fst

def service? (w : Worker σ) : Option ServiceId := w.service.map ActiveService.id

def session? (w : Worker σ) : Option String := w.service.bind ActiveService.session?

def dropService (w : Worker σ) : Worker σ :=
  match w.service with
  | none => w
  | some s => { w with service := none, world := s.destroy w.world }

def dropApplication (w : Worker σ) : Worker σ :=
  let w := w.dropService
  match w.application with
  | none => w
  | some (_, library) => { w with application := none, world := library.unload w.world }

/-- Loads an application in place of the one that is loaded. If it fails, none is. -/
def useApplication (w : Worker σ) (app : AppId) : Except WorkerError Unit × Worker σ :=
  if w.application? = some app then (.ok (), w)
  else
    let w := w.dropApplication
    match w.load (w.libraryPath app) w.world with
    | (.error e, world) => (.error e, { w with world })
    | (.ok library, world) => (.ok (), { w with application := some (app, library), world })

/-- Creates a service in the loaded library in place of the one in use. If it fails, none is in use. -/
def useService (w : Worker σ) (id : ServiceId) : Except WorkerError Unit × Worker σ :=
  if w.service? = some id then (.ok (), w)
  else match w.application with
    | none => (.error .noApplication, w)
    | some (_, library) =>
      let w := w.dropService
      match ActiveService.create library.entry id w.world with
      | (.error e, world) => (.error e, { w with world })
      | (.ok service, world) => (.ok (), { w with service := some service, world })

def useSession (w : Worker σ) (session : String) : Except WorkerError Unit × Worker σ :=
  match w.service with
  | none => (.error .noService, w)
  | some service =>
    let (answer, service, world) := service.enter session w.world
    (answer, { w with service := some service, world })

def call (w : Worker σ) (host : TaskHost τ) (method : String) (arguments : Octets) (t : τ) :
    Except WorkerError ProcessStatus × τ × Worker σ :=
  match w.service with
  | none => (.error .sessionNotInitialized, t, w)
  | some service =>
    let (answer, t, world) := service.call host method arguments t w.world
    (answer, t, { w with world })

/-- Makes ready what a task needs and runs it, up to the first failure. -/
def attempt (w : Worker σ) (task : Task) (host : TaskHost τ) (t : τ) :
    Except WorkerError ProcessStatus × τ × Worker σ :=
  match Payload.decode task.payload with
  | .error flaw => (.error (.payload flaw.toGrid), t, w)
  | .ok payload =>
    match w.useApplication (.ofOptions task.options) with
    | (.error e, w) => (.error e, t, w)
    | (.ok (), w) =>
      match w.useService (.ofOptions task.options) with
      | (.error e, w) => (.error e, t, w)
      | (.ok (), w) =>
        match w.useSession task.session with
        | (.error e, w) => (.error e, t, w)
        | (.ok (), w) => w.call host payload.method payload.arguments t

/-- Processes a task. Every failure is told to the host. -/
def process (w : Worker σ) (task : Task) (host : TaskHost τ) (t : τ) :
    ProcessStatus × τ × Worker σ :=
  match w.attempt task host t with
  | (.ok status, t, w) => (status, t, w)
  | (.error e, t, w) => (.error e.message, t, w)

def stop (w : Worker σ) : Worker σ := w.dropApplication

end Worker
end TaskGrid
