import TaskGrid.Library.Loaders

/-!
Scenarios of workers with sample libraries, and of libraries that are called directly.
-/

namespace TaskGrid

inductive SendPolicy where
  | keep
  | refuse
  | panic
  deriving DecidableEq, Repr

/-- A host that keeps, refuses or chokes on results. -/
def SendPolicy.host (p : SendPolicy) (expected : List String) : TaskHost (List (String × Octets)) where
  expected := expected
  send result data kept := match p with
    | .keep => (.sent, kept ++ [(result, data)])
    | .refuse => (.failed (.sendFailed result "refused"), kept)
    | .panic => (.panicked (.text "refused"), kept)

structure HostedCall where
  method : String
  arguments : Octets
  expected : List String
  policy : SendPolicy

inductive WorkerStep where
  | application (app : AppId)
  | service (id : ServiceId)
  | session (id : String)
  | call (c : HostedCall)
  | libraryPath (app : AppId)

inductive WorkerShown where
  | level (answer : Except WorkerError Unit)
  | status (answer : Except WorkerError ProcessStatus) (sent : List (String × Octets))
  | path (directory path : String)

namespace Worker

variable {σ : Type}

def step (w : Worker σ) : WorkerStep → WorkerShown × Worker σ
  | .application app =>
    let (answer, w) := w.useApplication app
    (.level answer, w)
  | .service id =>
    let (answer, w) := w.useService id
    (.level answer, w)
  | .session id =>
    let (answer, w) := w.useSession id
    (.level answer, w)
  | .call c =>
    let (answer, sent, w) := w.call (c.policy.host c.expected) c.method c.arguments []
    (.status answer sent, w)
  | .libraryPath app => (.path w.directory (w.libraryPath app), w)

end Worker

inductive ServiceStep where
  | session (id : String)
  | call (c : HostedCall)
  | matches (id : ServiceId)

inductive ServiceShown where
  | level (answer : Except WorkerError Unit)
  | status (answer : Except WorkerError ProcessStatus) (sent : List (String × Octets))
  | matches (same : Bool)

def ActiveService.step {σ : Type} (s : ActiveService σ) (w : σ) :
    ServiceStep → ServiceShown × ActiveService σ × σ
  | .session id =>
    let (answer, s, w) := s.enter id w
    (.level answer, s, w)
  | .call c =>
    let (answer, sent, w) := s.call (c.policy.host c.expected) c.method c.arguments [] w
    (.status answer sent, s, w)
  | .matches id => (.matches (s.id = id), s, w)

/-- A library that is called directly, with the last contexts it gave out. -/
structure EntryBench (σ : Type) where
  entry : EntryPoints σ
  world : σ
  service : Context := none
  session : Context := none

inductive EntryStep where
  | create (group name : CText)
  | enter (session : CText)
  | leave
  | destroy
  | call (method : CText) (input : Data) (callback withSession : Bool)

inductive EntryShown where
  | context (isNull : Bool)
  | nothing
  | reply (r : CallReply)

/-- Uses an entry point. A context that was given back is forgotten. -/
def EntryBench.step {σ : Type} (b : EntryBench σ) : EntryStep → EntryShown × EntryBench σ
  | .create group name =>
    let (service, world) := b.entry.createService group name b.world
    (.context service.isNone, { b with service, world })
  | .enter session =>
    let (session, world) := b.entry.enterSession b.service session b.world
    (.context session.isNone, { b with session, world })
  | .leave =>
    (.nothing,
      { b with session := none, world := b.entry.leaveSession b.service b.session b.world })
  | .destroy =>
    (.nothing, { b with service := none, world := b.entry.destroyService b.service b.world })
  | .call method input callback withSession =>
    let session := if withSession then b.session else none
    let (reply, world) := b.entry.call b.service session method input callback b.world
    (.reply reply, { b with world })

end TaskGrid
