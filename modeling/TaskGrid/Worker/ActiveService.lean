import TaskGrid.Worker.Host
import TaskGrid.Worker.Identity

/-!
A service that a worker created in a library, and the session it is in.
-/

namespace TaskGrid

structure ActiveService (σ : Type) where
  id : ServiceId
  entry : EntryPoints σ
  context : Context
  session : Option (String × Context) := none

namespace ActiveService

variable {σ τ : Type}

def session? (s : ActiveService σ) : Option String := s.session.map Prod.fst

def create (entry : EntryPoints σ) (id : ServiceId) (w : σ) :
    Except WorkerError (ActiveService σ) × σ :=
  match CText.ofString id.group, CText.ofString id.name with
  | .error e, _ => (.error e, w)
  | .ok _, .error e => (.error e, w)
  | .ok group, .ok name =>
    let (context, w) := entry.createService group name w
    (.ok { id, entry, context }, w)

def leave (s : ActiveService σ) (w : σ) : ActiveService σ × σ :=
  match s.session with
  | none => (s, w)
  | some (_, context) => ({ s with session := none }, s.entry.leaveSession s.context context w)

/-- Enters a session, once it left the one it is in. A session that cannot be named changes nothing. -/
def enter (s : ActiveService σ) (session : String) (w : σ) :
    Except WorkerError Unit × ActiveService σ × σ :=
  if s.session? = some session then (.ok (), s, w)
  else match CText.ofString session with
    | .error e => (.error e, s, w)
    | .ok name =>
      let (s, w) := s.leave w
      let (context, w) := s.entry.enterSession s.context name w
      (.ok (), { s with session := some (session, context) }, w)

def call (s : ActiveService σ) (host : TaskHost τ) (method : String) (arguments : Octets) (t : τ)
    (w : σ) : Except WorkerError ProcessStatus × τ × σ :=
  match s.session with
  | none => (.error .sessionNotInitialized, t, w)
  | some (_, session) =>
    match CText.ofString method with
    | .error e => (.error e, t, w)
    | .ok name =>
      let (reply, w) := s.entry.call s.context session name (.ofOctets arguments) true w
      let hearing := Hearing.hearAll host reply.reports t
      (hearing.verdict reply.status, hearing.host, w)

def destroy (s : ActiveService σ) (w : σ) : σ :=
  let (s, w) := s.leave w
  s.entry.destroyService s.context w

end ActiveService
end TaskGrid
