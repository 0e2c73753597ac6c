import TaskGrid.Plane.Remote
import TaskGrid.Session.Basic

/-!
Sessions on the control plane that the settings name.
-/

namespace TaskGrid.Session

/-- Makes a session on the control plane of the settings, reached by a client of its own. -/
def connect {ω : Type} (service : Rpc.Service ω) (p : Properties) (w : ω) :
    Except ClientError (Session × RemoteClient) × ω :=
  match p.settings.plane with
  | .error flaw => (.error flaw.toGrid.toClient, w)
  | .ok settings =>
    match RemoteClient.ofEndpoint settings.endpoint with
    | .error e => (.error e, w)
    | .ok client =>
      match create (RemotePlane.plane service) p ⟨client, w⟩ with
      | (.error e, plane) => (.error e, plane.world)
      | (.ok s, plane) => (.ok (s, plane.client), plane.world)

end TaskGrid.Session
