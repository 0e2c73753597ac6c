import TaskGrid.Session.Wait

/-!
Calls on a session as values, for scenarios that list them.
-/

namespace TaskGrid

inductive SessionRequest where
  | submit (requests : List Payload) (handler : Handler) (options : Option TaskOptions)
  | wait (tasks : List String) (behavior : WaitBehavior) (options : WaitOptions)
  | cleanup (tasks : List String)
  | drop
  | close
  | cancel
  | purge
  | info

inductive SessionReply where
  | done
  | tasks (ids : List String)
  | info (id : String) (options : TaskOptions)

structure Performed (σ : Type) where
  answer : Except ClientError SessionReply
  claims : List Tracker.Claim
  deliveries : List Delivery
  session : Session
  plane : σ

namespace Session

def unchanged {σ : Type} (s : Session) (call : Call σ Unit) (w : σ) : Performed σ :=
  let (answer, w) := call w
  ⟨answer.map fun _ => .done, [], [], s, w⟩

/-- Makes a call; a wait takes at most `limit` rounds, and `visits` orders what each goes through. -/
def perform {σ : Type} (plane : ControlPlane σ) (limit : Nat) (visits : Nat → Visit) (s : Session)
    (w : σ) : SessionRequest → Performed σ
  | .submit requests handler options =>
    let r := s.submit plane requests handler options w
    ⟨r.answer.map .tasks, [], [], r.session, r.plane⟩
  | .wait tasks behavior options =>
    let r := s.wait plane limit visits tasks behavior options w
    ⟨.ok .done, r.claims, r.deliveries, r.session, r.plane⟩
  | .cleanup tasks => s.unchanged (s.cleanup plane (visits 0) tasks) w
  | .drop =>
    let r := s.drop plane w
    ⟨r.answer.map fun _ => .done, [], [], r.session, r.plane⟩
  | .close => s.unchanged (s.close plane) w
  | .cancel => s.unchanged (s.cancel plane) w
  | .purge => s.unchanged (s.purge plane) w
  | .info => ⟨.ok (.info s.id s.options), [], [], s, w⟩

end Session
end TaskGrid
