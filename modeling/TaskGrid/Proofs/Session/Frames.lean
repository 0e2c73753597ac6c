import TaskGrid.Proofs.Session.Handover
import TaskGrid.Session.Request

/-! What every call on a control plane keeps, every request of a session keeps. -/
namespace TaskGrid
namespace Session

variable {σ : Type} {plane : ControlPlane σ} {R : σ → σ → Prop}

/-- A relation between states of a control plane that all its calls keep. -/
structure Frames (plane : ControlPlane σ) (R : σ → σ → Prop) : Prop extends Keeps plane R where
  opening : ∀ options partitions w, R w (plane.createSession options partitions w).2
  cancelling : ∀ session w, R w (plane.cancelSession session w).2
  closing : ∀ session w, R w (plane.closeSession session w).2
  purging : ∀ session w, R w (plane.purgeSession session w).2
  making : ∀ session names w, R w (plane.createResults session names w).2
  submitting : ∀ session options tasks w, R w (plane.submitTasks session options tasks w).2
  listing : ∀ tasks w, R w (plane.taskResults tasks w).2
  deleting : ∀ session results w, R w (plane.deleteResults session results w).2
  naming : ∀ w, R w (plane.freshName w).2

theorem Frames.freshNames (k : Frames plane R) (n : Nat) (w : σ) : R w (freshNames plane.freshName n w).2 := by
  induction n generalizing w with
  | zero => exact k.refl w
  | succ n ih => exact k.trans (k.naming w) (ih _)

theorem Frames.submitBatch (k : Frames plane R) (handler : Handler) (options : TaskOptions)
    (batch : List Payload) (s : Session) (w : σ) : R w (submitBatch plane handler options batch s w).plane := by
  have hnames := k.freshNames batch.length w
  simp only [Session.submitBatch]
  generalize TaskGrid.freshNames plane.freshName batch.length w = fresh at hnames
  obtain ⟨names, w₁⟩ := fresh
  have hmade := k.making s.id names w₁
  dsimp only at hnames ⊢
  generalize plane.createResults s.id names w₁ = reply at hmade
  obtain ⟨e | made, w₂⟩ := reply
  · exact k.trans hnames hmade
  · dsimp only at hmade ⊢
    split
    · exact k.trans hnames hmade
    · cases (batch.zip made).mapM fun e => submission e.1 e.2 with
      | error e => exact k.trans hnames hmade
      | ok submissions =>
        have hsubmitted := k.submitting s.id (some options) submissions w₂
        dsimp only
        generalize plane.submitTasks s.id (some options) submissions w₂ = reply at hsubmitted
        obtain ⟨e | tasks, w₃⟩ := reply <;> exact k.trans hnames (k.trans hmade hsubmitted)

theorem Frames.submitBatches (k : Frames plane R) (handler : Handler) (options : TaskOptions)
    (batches : List (List Payload)) (s : Session) (w : σ) :
    R w (submitBatches plane handler options batches s w).plane := by
  induction batches generalizing s w with
  | nil => exact k.refl w
  | cons batch r ih =>
    have hbatch := k.submitBatch handler options batch s w
    rw [Session.submitBatches]
    generalize Session.submitBatch plane handler options batch s w = first at hbatch
    obtain ⟨e | tasks, s', w'⟩ := first
    · exact hbatch
    · have hrest := ih s' w'
      dsimp only
      generalize Session.submitBatches plane handler options r s' w' = rest at hrest
      obtain ⟨e | more, s'', w''⟩ := rest <;> exact k.trans hbatch hrest

theorem Frames.submit (k : Frames plane R) (s : Session) (requests : List Payload) (handler : Handler)
    (options : Option TaskOptions) (w : σ) : R w (s.submit plane requests handler options w).plane := by
  unfold Session.submit
  split
  · exact k.refl w
  · exact k.submitBatches handler _ _ s w

theorem Frames.deleteBatches (k : Frames plane R) (session : String) (batches : List (List String)) (w : σ) :
    R w (deleteBatches plane session batches w).2 := by
  induction batches generalizing w with
  | nil => exact k.refl w
  | cons batch r ih =>
    have hbatch := k.deleting session batch w
    rw [Session.deleteBatches]
    generalize plane.deleteResults session batch w = reply at hbatch
    obtain ⟨e | ⟨⟩, w'⟩ := reply
    · exact hbatch
    · exact k.trans hbatch (ih w')

theorem Frames.cleanup (k : Frames plane R) (s : Session) (visit : Visit) (tasks : List String) (w : σ) :
    R w (s.cleanup plane visit tasks w).2 := by
  unfold Session.cleanup
  split
  · exact k.refl w
  · have hlist := k.listing tasks w
    generalize plane.taskResults tasks w = reply at hlist
    obtain ⟨e | results, w'⟩ := reply
    · exact hlist
    · exact k.trans hlist (k.deleteBatches s.id _ w')

theorem Frames.drop (k : Frames plane R) (s : Session) (w : σ) : R w (s.drop plane w).plane := by
  have hcancel := k.cancelling s.id w
  simp only [Session.drop]
  generalize plane.cancelSession s.id w = reply at hcancel
  obtain ⟨e | ⟨⟩, w'⟩ := reply
  · exact hcancel
  · exact k.trans hcancel (k.purging s.id w')

theorem Frames.perform (k : Frames plane R) (limit : Nat) (visits : Nat → Visit) (s : Session) (w : σ)
    (request : SessionRequest) : R w (s.perform plane limit visits w request).plane := by
  cases request with
  | submit requests handler options => exact k.submit s requests handler options w
  | wait tasks behavior options => exact k.toKeeps.rounds limit visits (s.waiter tasks) s w
  | cleanup tasks => exact k.cleanup s (visits 0) tasks w
  | drop => exact k.drop s w
  | close => exact k.closing s.id w
  | cancel => exact k.cancelling s.id w
  | purge => exact k.purging s.id w
  | info => exact k.refl w

end Session
end TaskGrid
