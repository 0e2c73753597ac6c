import TaskGrid.Proofs.Session.Round
import TaskGrid.Session.Request

/-! What handlers are told of results whose data was deleted. It is an error of its own, whatever requests fail
meanwhile: such a result is not downloaded. -/
namespace TaskGrid

/-- What the handler of a task is told whose result was deleted. -/
def Outcome.lost (result : String) : Outcome := .failure (.internal s!"data of result {result} was deleted")

namespace Session
open MemoryPlane

/-- Every callback is that of a claim, with the outcome that its status stands for. -/
theorem mem_dispatchAll {σ : Type} (plane : ControlPlane σ) (session : String) {claims : List Tracker.Claim}
    {w : σ} {d : Delivery} (h : d ∈ (dispatchAll plane session claims w).1) :
    ∃ c ∈ claims, c.tracked = some d.tracked ∧
      ∃ w', (outcome? plane session c.result c.status w').1 = some d.outcome := by
  induction claims generalizing w with
  | nil => cases h
  | cons c r ih =>
    obtain ⟨result, status, tracked⟩ := c
    cases tracked with
    | none =>
      obtain ⟨c, hc, hd⟩ := ih h
      exact ⟨c, List.mem_cons_of_mem _ hc, hd⟩
    | some t =>
      simp only [dispatchAll, dispatch] at h
      cases ho : outcome? plane session result status w with
      | mk outcome w' =>
        rw [ho] at h
        cases outcome with
        | none =>
          obtain ⟨c, hc, hd⟩ := ih h
          exact ⟨c, List.mem_cons_of_mem _ hc, hd⟩
        | some outcome =>
          rcases List.mem_cons.mp h with rfl | h
          · exact ⟨_, List.mem_cons_self, rfl, w, by rw [ho]⟩
          · obtain ⟨c, hc, hd⟩ := ih h
            exact ⟨c, List.mem_cons_of_mem _ hc, hd⟩

/-- A callback for a tracked result, which reports the loss of its data if that was deleted. -/
def Reports (s : Session) (p : MemoryPlane) (d : Delivery) : Prop :=
  ∃ id, s.tracker.byResult.get? id = some d.tracked ∧
    ((p.result id).settled = .deleted → d.outcome = .lost id)

variable {waiter : Waiter} {s : Session} {p : MemoryPlane} {d : Delivery}

section
variable (behavior : WaitBehavior) (options : WaitOptions)

theorem round_reports (visit : Visit) (hs : s.Anchored p) (hw : s.Awaits waiter)
    (hd : d ∈ (round plane behavior options visit waiter s p).deliveries) : s.Reports p d := by
  by_cases hne : s.awaited waiter = []
  · rw [round_of_nil plane behavior options visit p hne] at hd
    cases hd
  · obtain ⟨hr, -⟩ := round_rounded behavior options visit hs hw hne
    rw [round_of_ne_nil plane behavior options visit p hne] at hd hr
    obtain ⟨c, hc, htracked, p', hout⟩ := mem_dispatchAll plane s.id hd
    refine ⟨c.result, (hr.held c hc).symm.trans htracked, fun hdeleted => ?_⟩
    have hstatus : c.status = .deleted := by
      rw [(hr.met c hc).status, hdeleted]
      rfl
    rw [hstatus] at hout
    exact (Option.some.inj hout).symm

theorem rounds_report (n : Nat) (visits : Nat → Visit) (hs : s.Anchored p) (hw : s.Awaits waiter)
    (hd : d ∈ (rounds plane behavior options n visits waiter s p).deliveries) : s.Reports p d := by
  induction n generalizing visits waiter s p with
  | zero => cases hd
  | succ n ih =>
    cases hstop : (round plane behavior options (visits 0) waiter s p).stopped with
    | some reason =>
      rw [rounds_of_stopped plane behavior options hstop] at hd
      exact round_reports behavior options (visits 0) hs hw hd
    | none =>
      rw [rounds_of_going plane behavior options hstop] at hd
      rcases List.mem_append.mp hd with hd | hd
      · exact round_reports behavior options (visits 0) hs hw hd
      · -- what later rounds report was tracked before, and has the fate that it had
        have hu : Undisturbed p (round plane behavior options (visits 0) waiter s p).plane :=
          keeps_undisturbed.round (visits 0) waiter s p
        obtain ⟨l, hl⟩ := (hands_round plane behavior options (visits 0) waiter s p).session
        obtain ⟨id, htracked, hlost⟩ := ih (fun i => visits (i + 1))
          (anchored_round behavior options (visits 0) waiter hs)
          ((awaits_round behavior options (visits 0) hs hw).paused options.polling) hd
        rw [hl] at htracked
        refine ⟨id, Tracker.get?_of_get?_claim htracked, fun hdeleted => hlost ?_⟩
        exact (hu.settled id).trans hdeleted

end

/-- Whatever is asked of a session, it reports nothing but what it tracks. -/
theorem perform_reports (hs : s.Anchored p) (limit : Nat) (visits : Nat → Visit) {request : SessionRequest}
    (hd : d ∈ (s.perform plane limit visits p request).deliveries) : s.Reports p d := by
  cases request with
  | wait tasks behavior options =>
    exact rounds_report behavior options limit visits hs (awaits_waiter hs.synced tasks) hd
  | submit | cleanup | drop | close | cancel | purge | info => cases hd

end Session
end TaskGrid
