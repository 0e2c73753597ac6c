import TaskGrid.Session.Tracker

/-! Claiming hands out every tracked entry at most once: what a tracker held is what the claims took
together with what is left. The index from tasks to results follows the entries. -/
namespace TaskGrid
namespace Tracker

/-- The two maps name the same pairs of task and result. -/
structure Synced (t : Tracker) : Prop where
  resultOf : ∀ {result entry}, t.byResult.get? result = some entry →
    t.resultOf? entry.task = some result
  tracked : ∀ {task result}, t.resultOf? task = some result →
    ∃ entry, t.byResult.get? result = some entry ∧ entry.task = task

theorem synced_empty : Synced {} := by
  constructor <;> intro _ _ h <;> cases h

/-- A task is tracked under one result. -/
theorem Synced.result_unique {t : Tracker} (h : t.Synced) {r r' : String} {e e' : Tracked}
    (hr : t.byResult.get? r = some e) (hr' : t.byResult.get? r' = some e') (he : e.task = e'.task) :
    r = r' := by
  have h1 := h.resultOf hr
  have h2 := h.resultOf hr'
  rw [he, h2] at h1
  exact (Option.some.inj h1).symm

theorem Synced.insert {t : Tracker} (h : t.Synced) {task result : String} (handler : Handler)
    (hr : t.byResult.get? result = none) (ht : ∀ r e, t.byResult.get? r = some e → e.task ≠ task) :
    (t.insert task result handler).Synced := by
  constructor
  · intro r e hre
    simp only [Tracker.insert, resultOf?, Table.get?_insert] at hre ⊢
    split at hre
    · cases hre
      simp [*]
    · have hne := ht r e hre
      rw [if_neg (fun he => hne he.symm)]
      exact h.resultOf hre
  · intro task' r hr'
    simp only [Tracker.insert, resultOf?, Table.get?_insert] at hr' ⊢
    split at hr'
    · next ht' =>
      cases hr'
      exact ⟨_, if_pos rfl, ht'⟩
    · obtain ⟨e, he, hte⟩ := h.tracked hr'
      refine ⟨e, ?_, hte⟩
      rw [if_neg fun e' => ?_]
      · exact he
      · rw [← e', hr] at he
        cases he

@[simp] theorem byResult_erase (t : Tracker) (r : String) :
    (t.erase r).byResult = t.byResult.erase r := by
  unfold erase
  split
  · next hn =>
    apply Table.ext
    symm
    apply List.filter_eq_self.mpr
    intro e he
    have hk := Table.get?_eq_none_iff.mp hn
    have : e.1 ≠ r := fun e' => hk (e' ▸ List.mem_map.mpr ⟨e, he, rfl⟩)
    simpa using this
  · rfl

theorem Synced.erase {t : Tracker} (h : t.Synced) (r : String) : (t.erase r).Synced := by
  unfold Tracker.erase
  split
  · exact h
  · next tracked hr =>
    constructor
    · intro r' e he
      simp only [resultOf?, Table.get?_erase] at he ⊢
      split at he
      · cases he
      · next hne =>
        rw [if_neg fun ht => hne (h.result_unique hr he ht)]
        exact h.resultOf he
    · intro task r' hr'
      simp only [resultOf?, Table.get?_erase] at hr' ⊢
      split at hr'
      · cases hr'
      · next hne =>
        obtain ⟨e, he, ht⟩ := h.tracked hr'
        refine ⟨e, ?_, ht⟩
        rw [if_neg fun hrr => ?_]
        · exact he
        · subst hrr
          rw [hr] at he
          cases he
          exact hne ht

theorem Synced.claim {t : Tracker} (h : t.Synced) (l : List (String × ResultStatus)) :
    (t.claim l).1.Synced := by
  induction l generalizing t with
  | nil => exact h
  | cons e r ih =>
    simp only [Tracker.claim]
    split
    · exact ih (h.erase e.1)
    · exact ih h

theorem claim_append (t : Tracker) (l l' : List (String × ResultStatus)) :
    (t.claim (l ++ l')).1 = ((t.claim l).1.claim l').1 := by
  induction l generalizing t with
  | nil => rfl
  | cons e r ih =>
    simp only [List.cons_append, claim]
    split
    · exact ih _
    · exact ih t

/-- Tasks that are not tracked, with results of their own, come after all that was. -/
theorem Synced.track {t : Tracker} (h : t.Synced) (handler : Handler)
    {pairs : List (String × String)} (hd : (pairs.map Prod.snd).Nodup)
    (hdt : (pairs.map Prod.fst).Nodup) (hr : ∀ e ∈ pairs, t.byResult.get? e.2 = none)
    (ht : ∀ e ∈ pairs, ∀ r x, t.byResult.get? r = some x → x.task ≠ e.1) :
    (pairs.foldl (fun t e => t.insert e.1 e.2 handler) t).Synced ∧
      (pairs.foldl (fun t e => t.insert e.1 e.2 handler) t).byResult.entries =
        t.byResult.entries ++ pairs.map fun e => (e.2, ⟨e.1, handler⟩) := by
  induction pairs generalizing t with
  | nil => exact ⟨h, (List.append_nil _).symm⟩
  | cons e r ih =>
    obtain ⟨hd1, hd⟩ := List.nodup_cons.mp hd
    obtain ⟨hdt1, hdt⟩ := List.nodup_cons.mp hdt
    obtain ⟨hr1, hr⟩ := List.forall_mem_cons.mp hr
    obtain ⟨ht1, ht⟩ := List.forall_mem_cons.mp ht
    have he : (t.insert e.1 e.2 handler).byResult.entries =
        t.byResult.entries ++ [(e.2, ⟨e.1, handler⟩)] :=
      Table.entries_insert (Table.get?_eq_none_iff.mp hr1) _
    have hs := ih (h.insert handler hr1 ht1) hd hdt (fun x hx => ?_) fun x hx r y hy => ?_
    · rw [he] at hs
      simpa using hs
    · simp only [Tracker.insert, Table.get?_insert]
      rw [if_neg fun e' => hd1 (List.mem_map.mpr ⟨x, hx, e'.symm⟩)]
      exact hr x hx
    · simp only [Tracker.insert, Table.get?_insert] at hy
      split at hy
      · cases hy
        exact fun e' => hdt1 (List.mem_map.mpr ⟨x, hx, e'.symm⟩)
      · exact ht x hx r y hy

def finals (l : List (String × ResultStatus)) : List String :=
  (l.filter (·.2.isTerminal)).map Prod.fst

theorem finals_cons (e : String × ResultStatus) (l : List (String × ResultStatus)) :
    finals (e :: l) = if e.2.isTerminal then e.1 :: finals l else finals l := by
  by_cases h : e.2.isTerminal <;> simp [finals, h]

theorem entries_claim (t : Tracker) (l : List (String × ResultStatus)) :
    (t.claim l).1.byResult.entries = t.byResult.entries.filter fun e => decide (e.1 ∉ finals l) := by
  induction l generalizing t with
  | nil => exact (List.filter_eq_self.mpr fun _ _ => rfl).symm
  | cons e r ih =>
    rw [claim, finals_cons]
    split
    · simp only [ih, byResult_erase, Table.erase, List.filter_filter]
      apply List.filter_congr
      intro x _
      by_cases hx : x.1 = e.1 <;> simp [hx]
    · exact ih t

theorem get?_of_get?_claim {t : Tracker} {l : List (String × ResultStatus)} {r : String}
    {e : Tracked} (h : (t.claim l).1.byResult.get? r = some e) : t.byResult.get? r = some e := by
  rw [Table.get?_eq_some_iff, entries_claim] at h
  exact Table.get?_eq_some_iff.mpr (List.mem_filter.mp h).1

theorem map_result_claim (t : Tracker) (l : List (String × ResultStatus)) :
    (t.claim l).2.map Claim.result = finals l := by
  induction l generalizing t with
  | nil => rfl
  | cons e r ih =>
    rw [claim, finals_cons]
    split
    · rw [List.map_cons, ih]
    · exact ih t

/-- Every final result is claimed with what was tracked for it. -/
theorem claims_eq (t : Tracker) {l : List (String × ResultStatus)} (h : (l.map Prod.fst).Nodup) :
    (t.claim l).2 = (l.filter (·.2.isTerminal)).map fun e => ⟨e.1, e.2, t.byResult.get? e.1⟩ := by
  induction l generalizing t with
  | nil => rfl
  | cons e r ih =>
    obtain ⟨he, hr⟩ := List.nodup_cons.mp h
    rw [claim]
    split
    · next hf =>
      simp only [ih _ hr, List.filter_cons, hf, if_true, List.map_cons]
      congr 1
      apply List.map_congr_left
      intro x hx
      have : e.1 ≠ x.1 := fun e' =>
        he (e' ▸ List.mem_map.mpr ⟨x, (List.mem_filter.mp hx).1, rfl⟩)
      rw [byResult_erase, Table.get?_erase, if_neg this]
    · next hf => simp only [ih _ hr, List.filter_cons, if_neg hf]

def Claim.held? (c : Claim) : Option (String × Tracked) := c.tracked.map fun t => (c.result, t)

/-- What was tracked is what was claimed and what is left. -/
theorem entries_perm_claim (t : Tracker) (l : List (String × ResultStatus)) :
    t.byResult.entries.Perm
      ((t.claim l).2.filterMap Claim.held? ++ (t.claim l).1.byResult.entries) := by
  induction l generalizing t with
  | nil => simp [claim]
  | cons e r ih =>
    rw [claim]
    split
    · refine (t.byResult.entries_perm_erase e.1).trans ?_
      have h := ih (t.erase e.1)
      rw [byResult_erase] at h
      cases hg : t.byResult.get? e.1 with
      | none => exact h
      | some x => exact h.cons (e.1, x)
    · exact ih t

end Tracker
end TaskGrid
