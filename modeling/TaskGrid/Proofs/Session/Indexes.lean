import Mathlib.Data.List.Induction
import TaskGrid.Proofs.Session.Tracker

/-! The two maps of a tracker under any changes. They stay in step exactly as long as no insertion names a task
that is tracked under another result, or a result that is tracked for another task. -/
namespace TaskGrid
namespace Tracker

inductive Change where
  | insert (task result : String) (handler : Handler)
  | erase (result : String)
  | clear
  deriving DecidableEq, Repr

def change (t : Tracker) : Change → Tracker
  | .insert task result handler => t.insert task result handler
  | .erase result => t.erase result
  | .clear => {}

def changed (changes : List Change) : Tracker := changes.foldl change {}

/-- A task has a result exactly if the result is tracked for that task. -/
def InSync (t : Tracker) : Prop :=
  ∀ task result, t.resultOf? task = some result ↔
    ∃ entry, t.byResult.get? result = some entry ∧ entry.task = task

/-- Neither the task nor the result is tracked with another partner. -/
structure Fits (t : Tracker) (task result : String) : Prop where
  noOther : ∀ r, t.resultOf? task = some r → r = result
  noOwner : ∀ entry, t.byResult.get? result = some entry → entry.task = task

def Accepts (t : Tracker) : Change → Prop
  | .insert task result _ => t.Fits task result
  | .erase _ => True
  | .clear => True

variable {t : Tracker} {task result : String}

theorem synced_iff : t.Synced ↔ t.InSync := by
  constructor
  · intro h task result
    constructor
    · exact h.tracked
    · rintro ⟨entry, hentry, rfl⟩
      exact h.resultOf hentry
  · intro h
    constructor
    · intro result entry hentry
      exact (h entry.task result).mpr ⟨entry, hentry, rfl⟩
    · intro task result hresult
      exact (h task result).mp hresult

theorem Fits.synced_insert (h : t.Synced) (hfits : t.Fits task result) (handler : Handler) :
    (t.insert task result handler).Synced := by
  constructor
  · intro r entry hentry
    simp only [Tracker.insert, resultOf?, Table.get?_insert] at hentry ⊢
    split at hentry
    · next hr =>
      cases hentry
      rw [if_pos rfl, hr]
    · next hr =>
      have hold := h.resultOf hentry
      rw [if_neg]
      · exact hold
      · rintro rfl
        exact hr (hfits.noOther r hold).symm
  · intro task' r hr
    simp only [Tracker.insert, resultOf?, Table.get?_insert] at hr ⊢
    split at hr
    · next htask =>
      cases hr
      rw [if_pos rfl]
      exact ⟨_, rfl, htask⟩
    · next htask =>
      obtain ⟨entry, hentry, rfl⟩ := h.tracked hr
      refine ⟨entry, ?_, rfl⟩
      rw [if_neg]
      · exact hentry
      · rintro rfl
        exact htask (hfits.noOwner entry hentry).symm

theorem Synced.fits_of_insert (h : t.Synced) {handler : Handler}
    (hinsert : (t.insert task result handler).Synced) : t.Fits task result := by
  have hnow : (t.insert task result handler).resultOf? task = some result := by
    simp [Tracker.insert, resultOf?]
  constructor
  · -- the old result of the task would still be tracked for it
    intro r hr
    obtain ⟨entry, hentry, rfl⟩ := h.tracked hr
    by_contra hne
    have hkept : (t.insert entry.task result handler).byResult.get? r = some entry := by
      simp [Tracker.insert, Ne.symm hne, hentry]
    have hback := hinsert.resultOf hkept
    rw [hnow] at hback
    exact hne (Option.some.inj hback).symm
  · -- the old task of the result would still have it
    intro entry hentry
    by_contra hne
    have hold := h.resultOf hentry
    have hkept : (t.insert task result handler).resultOf? entry.task = some result := by
      simpa [Tracker.insert, resultOf?, Ne.symm hne] using hold
    obtain ⟨entry', hentry', htask⟩ := hinsert.tracked hkept
    simp only [Tracker.insert, Table.get?_insert, if_pos] at hentry'
    cases hentry'
    exact hne htask.symm

theorem Synced.change_iff (h : t.Synced) (c : Change) : (t.change c).Synced ↔ t.Accepts c := by
  cases c with
  | insert task result handler =>
    exact ⟨h.fits_of_insert, fun hfits => hfits.synced_insert h handler⟩
  | erase result => exact ⟨fun _ => trivial, fun _ => h.erase result⟩
  | clear => exact ⟨fun _ => trivial, fun _ => synced_empty⟩

theorem changed_append (changes : List Change) (c : Change) :
    changed (changes ++ [c]) = (changed changes).change c := by
  unfold changed
  rw [List.foldl_append]
  rfl

/-- The maps are in step all along exactly if every change is one that they accept. -/
theorem synced_changed_iff (changes : List Change) :
    (∀ before, before <+: changes → (changed before).Synced) ↔
      ∀ before c, before ++ [c] <+: changes → (changed before).Accepts c := by
  constructor
  · intro h before c hprefix
    have hbefore := h before ((List.prefix_append before [c]).trans hprefix)
    have hafter := h (before ++ [c]) hprefix
    rw [changed_append] at hafter
    exact (hbefore.change_iff c).mp hafter
  · intro h before
    induction before using List.reverseRecOn with
    | nil => exact fun _ => synced_empty
    | append_singleton before c ih =>
      intro hprefix
      have hbefore := ih ((List.prefix_append before [c]).trans hprefix)
      rw [changed_append]
      exact (hbefore.change_iff c).mpr (h before c hprefix)

theorem Synced.foldl_erase (h : t.Synced) (order : List String) : (order.foldl Tracker.erase t).Synced := by
  induction order generalizing t with
  | nil => exact h
  | cons r rest ih => exact ih (h.erase r)

theorem get?_foldl_erase (t : Tracker) (order : List String) (r : String) :
    (order.foldl erase t).byResult.get? r = if r ∈ order then none else t.byResult.get? r := by
  induction order generalizing t with
  | nil => rfl
  | cons x rest ih =>
    rw [List.foldl_cons, ih, byResult_erase, Table.get?_erase]
    by_cases hrest : r ∈ rest
    · simp [hrest]
    · by_cases hx : x = r
      · simp [hx]
      · simp [hrest, hx, Ne.symm hx]

/-- Once every result was erased nothing is left in either map. -/
theorem Synced.erased (h : t.Synced) {order : List String} (hall : ∀ r ∈ t.results, r ∈ order) :
    order.foldl Tracker.erase t = {} := by
  have hresults (r : String) : (order.foldl Tracker.erase t).byResult.get? r = none := by
    rw [get?_foldl_erase]
    split
    · rfl
    · next hr => exact Table.get?_eq_none_iff.mpr fun hkey => hr (hall r hkey)
  have htasks (task : String) : (order.foldl Tracker.erase t).resultOfTask.get? task = none := by
    rw [Option.eq_none_iff_forall_ne_some]
    intro r hr
    obtain ⟨entry, hentry, -⟩ := (h.foldl_erase order).tracked hr
    rw [hresults] at hentry
    cases hentry
  have hbyResult := Table.eq_empty hresults
  have hresultOfTask := Table.eq_empty htasks
  generalize order.foldl Tracker.erase t = emptied at hbyResult hresultOfTask
  cases emptied
  cases hbyResult
  cases hresultOfTask
  rfl

/-- When the maps are in step. They are after every change of an empty tracker exactly if each insertion, at its
time, names a task that is not tracked under another result and a result that is not tracked for another task; and
from maps in step erasing every tracked result, in any order, leaves nothing. -/
theorem in_sync_iff (changes : List Change) :
    ((∀ before, before <+: changes → (changed before).InSync) ↔
      ∀ before task result handler, before ++ [.insert task result handler] <+: changes →
        (changed before).Fits task result) ∧
    ((changed changes).InSync → ∀ order : List String, (∀ r ∈ (changed changes).results, r ∈ order) →
      order.foldl erase (changed changes) = {}) := by
  constructor
  · simp only [← synced_iff]
    rw [synced_changed_iff]
    constructor
    · intro h before task result handler hprefix
      exact h before _ hprefix
    · intro h before c hprefix
      cases c with
      | insert task result handler => exact h before task result handler hprefix
      | erase result => trivial
      | clear => trivial
  · intro h order hall
    exact (synced_iff.mpr h).erased hall

/-- Two tasks with one result: the first stays in the index though nothing is tracked for it, also when no result
is left. -/
theorem index_outlives_results :
    let t := changed [.insert "t1" "r1" ⟨"h", false⟩, .insert "t2" "r1" ⟨"h", false⟩]
    let emptied := t.results.foldl erase t
    ¬ t.InSync ∧ emptied.byResult = {} ∧ emptied.resultOf? "t1" = some "r1" := by
  intro t emptied
  refine ⟨fun h => ?_, by decide, by decide⟩
  have hindex : t.resultOf? "t1" = some "r1" := by decide
  obtain ⟨entry, hentry, htask⟩ := (h "t1" "r1").mp hindex
  have htracked : t.byResult.get? "r1" = some ⟨"t2", "h", false⟩ := by decide
  rw [htracked] at hentry
  cases hentry
  exact absurd htask (by decide)

end Tracker
end TaskGrid
