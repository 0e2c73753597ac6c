import Mathlib.Data.List.Perm.Subperm
import Mathlib.Data.List.Nodup
import Mathlib.Tactic.Choose
import TaskGrid.Plane.Naming

/-! The ids of new results belong to the names that were asked for: each id to the result that was made under
the name in its place, and none is had from results of other names (`idsOf_eq_ok_iff`). Everything else is no answer,
for a reason that the error gives (`Mismatch`). -/
namespace TaskGrid

theorem Table.get?_ofList {κ α : Type} [DecidableEq κ] {l : List (κ × α)} (h : (l.map Prod.fst).Nodup)
    {k : κ} {v : α} : (Table.ofList l).get? k = some v ↔ (k, v) ∈ l := by
  rw [Table.get?_eq_some_iff, Table.entries_ofList h]

namespace Naming

def named (made : List ResultInfo) : List (String × String) := made.map fun r => (r.name, r.id)

theorem map_get?_erase {t : Table String String} {name : String} {names : List String} (h : name ∉ names) :
    names.map (t.erase name).get? = names.map t.get? := by
  refine List.map_congr_left fun n hn => ?_
  rw [Table.get?_erase, if_neg (ne_of_mem_of_not_mem hn h).symm]

/-- The ids of names can be taken if the names differ and all have one. -/
theorem take_eq_ok_iff {t : Table String String} {names ids : List String} :
    take t names = .ok ids ↔ names.Nodup ∧ names.map t.get? = ids.map some := by
  induction names generalizing t ids with
  | nil => cases ids <;> simp [take]
  | cons name r ih =>
    rw [take]
    split
    · next hnone => cases ids <;> simp [hnone]
    · next id hid =>
      constructor
      · intro h
        obtain ⟨rest, hrest, rfl⟩ : ∃ rest, take (t.erase name) r = .ok rest ∧ id :: rest = ids := by
          cases htake : take (t.erase name) r with
          | error e => rw [htake] at h; cases h
          | ok rest => rw [htake] at h; cases h; exact ⟨rest, rfl, rfl⟩
        obtain ⟨hnodup, hget⟩ := ih.mp hrest
        have hname : name ∉ r := by
          intro hmem
          have hnone : (t.erase name).get? name = none := by rw [Table.get?_erase, if_pos rfl]
          have hsome := List.mem_map_of_mem (f := (t.erase name).get?) hmem
          rw [hget, hnone] at hsome
          simp at hsome
        rw [map_get?_erase hname] at hget
        exact ⟨List.nodup_cons.mpr ⟨hname, hnodup⟩, by rw [List.map_cons, List.map_cons, hid, hget]⟩
      · rintro ⟨hnodup, hget⟩
        obtain ⟨hname, hr⟩ := List.nodup_cons.mp hnodup
        cases ids with
        | nil => simp at hget
        | cons id' rest =>
          simp only [List.map_cons, List.cons.injEq, hid, Option.some.injEq] at hget
          obtain ⟨rfl, hrest⟩ := hget
          rw [ih.mpr ⟨hr, (map_get?_erase hname).trans hrest⟩]
          rfl

theorem map_get?_eq_iff {t : Table String String} {names ids : List String} :
    names.map t.get? = ids.map some ↔
      names.length = ids.length ∧ ∀ x ∈ names.zip ids, t.get? x.1 = some x.2 := by
  induction names generalizing ids with
  | nil => cases ids <;> simp
  | cons name r ih => cases ids <;> simp [ih, and_left_comm]

/-- The ids are had if all the results, and only they, were made under the names, which differ. -/
theorem idsOf_eq_ok_iff {names ids : List String} {made : List ResultInfo} : idsOf names made = .ok ids ↔
    names.Nodup ∧ names.length = ids.length ∧ (named made).Perm (names.zip ids) := by
  have hzip (h : names.length = ids.length) : (names.zip ids).map Prod.fst = names :=
    List.map_fst_zip (Nat.le_of_eq h)
  rw [idsOf]
  split
  · next hlength =>
    have hne (hids : names.length = ids.length) : ¬ (named made).Perm (names.zip ids) := fun hperm => by
      have := hperm.length_eq
      simp only [named, List.length_map, List.length_zip] at this
      omega
    simpa using fun _ => hne
  · next hlength =>
    rw [take_eq_ok_iff, map_get?_eq_iff]
    refine and_congr_right fun hnodup => and_congr_right fun hids => ?_
    have hkeys : ((names.zip ids).map Prod.fst).Nodup := by rwa [hzip hids]
    constructor
    · intro hget
      have hsub : names.zip ids ⊆ named made := fun x hx =>
        (Table.mem_of_get?_insertAll (hget x hx)).resolve_left (by simp)
      have hle : (named made).length ≤ (names.zip ids).length := by
        simp only [named, List.length_map, List.length_zip]
        omega
      exact ((List.subperm_of_subset (List.Nodup.of_map Prod.fst hkeys) hsub).perm_of_length_le hle).symm
    · intro hperm x hx
      have hmade : ((named made).map Prod.fst).Nodup := (hperm.map Prod.fst).nodup_iff.mpr hkeys
      exact (Table.get?_ofList hmade).mpr (hperm.mem_iff.mpr hx)

/-- Results that were made under the names, in any order, have ids for all of them. -/
theorem exists_idsOf {names : List String} (hnodup : names.Nodup) {made : List ResultInfo}
    (h : (made.map (·.name)).Perm names) : ∃ ids, idsOf names made = .ok ids := by
  have hkeys : ((named made).map Prod.fst).Nodup := by
    rw [named, List.map_map]
    exact h.nodup_iff.mpr hnodup
  have hget : ∀ name ∈ names, ∃ id, (Table.ofList (named made)).get? name = some id := by
    intro name hname
    obtain ⟨r, hr, rfl⟩ := List.mem_map.mp (h.mem_iff.mpr hname)
    exact ⟨r.id, (Table.get?_ofList hkeys).mpr (List.mem_map_of_mem hr)⟩
  choose! id hid using hget
  refine ⟨names.map id, ?_⟩
  rw [idsOf, if_neg (by simpa using h.length_eq), take_eq_ok_iff, List.map_map]
  exact ⟨hnodup, List.map_congr_left hid⟩

variable {names : List String} {name : String} {made : List ResultInfo} {e : GridError}

/-- The first name that gets no id where each name that is `given` can be taken once: it is not given, or it was asked
for before. -/
def FirstRefused (given : String → Prop) (names : List String) (name : String) : Prop :=
  ∃ earlier later, names = earlier ++ name :: later ∧ earlier.Nodup ∧ (∀ n ∈ earlier, given n) ∧
    (name ∈ earlier ∨ ¬ given name)

/-- A name that is taken is not given any more. -/
theorem firstRefused_cons_iff {given : String → Prop} {n : String} :
    FirstRefused given (n :: names) name ↔
      (¬ given n ∧ name = n) ∨ (given n ∧ FirstRefused (fun x => x ≠ n ∧ given x) names name) := by
  constructor
  · rintro ⟨earlier, later, heq, hnodup, hgiven, hname⟩
    -- with no name before it, the refused one is the first of all; else that one was taken
    cases earlier with
    | nil =>
      obtain ⟨rfl, rfl⟩ := List.cons.inj heq
      exact .inl ⟨hname.resolve_left List.not_mem_nil, rfl⟩
    | cons m r =>
      obtain ⟨rfl, rfl⟩ := List.cons.inj heq
      obtain ⟨hm, hr⟩ := List.nodup_cons.mp hnodup
      obtain ⟨hn, hr'⟩ := List.forall_mem_cons.mp hgiven
      refine .inr ⟨hn, r, later, rfl, hr, fun x hx => ⟨ne_of_mem_of_not_mem hx hm, hr' x hx⟩, ?_⟩
      rcases hname with hmem | hnone
      · rcases List.mem_cons.mp hmem with rfl | hmem
        · exact .inr fun h => h.1 rfl
        · exact .inl hmem
      · exact .inr fun h => hnone h.2
  · rintro (⟨hn, rfl⟩ | ⟨hn, r, later, rfl, hnodup, hgiven, hname⟩)
    · exact ⟨[], names, rfl, List.nodup_nil, by simp, .inr hn⟩
    · refine ⟨n :: r, later, rfl, List.nodup_cons.mpr ⟨fun h => (hgiven n h).1 rfl, hnodup⟩,
        List.forall_mem_cons.mpr ⟨hn, fun x hx => (hgiven x hx).2⟩, ?_⟩
      by_cases h : name = n
      · exact .inl (h ▸ List.mem_cons_self)
      · exact hname.imp (List.mem_cons_of_mem n) fun hnone hgiven => hnone ⟨h, hgiven⟩

theorem take_eq_error_iff {t : Table String String} :
    take t names = .error e ↔ ∃ name, FirstRefused (· ∈ t.keys) names name ∧
      e = .unexpectedResponse ("result " ++ name ++ " missing from response") := by
  induction names generalizing t with
  | nil => simp [take, FirstRefused]
  | cons n r ih =>
    simp only [firstRefused_cons_iff]
    rw [take]
    split
    · next hnone =>
      have hn : n ∉ t.keys := Table.get?_eq_none_iff.mp hnone
      simp [hn, eq_comm]
    · next id hid =>
      have hn : n ∈ t.keys := Table.mem_keys_iff.mpr ⟨id, hid⟩
      have hleft : (· ∈ (t.erase n).keys) = fun x => x ≠ n ∧ x ∈ t.keys :=
        funext fun x => propext Table.mem_keys_erase
      have hmap : (take (t.erase n) r).map (id :: ·) = .error e ↔ take (t.erase n) r = .error e := by
        cases take (t.erase n) r <;> simp [Except.map]
      rw [hmap, ih, hleft]
      simp [hn]

/-- Why results that were made are no answer to a request: there are too many or too few, or one that was asked for
is missing. -/
inductive Mismatch (names : List String) (made : List ResultInfo) : (details : String) → Prop
  | number (h : made.length ≠ names.length) : Mismatch names made
      s!"asked for {names.length} results, control plane created {made.length}"
  | missing (h : made.length = names.length) (name : String)
      (hname : FirstRefused (· ∈ made.map (·.name)) names name) :
      Mismatch names made ("result " ++ name ++ " missing from response")

theorem idsOf_eq_error_iff :
    idsOf names made = .error e ↔ ∃ details, Mismatch names made details ∧ e = .unexpectedResponse details := by
  rw [idsOf]
  split
  · next hlength =>
    constructor
    · rintro ⟨⟩
      exact ⟨_, .number hlength, rfl⟩
    · rintro ⟨_, ⟨_⟩ | ⟨h⟩, rfl⟩
      · rfl
      · exact absurd h hlength
  · next hlength =>
    have hkeys : (· ∈ (Table.ofList (named made)).keys) = fun name => name ∈ made.map (·.name) := by
      funext name
      rw [Table.mem_keys_ofList, named, List.map_map]
      rfl
    rw [← named, take_eq_error_iff, hkeys]
    constructor
    · rintro ⟨name, hname, rfl⟩
      exact ⟨_, .missing (Decidable.of_not_not hlength) name hname, rfl⟩
    · rintro ⟨_, ⟨h⟩ | ⟨_, name, hname⟩, rfl⟩
      · exact absurd h hlength
      · exact ⟨name, hname, rfl⟩

/-- Two results under one name are one too few. -/
example (r : ResultInfo) : idsOf ["a", "b"] [{ r with name := "a" }, { r with name := "a" }] =
    .error (.unexpectedResponse "result b missing from response") := rfl

theorem exists_idsOf_iff :
    (∃ ids, idsOf names made = .ok ids) ↔ names.Nodup ∧ (made.map (·.name)).Perm names := by
  constructor
  · rintro ⟨ids, hids⟩
    obtain ⟨hnodup, hlength, hperm⟩ := idsOf_eq_ok_iff.mp hids
    have hnames := hperm.map Prod.fst
    rw [List.map_fst_zip (Nat.le_of_eq hlength), named, List.map_map] at hnames
    exact ⟨hnodup, hnames⟩
  · rintro ⟨hnodup, hperm⟩
    exact exists_idsOf hnodup hperm

/-- Where the names of results differ, each result is the only one under its name. -/
theorem filter_name_eq {r : ResultInfo} (hnodup : (made.map (·.name)).Nodup) (hr : r ∈ made) :
    made.filter (·.name = r.name) = [r] := by
  induction made with
  | nil => cases hr
  | cons m rest ih =>
    obtain ⟨hm, hrest⟩ := List.nodup_cons.mp hnodup
    rcases List.mem_cons.mp hr with rfl | hmem
    · have hnone : rest.filter (·.name = r.name) = [] :=
        List.filter_eq_nil_iff.mpr fun x hx h => hm (List.mem_map.mpr ⟨x, hx, of_decide_eq_true h⟩)
      rw [List.filter_cons_of_pos (by simp), hnone]
    · have hne : m.name ≠ r.name := fun h => hm (List.mem_map.mpr ⟨r, hmem, h.symm⟩)
      rw [List.filter_cons_of_neg (by simpa using hne), ih hrest hmem]

/-- The id in a place is that of the one result that was made under the name in this place. -/
theorem exists_made {ids : List String} (h : idsOf names made = .ok ids) {i : Nat} (hi : names[i]? = some name) :
    ∃ r, made.filter (·.name = name) = [r] ∧ ids[i]? = some r.id := by
  obtain ⟨hnodup, hperm⟩ := exists_idsOf_iff.mp ⟨ids, h⟩
  obtain ⟨-, hlength, hzip⟩ := idsOf_eq_ok_iff.mp h
  obtain ⟨id, hid⟩ : ∃ id, ids[i]? = some id := by
    obtain ⟨hlt, -⟩ := List.getElem?_eq_some_iff.mp hi
    exact ⟨_, List.getElem?_eq_getElem (hlength ▸ hlt)⟩
  have hmem : (name, id) ∈ names.zip ids := List.mem_of_getElem? (List.getElem?_zip_eq_some.mpr ⟨hi, hid⟩)
  obtain ⟨r, hr, heq⟩ := List.mem_map.mp (hzip.mem_iff.mpr hmem)
  cases heq
  exact ⟨r, filter_name_eq (hperm.nodup_iff.mpr hnodup) hr, hid⟩

/-- There are ids exactly if the names differ and the results were made under them, in whatever order; then each id is
that of the one result under the name in its place. In all other cases the response is unexpected, for its number of
results or for the first name without a result that is left for it. -/
theorem ids_in_requested_order (names : List String) (made : List ResultInfo) :
    ((∃ ids, idsOf names made = .ok ids) ↔ names.Nodup ∧ (made.map (·.name)).Perm names) ∧
    (∀ ids, idsOf names made = .ok ids → ids.length = names.length ∧
      ∀ (i : Nat) (name : String), names[i]? = some name →
        ∃ r, made.filter (·.name = name) = [r] ∧ ids[i]? = some r.id) ∧
    (¬ (names.Nodup ∧ (made.map (·.name)).Perm names) ↔
      ∃ details, Mismatch names made details ∧ idsOf names made = .error (.unexpectedResponse details)) := by
  refine ⟨exists_idsOf_iff, fun ids h => ⟨(idsOf_eq_ok_iff.mp h).2.1.symm, fun i name => exists_made h⟩, ?_⟩
  rw [← exists_idsOf_iff]
  cases h : idsOf names made with
  | ok ids => simp
  | error e =>
    obtain ⟨details, hdetails, rfl⟩ := idsOf_eq_error_iff.mp h
    exact iff_of_true (by simp) ⟨details, hdetails, rfl⟩

end Naming
end TaskGrid
