/-!
Finite tables whose entries keep the order in which their keys were first written. Main statements:
`get?_insert` and `get?_erase` say what a reader sees after each change.
-/

namespace TaskGrid

/-- A finite table; `distinct` keeps every key at one place. -/
structure Table (κ : Type u) (α : Type v) where
  entries : List (κ × α)
  distinct : (entries.map Prod.fst).Nodup

namespace Table

variable {κ : Type u} {α : Type v}

@[ext] theorem ext {s t : Table κ α} (h : s.entries = t.entries) : s = t := by
  cases s; cases t; cases h; rfl

variable [DecidableEq κ]

instance [DecidableEq α] : DecidableEq (Table κ α) := fun s t =>
  if h : s.entries = t.entries then isTrue (ext h) else isFalse fun e => h (by rw [e])

def find (k : κ) : List (κ × α) → Option α
  | [] => none
  | (k', v) :: r => if k' = k then some v else find k r

/-- Writes a value in the place of its key, or at the end. -/
def put (k : κ) (v : α) : List (κ × α) → List (κ × α)
  | [] => [(k, v)]
  | (k', v') :: r => if k' = k then (k, v) :: r else (k', v') :: put k v r

theorem keys_put (k : κ) (v : α) (l : List (κ × α)) :
    (put k v l).map Prod.fst =
      if k ∈ l.map Prod.fst then l.map Prod.fst else l.map Prod.fst ++ [k] := by
  induction l with
  | nil => simp [put]
  | cons e r ih =>
    obtain ⟨k', v'⟩ := e
    by_cases h : k' = k
    · simp [put, h]
    · have h' : ¬ k = k' := fun e => h e.symm
      by_cases hr : k ∈ r.map Prod.fst
      · rw [if_pos hr] at ih
        simp only [put, if_neg h, List.map_cons, ih]
        rw [if_pos (List.mem_cons_of_mem _ hr)]
      · rw [if_neg hr] at ih
        simp only [put, if_neg h, List.map_cons, ih]
        rw [if_neg (by simp only [List.mem_cons, not_or]; exact ⟨h', hr⟩)]
        rfl

theorem nodup_put (k : κ) (v : α) {l : List (κ × α)} (h : (l.map Prod.fst).Nodup) :
    ((put k v l).map Prod.fst).Nodup := by
  rw [keys_put]
  split
  · exact h
  · next hk =>
    refine List.nodup_append.mpr ⟨h, by simp, ?_⟩
    intro a ha b hb e
    simp only [List.mem_singleton] at hb
    exact hk (hb ▸ e ▸ ha)

def empty : Table κ α := ⟨[], List.nodup_nil⟩

instance : EmptyCollection (Table κ α) := ⟨empty⟩
instance : Inhabited (Table κ α) := ⟨empty⟩

def keys (t : Table κ α) : List κ := t.entries.map Prod.fst

def values (t : Table κ α) : List α := t.entries.map Prod.snd

def size (t : Table κ α) : Nat := t.entries.length

def isEmpty (t : Table κ α) : Bool := t.entries.isEmpty

def get? (t : Table κ α) (k : κ) : Option α := find k t.entries

def contains (t : Table κ α) (k : κ) : Bool := (t.get? k).isSome

def insert (t : Table κ α) (k : κ) (v : α) : Table κ α := ⟨put k v t.entries, nodup_put k v t.distinct⟩

def erase (t : Table κ α) (k : κ) : Table κ α where
  entries := t.entries.filter (·.1 ≠ k)
  distinct := by
    rw [List.nodup_iff_pairwise_ne, List.pairwise_map]
    exact (List.pairwise_map.mp t.distinct).filter _

/-- Sets several values, the last of one key winning. -/
def insertAll (t : Table κ α) (entries : List (κ × α)) : Table κ α :=
  entries.foldl (fun t e => t.insert e.1 e.2) t

def ofList (entries : List (κ × α)) : Table κ α := empty.insertAll entries

theorem find_put (k k' : κ) (v : α) (l : List (κ × α)) :
    find k' (put k v l) = if k = k' then some v else find k' l := by
  induction l with
  | nil => simp [put, find]
  | cons e r ih => simp only [put]; grind [find]

theorem find_filter (k k' : κ) (l : List (κ × α)) :
    find k' (l.filter (·.1 ≠ k)) = if k = k' then none else find k' l := by
  induction l with
  | nil => simp [find]
  | cons e r ih => grind [find]

theorem find_eq_some_iff {k : κ} {v : α} {l : List (κ × α)} (h : (l.map Prod.fst).Nodup) :
    find k l = some v ↔ (k, v) ∈ l := by
  induction l with
  | nil => simp [find]
  | cons e r ih =>
    obtain ⟨k', v'⟩ := e
    obtain ⟨hk, hr⟩ := List.nodup_cons.mp h
    by_cases e : k' = k
    · subst e
      have : (k', v) ∉ r := fun m => hk (List.mem_map.mpr ⟨_, m, rfl⟩)
      simp [find, this, eq_comm]
    · simp [find, e, ih hr, Ne.symm e]

theorem put_of_not_mem {k : κ} {l : List (κ × α)} (h : k ∉ l.map Prod.fst) (v : α) :
    put k v l = l ++ [(k, v)] := by
  induction l with
  | nil => rfl
  | cons e r ih =>
    simp only [List.map_cons, List.mem_cons, not_or] at h
    simp [put, Ne.symm h.1, ih h.2]

@[simp] theorem get?_empty (k : κ) : (empty : Table κ α).get? k = none := rfl

@[simp] theorem get?_insert (t : Table κ α) (k k' : κ) (v : α) :
    (t.insert k v).get? k' = if k = k' then some v else t.get? k' := find_put k k' v t.entries

@[simp] theorem get?_erase (t : Table κ α) (k k' : κ) :
    (t.erase k).get? k' = if k = k' then none else t.get? k' := find_filter k k' t.entries

theorem get?_eq_some_iff {t : Table κ α} {k : κ} {v : α} : t.get? k = some v ↔ (k, v) ∈ t.entries :=
  find_eq_some_iff t.distinct

theorem mem_keys_iff {t : Table κ α} {k : κ} : k ∈ t.keys ↔ ∃ v, t.get? k = some v := by
  simp [keys, get?_eq_some_iff]

theorem get?_eq_none_iff {t : Table κ α} {k : κ} : t.get? k = none ↔ k ∉ t.keys := by
  rw [mem_keys_iff, ← Option.isSome_iff_exists]
  simp

theorem mem_keys_insert {t : Table κ α} {k k' : κ} {v : α} : k' ∈ (t.insert k v).keys ↔ k' = k ∨ k' ∈ t.keys := by
  rw [mem_keys_iff, mem_keys_iff]
  simp only [get?_insert]
  by_cases h : k = k' <;> simp [h, eq_comm]

theorem mem_keys_erase {t : Table κ α} {k k' : κ} : k' ∈ (t.erase k).keys ↔ k' ≠ k ∧ k' ∈ t.keys := by
  rw [mem_keys_iff, mem_keys_iff]
  simp only [get?_erase]
  by_cases h : k = k' <;> simp [h, eq_comm]

theorem mem_keys_insertAll {t : Table κ α} {l : List (κ × α)} {k : κ} :
    k ∈ (t.insertAll l).keys ↔ k ∈ t.keys ∨ k ∈ l.map Prod.fst := by
  induction l generalizing t with
  | nil => simp [insertAll]
  | cons e r ih =>
    have hstep : t.insertAll (e :: r) = (t.insert e.1 e.2).insertAll r := rfl
    rw [hstep, ih, mem_keys_insert, List.map_cons, List.mem_cons, or_assoc, or_left_comm]

theorem mem_keys_ofList {l : List (κ × α)} {k : κ} : k ∈ (ofList l).keys ↔ k ∈ l.map Prod.fst :=
  mem_keys_insertAll.trans (or_iff_right List.not_mem_nil)

theorem eq_empty {t : Table κ α} (h : ∀ k, t.get? k = none) : t = empty := by
  apply ext
  apply List.eq_nil_iff_forall_not_mem.mpr
  intro e he
  have hkey : e.1 ∉ t.keys := get?_eq_none_iff.mp (h e.1)
  exact hkey (List.mem_map.mpr ⟨e, he, rfl⟩)

def map {β : Type w} (f : α → β) (t : Table κ α) : Table κ β where
  entries := t.entries.map fun e => (e.1, f e.2)
  distinct := by
    rw [List.map_map]
    exact t.distinct

section
variable {β : Type w} (f : α → β) (t : Table κ α) (k : κ)

@[simp] theorem get?_map : (t.map f).get? k = (t.get? k).map f := by
  obtain ⟨l, h⟩ := t
  simp only [get?, map]
  clear h
  induction l with
  | nil => rfl
  | cons e r ih =>
    simp only [List.map_cons, find, ih]
    split <;> rfl

@[simp] theorem map_insert (v : α) : (t.insert k v).map f = (t.map f).insert k (f v) := by
  obtain ⟨l, h⟩ := t
  apply ext
  simp only [insert, map]
  clear h
  induction l with
  | nil => rfl
  | cons e r ih =>
    simp only [put, List.map_cons]
    split
    · rfl
    · simp only [List.map_cons, ih]

@[simp] theorem map_erase : (t.erase k).map f = (t.map f).erase k := by
  apply ext
  simp only [erase, map, List.filter_map]
  rfl

end

theorem entries_insert {t : Table κ α} {k : κ} (h : k ∉ t.keys) (v : α) :
    (t.insert k v).entries = t.entries ++ [(k, v)] := put_of_not_mem h v

theorem entries_insertAll {t : Table κ α} {l : List (κ × α)} (hl : (l.map Prod.fst).Nodup)
    (h : ∀ k ∈ l.map Prod.fst, k ∉ t.keys) : (t.insertAll l).entries = t.entries ++ l := by
  induction l generalizing t with
  | nil => simp [insertAll]
  | cons e r ih =>
    obtain ⟨hk, hr⟩ := List.nodup_cons.mp hl
    have he : (t.insert e.1 e.2).entries = t.entries ++ [e] := entries_insert (h e.1 (by simp)) e.2
    have hn : ∀ k ∈ r.map Prod.fst, k ∉ (t.insert e.1 e.2).keys := by
      intro k hkr
      have : k ∉ t.keys := h k (by simp [hkr])
      have : k ≠ e.1 := fun e' => hk (e' ▸ hkr)
      simp_all [keys]
    have hs := ih hr hn
    simp only [insertAll] at hs ⊢
    rw [List.foldl_cons, hs, he]
    simp

theorem entries_ofList {l : List (κ × α)} (h : (l.map Prod.fst).Nodup) : (ofList l).entries = l := by
  have hempty : ∀ k ∈ l.map Prod.fst, k ∉ (empty : Table κ α).keys := by simp [keys, empty]
  exact (entries_insertAll h hempty).trans (List.nil_append l)

/-- The entries of a key are its value, if it has one. -/
theorem filter_entries (t : Table κ α) (k : κ) :
    t.entries.filter (·.1 = k) = ((t.get? k).map fun v => (k, v)).toList := by
  obtain ⟨l, h⟩ := t
  simp only [get?]
  induction l with
  | nil => rfl
  | cons e r ih =>
    obtain ⟨k', v⟩ := e
    obtain ⟨hk, hr⟩ := List.nodup_cons.mp h
    by_cases e : k' = k
    · subst e
      have hf : r.filter (fun e => decide (e.1 = k')) = [] := by
        rw [List.filter_eq_nil_iff]
        intro a ha he
        exact hk (List.mem_map.mpr ⟨a, ha, of_decide_eq_true he⟩)
      simp [find, hf]
    · simpa [find, e, List.filter_cons] using ih hr

theorem mem_of_get?_insertAll {t : Table κ α} {l : List (κ × α)} {k : κ} {v : α}
    (h : (t.insertAll l).get? k = some v) : t.get? k = some v ∨ (k, v) ∈ l := by
  induction l generalizing t with
  | nil => exact .inl h
  | cons e r ih =>
    rcases ih (t := t.insert e.1 e.2) h with hg | hm
    · rw [get?_insert] at hg
      split at hg
      · next e' =>
        cases e'
        cases hg
        exact .inr (List.mem_cons_self ..)
      · exact .inl hg
    · exact .inr (List.mem_cons_of_mem _ hm)

/-- Erasing a key takes its entry, if it has one, and leaves all others. -/
theorem entries_perm_erase (t : Table κ α) (k : κ) :
    t.entries.Perm (((t.get? k).map fun v => (k, v)).toList ++ (t.erase k).entries) := by
  obtain ⟨l, h⟩ := t
  simp only [get?, erase]
  induction l with
  | nil => simp [find]
  | cons e r ih =>
    obtain ⟨k', v⟩ := e
    obtain ⟨hk, hr⟩ := List.nodup_cons.mp h
    by_cases e : k' = k
    · subst e
      have hf : r.filter (fun e => decide (e.1 ≠ k')) = r := by
        refine List.filter_eq_self.mpr fun a ha => ?_
        have : a.1 ≠ k' := fun e => hk (List.mem_map.mpr ⟨a, ha, e⟩)
        simpa using this
      rw [List.filter_cons_of_neg (by simp), hf]
      simp [find]
    · simpa [find, e, List.filter_cons] using ((ih hr).cons (k', v)).trans List.perm_middle.symm

end Table
end TaskGrid
