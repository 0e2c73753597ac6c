/-!
Cutting a list into parts of a given size, of which only the last may be shorter. Main statements:
`flatten_chunks` and `map_length_chunks`.
-/

namespace TaskGrid

/-- The parts of a list, each of `n` elements but the last. Parts of no size are parts of one. -/
def chunks (n : Nat) (l : List α) : List (List α) :=
  if l = [] then [] else l.take (max n 1) :: chunks n (l.drop (max n 1))
termination_by l.length
decreasing_by
  have : 0 < l.length := List.length_pos_iff.mpr (by assumption)
  simp only [List.length_drop]
  omega

@[simp] theorem chunks_nil (n : Nat) : chunks n ([] : List α) = [] := by
  rw [chunks]; simp

theorem chunks_of_ne_nil (n : Nat) {l : List α} (h : l ≠ []) :
    chunks n l = l.take (max n 1) :: chunks n (l.drop (max n 1)) := by
  rw [chunks, if_neg h]

theorem flatten_chunks (n : Nat) (l : List α) : (chunks n l).flatten = l := by
  fun_induction chunks n l with
  | case1 => rfl
  | case2 l h ih => rw [List.flatten_cons, ih, List.take_append_drop]

theorem length_le_of_mem_chunks {n : Nat} {l part : List α} (h : part ∈ chunks n l) :
    part.length ≤ max n 1 := by
  fun_induction chunks n l with
  | case1 => simp at h
  | case2 l _ ih =>
    rcases List.mem_cons.mp h with rfl | h
    · simp only [List.length_take]; omega
    · exact ih h

theorem ne_nil_of_mem_chunks {n : Nat} {l part : List α} (h : part ∈ chunks n l) : part ≠ [] := by
  fun_induction chunks n l with
  | case1 => simp at h
  | case2 l hl ih =>
    rcases List.mem_cons.mp h with rfl | h
    · have := List.length_pos_iff.mpr hl
      rw [← List.length_pos_iff, List.length_take]
      omega
    · exact ih h

theorem map_length_chunks {n : Nat} (hn : 0 < n) (l : List α) :
    (chunks n l).map List.length =
      List.replicate (l.length / n) n ++ if l.length % n = 0 then [] else [l.length % n] := by
  have hmax : max n 1 = n := by omega
  fun_induction chunks n l with
  | case1 => simp
  | case2 l h ih =>
    have hpos : 0 < l.length := List.length_pos_iff.mpr h
    rw [List.map_cons, ih, hmax, List.length_take, List.length_drop]
    rcases Nat.lt_or_ge l.length n with hlt | hge
    · rw [Nat.sub_eq_zero_of_le (Nat.le_of_lt hlt), Nat.div_eq_of_lt hlt, Nat.mod_eq_of_lt hlt,
        Nat.min_eq_right (Nat.le_of_lt hlt)]
      simp [h]
    · rw [Nat.min_eq_left hge, Nat.div_eq_sub_div hn hge, Nat.mod_eq_sub_mod hge,
        List.replicate_succ, List.cons_append]

theorem flatten_take_chunks {n : Nat} (hn : 0 < n) (j : Nat) (l : List α) :
    ((chunks n l).take j).flatten = l.take (j * n) := by
  have hmax : max n 1 = n := by omega
  induction j generalizing l with
  | zero => simp
  | succ j ih =>
    by_cases h : l = []
    · simp [h]
    · rw [chunks_of_ne_nil n h, List.take_succ_cons, List.flatten_cons, ih, hmax, Nat.succ_mul,
        Nat.add_comm, List.take_add]

/-- A part begins where the parts before it end. -/
theorem lt_length_of_getElem?_chunks {n j : Nat} (hn : 0 < n) {l part : List α}
    (h : (chunks n l)[j]? = some part) : j * n < l.length := by
  have hmax : max n 1 = n := by omega
  induction j generalizing l with
  | zero =>
    rw [Nat.zero_mul, List.length_pos_iff]
    rintro rfl
    simp at h
  | succ j ih =>
    by_cases hl : l = []
    · simp [hl] at h
    · rw [chunks_of_ne_nil n hl, List.getElem?_cons_succ, hmax] at h
      have hd := ih h
      rw [List.length_drop] at hd
      rw [Nat.succ_mul]
      omega

theorem map_length_take_chunks {n j : Nat} (hn : 0 < n) {l part : List α}
    (h : (chunks n l)[j]? = some part) :
    ((chunks n l).take j).map List.length = List.replicate j n := by
  have hj : j ≤ l.length / n :=
    (Nat.le_div_iff_mul_le hn).mpr (Nat.le_of_lt (lt_length_of_getElem?_chunks hn h))
  rw [List.map_take, map_length_chunks hn, List.take_append_of_le_length (by simpa using hj),
    List.take_replicate, Nat.min_eq_left hj]

end TaskGrid
