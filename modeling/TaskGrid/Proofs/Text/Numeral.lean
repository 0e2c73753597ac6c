import Mathlib.Data.List.Induction
import Mathlib.Data.List.TakeWhile
import Mathlib.Data.Nat.Digits.Defs
import TaskGrid.Text.Blank
import TaskGrid.Text.Numeral

/-! Which texts are decimal numerals, and which are numerals between blanks. Main statements:
`readUnsigned?_eq_some_iff` and `trimChars_eq_iff`. -/
namespace TaskGrid
namespace Numeral

def number (digits : List Char) : Nat := Nat.ofDigits 10 (digits.reverse.map fun c => c.toNat - 48)

def IsDigits (cs : List Char) : Prop := cs ≠ [] ∧ ∀ c ∈ cs, c.isDigit = true

theorem number_append (digits : List Char) (c : Char) :
    number (digits ++ [c]) = c.toNat - 48 + 10 * number digits := by
  rw [number, List.reverse_append, List.reverse_singleton, List.singleton_append, List.map_cons,
    Nat.ofDigits_cons]
  rfl

theorem readFrom_append (n : Nat) (cs : List Char) (c : Char) : readFrom n (cs ++ [c]) =
    (readFrom n cs).bind fun m => (value? c).map fun d => 10 * m + d := by
  induction cs generalizing n with
  | nil => cases hc : value? c <;> simp [readFrom, hc]
  | cons x rest ih =>
    rw [List.cons_append, readFrom, readFrom, Option.bind_assoc]
    congr 1
    funext d
    exact ih _

theorem readFrom_zero_eq_some_iff {cs : List Char} {n : Nat} :
    readFrom 0 cs = some n ↔ (∀ c ∈ cs, c.isDigit = true) ∧ number cs = n := by
  induction cs using List.reverseRecOn generalizing n with
  | nil => simp [readFrom, number]
  | append_singleton cs c ih =>
    rw [readFrom_append, Option.bind_eq_some_iff]
    simp only [ih, value?, Option.map_eq_some_iff, List.forall_mem_append,
      List.forall_mem_singleton, number_append]
    constructor
    · rintro ⟨m, ⟨hcs, rfl⟩, d, hd, rfl⟩
      obtain ⟨hc, hd⟩ := Option.ite_none_right_eq_some.mp hd
      cases hd
      exact ⟨⟨hcs, hc⟩, Nat.add_comm _ _⟩
    · rintro ⟨⟨hcs, hc⟩, rfl⟩
      exact ⟨_, ⟨hcs, rfl⟩, c.toNat - 48, if_pos hc, Nat.add_comm _ _⟩

theorem read?_eq_some_iff {cs : List Char} {n : Nat} :
    read? cs = some n ↔ IsDigits cs ∧ number cs = n := by
  cases cs with
  | nil => simp [read?, IsDigits]
  | cons c r =>
    rw [read?, readFrom_zero_eq_some_iff, IsDigits, and_assoc]
    simp

/-- Digits are read, with a plus sign before them or without, and nothing else is. -/
theorem readUnsigned?_eq_some_iff {cs : List Char} {n : Nat} :
    readUnsigned? cs = some n ↔
      ∃ sign digits, cs = sign ++ digits ∧ (sign = [] ∨ sign = ['+']) ∧ IsDigits digits ∧
        number digits = n := by
  have hplus : ('+').isDigit = false := by decide
  constructor
  · intro h
    unfold readUnsigned? at h
    split at h
    · next r => exact ⟨['+'], r, rfl, .inr rfl, read?_eq_some_iff.mp h⟩
    · exact ⟨[], cs, rfl, .inl rfl, read?_eq_some_iff.mp h⟩
  · rintro ⟨sign, digits, rfl, rfl | rfl, hdigits⟩
    · unfold readUnsigned?
      split
      · next r hr =>
        -- a numeral without a sign begins with no sign
        have hdigit := hdigits.1.2 '+' (by rw [List.nil_append] at hr; simp [hr])
        rw [hplus] at hdigit
        cases hdigit
      · exact read?_eq_some_iff.mpr hdigits
    · exact read?_eq_some_iff.mpr hdigits

end Numeral

namespace Text

theorem trimChars_eq_iff {cs core : List Char} (hcore : ∀ c ∈ core, isBlank c = false) :
    trimChars cs = core ↔ ∃ before after, cs = before ++ core ++ after ∧
      (∀ c ∈ before, isBlank c = true) ∧ ∀ c ∈ after, isBlank c = true := by
  constructor
  · rintro rfl
    refine ⟨cs.takeWhile isBlank, ((cs.dropWhile isBlank).reverse.takeWhile isBlank).reverse, ?_,
      fun c hc => List.mem_takeWhile_imp hc,
      fun c hc => List.mem_takeWhile_imp (List.mem_reverse.mp hc)⟩
    have hrest := congrArg List.reverse
      (List.takeWhile_append_dropWhile (p := isBlank) (l := (cs.dropWhile isBlank).reverse))
    rw [List.reverse_append, List.reverse_reverse] at hrest
    rw [trimChars, List.append_assoc, hrest, List.takeWhile_append_dropWhile]
  · rintro ⟨before, after, rfl, hbefore, hafter⟩
    have hafter' : ∀ c ∈ after.reverse, isBlank c = true := fun c hc => hafter c (List.mem_reverse.mp hc)
    rw [trimChars, List.append_assoc, List.dropWhile_append_of_pos hbefore]
    cases core with
    | nil =>
      have hnone : after.dropWhile isBlank = [] := List.dropWhile_eq_nil_iff.mpr hafter
      rw [List.nil_append, hnone]
      rfl
    | cons c r =>
      have hfirst : isBlank c = false := hcore c (List.mem_cons_self ..)
      have hfront : ((c :: r) ++ after).dropWhile isBlank = (c :: r) ++ after := by
        rw [List.cons_append, List.dropWhile_cons_of_neg (by simp [hfirst])]
      have hback : (c :: r).reverse.dropWhile isBlank = (c :: r).reverse := by
        rw [List.dropWhile_eq_self_iff]
        intro hlength hblank
        have hlast := hcore _ (List.mem_reverse.mp (List.getElem_mem hlength))
        rw [hblank] at hlast
        cases hlast
      rw [hfront, List.reverse_append, List.dropWhile_append_of_pos hafter', hback,
        List.reverse_reverse]

end Text
end TaskGrid
