import Mathlib.Data.List.Induction
import Mathlib.Data.Nat.Digits.Defs
import TaskGrid.Text.Hex

/-! Which bytes are read as a numeral in hexadecimal digits, and as which number. Main statements:
`read?_eq_some_iff` and `map_lower`. -/
namespace TaskGrid.Hex

/-- The decimal digits and the first six letters, of either case. -/
def IsDigit (b : UInt8) : Prop :=
  (0x30 ≤ b.toNat ∧ b.toNat ≤ 0x39) ∨ (0x41 ≤ b.toNat ∧ b.toNat ≤ 0x46) ∨
    (0x61 ≤ b.toNat ∧ b.toNat ≤ 0x66)

instance (b : UInt8) : Decidable (IsDigit b) := by
  unfold IsDigit
  infer_instance

def lower (b : UInt8) : UInt8 := if 0x41 ≤ b.toNat ∧ b.toNat ≤ 0x5A then b + 0x20 else b

/-- The place of a digit among the sixteen digits in their order. -/
def weight (b : UInt8) : Nat := ((List.range 16).map digit).idxOf (lower b)

def number (digits : Octets) : Nat := Nat.ofDigits 16 (digits.reverse.map weight)

theorem forall_byte {P : UInt8 → Prop} (h : ∀ n < 256, P (UInt8.ofNat n)) (b : UInt8) : P b := by
  have hb := h b.toNat b.toNat_lt
  rwa [UInt8.ofNat_toNat] at hb

theorem value?_eq : ∀ b, value? b = if IsDigit b then some (weight b) else none :=
  forall_byte (by decide +kernel)

theorem digit_weight : ∀ b, IsDigit b → weight b < 16 ∧ digit (weight b) = lower b :=
  forall_byte (by decide +kernel)

theorem number_append (digits : Octets) (b : UInt8) :
    number (digits ++ [b]) = weight b + 16 * number digits := by
  rw [number, List.reverse_append, List.reverse_singleton, List.singleton_append, List.map_cons,
    Nat.ofDigits_cons]
  rfl

theorem number_lt {digits : Octets} (h : ∀ b ∈ digits, IsDigit b) :
    number digits < Nat.pow 16 digits.length := by
  have hweights : ∀ x ∈ digits.reverse.map weight, x < 16 := by
    intro x hx
    obtain ⟨b, hb, rfl⟩ := List.mem_map.mp hx
    exact (digit_weight b (h b (List.mem_reverse.mp hb))).1
  have hlt := Nat.ofDigits_lt_base_pow_length (by decide) hweights
  rwa [List.length_map, List.length_reverse] at hlt

theorem read?_append (digits : Octets) (b : UInt8) : read? (digits ++ [b]) =
    (read? digits).bind fun n => (value? b).map fun d => 16 * n + d := by
  simp only [read?, readFrom_append, readFrom, Option.map_eq_bind]
  rfl

/-- Digits are read, and nothing else is. -/
theorem read?_eq_some_iff {digits : Octets} {n : Nat} :
    read? digits = some n ↔ (∀ b ∈ digits, IsDigit b) ∧ number digits = n := by
  induction digits using List.reverseRecOn generalizing n with
  | nil => simp [read?, readFrom, number]
  | append_singleton digits b ih =>
    rw [read?_append, Option.bind_eq_some_iff]
    simp only [ih, value?_eq, Option.map_eq_some_iff, List.forall_mem_append,
      List.forall_mem_singleton, number_append]
    constructor
    · rintro ⟨m, ⟨hdigits, rfl⟩, d, hd, rfl⟩
      obtain ⟨hb, hd⟩ := Option.ite_none_right_eq_some.mp hd
      cases hd
      exact ⟨⟨hdigits, hb⟩, Nat.add_comm _ _⟩
    · rintro ⟨⟨hdigits, hb⟩, rfl⟩
      exact ⟨_, ⟨hdigits, rfl⟩, weight b, if_pos hb, Nat.add_comm _ _⟩

/-- Digits in lower case are how their number is written. -/
theorem map_lower {digits : Octets} (h : ∀ b ∈ digits, IsDigit b) :
    digits.map lower = write digits.length (number digits) := by
  induction digits using List.reverseRecOn with
  | nil => rfl
  | append_singleton digits b ih =>
    obtain ⟨hdigits, hb⟩ := List.forall_mem_append.mp h
    obtain ⟨hlt, hdigit⟩ := digit_weight b (hb b (List.mem_singleton_self b))
    have hquotient : (weight b + 16 * number digits) / 16 = number digits := by omega
    have hremainder : (weight b + 16 * number digits) % 16 = weight b := by omega
    rw [List.map_append, ih hdigits, List.length_append, number_append, List.length_singleton, write,
      hquotient, hremainder, hdigit]
    rfl

end TaskGrid.Hex
