import Mathlib.Algebra.Group.Nat.Defs
import TaskGrid.Wire.Varint

/-! The ways to spell a number: the shortest one is written, and those padded with zeros are read as well. -/
namespace TaskGrid.Wire.Varint

/-- Seven bits a byte, the lowest first; every byte but the last is marked. -/
inductive Digits : Octets → Nat → Prop
  | last {b : UInt8} (h : b.toNat < 128) : Digits [b] b.toNat
  | more {b : UInt8} {r : Octets} {n : Nat} (h : 128 ≤ b.toNat) (hr : Digits r n) :
      Digits (b :: r) (b.toNat - 128 + 128 * n)

/-- At most ten bytes that spell a number of 64 bits. -/
structure Spells (bytes : Octets) (n : Nat) : Prop where
  digits : Digits bytes n
  width : bytes.length ≤ 10
  fits : n < UInt64.size

theorem Digits.length_pos {bytes : Octets} {n : Nat} (h : Digits bytes n) : 0 < bytes.length := by
  cases h <;> simp

theorem Digits.readWithin {bytes : Octets} {n : Nat} (h : Digits bytes n) {left : Nat}
    (hwidth : bytes.length ≤ left + 1) (hfits : n < 2 ^ (7 * left + 1)) (rest : Octets) :
    readWithin (left + 1) (bytes ++ rest) = some (n, rest) := by
  induction h generalizing left with
  | @last b hb =>
    -- The tenth byte has room for one bit only.
    have hlast : ¬ (left = 0 ∧ 2 ≤ b.toNat) := by
      rintro ⟨rfl, hb2⟩
      omega
    rw [List.singleton_append, Varint.readWithin, if_pos hb, if_neg hlast]
  | @more b r n hb hr ih =>
    have hpos := hr.length_pos
    rw [List.length_cons] at hwidth
    obtain ⟨left, rfl⟩ : ∃ k, left = k + 1 := ⟨left - 1, by omega⟩
    have hpow : 2 ^ (7 * (left + 1) + 1) = 128 * 2 ^ (7 * left + 1) := by
      rw [show 7 * (left + 1) + 1 = 7 * left + 1 + 7 by omega, Nat.pow_add, Nat.mul_comm]
    rw [hpow] at hfits
    rw [List.cons_append, Varint.readWithin, if_neg (by omega), ih (by omega) (by omega)]
    rfl

theorem Spells.read {bytes : Octets} {n : Nat} (h : Spells bytes n) (rest : Octets) :
    read (bytes ++ rest) = some (n, rest) := h.digits.readWithin h.width h.fits rest

theorem digits_write (n : Nat) : Digits (write n) n := by
  fun_induction write n with
  | case1 n h =>
    have hb : (UInt8.ofNat n).toNat = n := by simp; omega
    simpa only [hb] using Digits.last (b := UInt8.ofNat n) (by omega)
  | case2 n h ih =>
    have hb : (UInt8.ofNat (n % 128 + 128)).toNat = n % 128 + 128 := by simp; omega
    have hn : n % 128 + 128 - 128 + 128 * (n / 128) = n := by omega
    simpa only [hb, hn] using Digits.more (b := UInt8.ofNat (n % 128 + 128)) (by omega) ih

theorem length_write_le {n k : Nat} (h : n < 128 ^ (k + 1)) : (write n).length ≤ k + 1 := by
  induction k generalizing n with
  | zero =>
    rw [write, if_pos (by omega)]
    simp
  | succ k ih =>
    unfold write
    split
    · simp
    · rw [Nat.pow_succ] at h
      have := ih (n := n / 128) (by omega)
      simp only [List.length_cons]
      omega

theorem spells_write {n : Nat} (h : n < UInt64.size) : Spells (write n) n where
  digits := digits_write n
  width := length_write_le (k := 9) (Nat.lt_trans h (by decide))
  fits := h

end TaskGrid.Wire.Varint
