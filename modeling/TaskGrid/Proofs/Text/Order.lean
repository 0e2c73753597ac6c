import Mathlib.Data.String.Basic
import TaskGrid.Text.Utf8

/-! Texts are ordered as their bytes in UTF-8 are: the first bytes that differ belong to the first characters
that differ, and the smaller byte to the smaller character. -/
namespace TaskGrid.Utf8

/-- The smaller of two characters is written with smaller bytes, whatever follows them. -/
theorem encodeChar_append_lt {c d : Char} (h : c < d) (x y : Octets) :
    encodeChar c ++ x < encodeChar d ++ y := by
  have hlt : c.toNat < d.toNat := h
  have hc := toNat_valid c
  have hd := toNat_valid d
  -- the bits of a byte are a digit to the base 64, and the ones before it are the quotient
  have hdigits (n : Nat) : n / 64 / 64 = n / 4096 ∧ n / 4096 / 64 = n / 262144 :=
    ⟨Nat.div_div_eq_div_mul .., Nat.div_div_eq_div_mul ..⟩
  obtain ⟨hc1, hc2⟩ := hdigits c.toNat
  obtain ⟨hd1, hd2⟩ := hdigits d.toNat
  have hbyte {n : Nat} (hn : n < 256) : (UInt8.ofNat n).toNat = n := UInt8.toNat_ofNat_of_lt' hn
  unfold encodeChar
  simp only
  split_ifs <;>
    simp (disch := omega) only [List.cons_append, List.nil_append, List.cons_lt_cons_iff,
      UInt8.lt_iff_toNat_lt, ← UInt8.toNat_inj, hbyte] <;>
    omega

theorem encodeChar_ne_nil (c : Char) : encodeChar c ≠ [] := by
  unfold encodeChar
  simp only
  split_ifs <;> exact List.cons_ne_nil _ _

theorem flatMap_encodeChar_lt {cs ds : List Char} (h : cs < ds) :
    cs.flatMap encodeChar < ds.flatMap encodeChar := by
  induction h with
  | @nil d r =>
    obtain ⟨b, l, hd⟩ := List.exists_cons_of_ne_nil (encodeChar_ne_nil d)
    rw [List.flatMap_cons, hd]
    exact .nil
  | cons _ ih => exact List.append_left_lt ih
  | rel h => exact encodeChar_append_lt h _ _

theorem encode_lt_encode {a b : String} (h : a < b) : encode a < encode b :=
  flatMap_encodeChar_lt (String.lt_iff_toList_lt.mp h)

end TaskGrid.Utf8
