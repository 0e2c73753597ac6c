import TaskGrid.Text.Utf8

/-!
Variable-length numbers: seven bits a byte, the lowest first, and a mark on every byte but the last. Ten
bytes hold 64 bits. Main statement: `length_of_read`, on which the readers of messages recurse.
-/

namespace TaskGrid.Wire.Varint

def write (n : Nat) : Octets :=
  if n < 128 then [UInt8.ofNat n] else UInt8.ofNat (n % 128 + 128) :: write (n / 128)
termination_by n

/-- The number at the front of an input, from at most `left` bytes. The tenth byte of a number adds one
bit only. -/
def readWithin : (left : Nat) → Octets → Option (Nat × Octets)
  | 0, _ => none
  | _, [] => none
  | left + 1, b :: r =>
    if b.toNat < 128 then if left = 0 ∧ 2 ≤ b.toNat then none else some (b.toNat, r)
    else (readWithin left r).map fun (n, rest) => (b.toNat - 128 + 128 * n, rest)

def read (bytes : Octets) : Option (Nat × Octets) := readWithin 10 bytes

theorem length_of_readWithin {left n : Nat} {bytes rest : Octets}
    (h : readWithin left bytes = some (n, rest)) : rest.length < bytes.length := by
  fun_induction readWithin left bytes generalizing n rest with
  | case1 => simp at h
  | case2 => simp at h
  | case3 => simp at h
  | case4 left b r hb h2 => simp at h; simp [h.2]
  | case5 left b r hb ih =>
    obtain ⟨⟨m, t⟩, hm, e⟩ := Option.map_eq_some_iff.mp h
    simp only [Prod.mk.injEq] at e
    obtain ⟨-, rfl⟩ := e
    have := ih hm
    simp only [List.length_cons]
    omega

theorem length_of_read {n : Nat} {bytes rest : Octets} (h : read bytes = some (n, rest)) :
    rest.length < bytes.length := length_of_readWithin h

end TaskGrid.Wire.Varint
