import TaskGrid.Text.Utf8

/-! Reading and writing of texts are inverse to each other, and what is written is the UTF-8 of the standard
library. Main statements: `decode_eq_ok_iff`, `isValidUTF8_iff`. -/
namespace TaskGrid.Utf8

theorem encodeChar_eq (c : Char) : encodeChar c = String.utf8EncodeChar c := by
  have hv := toNat_valid c
  have hval : c.val.toNat = c.toNat := rfl
  unfold encodeChar String.utf8EncodeChar
  simp only [hval]
  split
  · next h => rw [if_pos (by omega)]
  split
  · next h =>
    have hlead : c.toNat / 64 % 32 = c.toNat / 64 := by omega
    rw [if_neg (by omega), if_pos (by omega), hlead]
    simp only [Nat.add_comm]
  split
  · next h =>
    have hlead : c.toNat / 4096 % 16 = c.toNat / 4096 := by omega
    rw [if_neg (by omega), if_neg (by omega), if_pos (by omega), hlead]
    simp only [Nat.add_comm]
  · next h =>
    have hlead : c.toNat / 262144 % 8 = c.toNat / 262144 := by omega
    rw [if_neg (by omega), if_neg (by omega), if_neg (by omega), hlead]
    simp only [Nat.add_comm]

@[simp] theorem toByteArray_encode (s : String) : (encode s).toByteArray = s.toByteArray := by
  have h : encodeChar = String.utf8EncodeChar := funext encodeChar_eq
  rw [encode, h]
  exact String.utf8Encode_toList

@[simp] theorem length_encode (s : String) : (encode s).length = s.utf8ByteSize := by
  rw [← List.size_toByteArray, toByteArray_encode, String.size_toByteArray]

theorem isValidUTF8_iff {bytes : Octets} :
    bytes.toByteArray.IsValidUTF8 ↔ ∃ s, encode s = bytes := by
  constructor
  · intro h
    refine ⟨String.ofByteArray _ h, ?_⟩
    rw [← List.toByteArray_inj, toByteArray_encode]
  · rintro ⟨s, rfl⟩
    rw [toByteArray_encode]
    exact s.isValidUTF8

@[simp] theorem decodeLossy_encode (s : String) : decodeLossy (encode s) = s := by
  rw [decodeLossy, encode, pieces_encode, List.map_map]
  exact (congrArg String.ofList (List.map_id _)).trans String.ofList_toList

theorem toNat_ofNat {n : Nat} (h : n.isValidChar) : (Char.ofNat n).toNat = n := by
  rw [Char.ofNat, dif_pos h]
  rfl

theorem ofNat_eq_of_eq_toNat {b : UInt8} {n : Nat} (h : n = b.toNat) : UInt8.ofNat n = b := by
  rw [h, UInt8.ofNat_toNat]

/-- Whichever `later + 1` bytes come next, the first of them within the bounds, they and the bytes `l` before
them are how a character is written. -/
def Awaits : (later low high value : Nat) → (l : Octets) → Prop
  | 0, low, high, value, l => ∀ b : UInt8, low ≤ b.toNat → b.toNat ≤ high →
    encodeChar (Char.ofNat (value * 64 + b.toNat % 64)) = l ++ [b]
  | later + 1, low, high, value, l => ∀ b : UInt8, low ≤ b.toNat → b.toNat ≤ high →
    Awaits later 0x80 0xBF (value * 64 + b.toNat % 64) (l ++ [b])

/-- The machine stands where it does because of the bytes `l` of a character. -/
def Follows (l : Octets) : State → Prop
  | .start => l = []
  | .inside _ later low high value => Awaits later low high value l

section
variable {b : UInt8}

theorem awaits_two (h : 0xC2 ≤ b.toNat ∧ b.toNat < 0xE0) :
    Awaits 0 0x80 0xBF (b.toNat - 0xC0) [b] := by
  intro c hl hh
  unfold encodeChar
  rw [toNat_ofNat (by left; omega)]
  simp only
  rw [if_neg (by omega), if_pos (by omega), ofNat_eq_of_eq_toNat (b := b) (by omega),
    ofNat_eq_of_eq_toNat (b := c) (by omega)]
  rfl

theorem awaits_three (low high : Nat) (h : 0xE0 ≤ b.toNat ∧ b.toNat < 0xF0) (hlow : 0x80 ≤ low)
    (hhigh : high ≤ 0xBF) (hfirst : b.toNat = 0xE0 → 0xA0 ≤ low)
    (hsurrogate : b.toNat = 0xED → high ≤ 0x9F) :
    Awaits 1 low high (b.toNat - 0xE0) [b] := by
  intro c hl hh d hl' hh'
  have hvalid : ((b.toNat - 0xE0) * 64 + c.toNat % 64) * 64 + d.toNat % 64 < 0xD800 ∨
      0xDFFF < ((b.toNat - 0xE0) * 64 + c.toNat % 64) * 64 + d.toNat % 64 ∧
      ((b.toNat - 0xE0) * 64 + c.toNat % 64) * 64 + d.toNat % 64 < 0x110000 := by omega
  unfold encodeChar
  rw [toNat_ofNat hvalid]
  simp only
  rw [if_neg (by omega), if_neg (by omega), if_pos (by omega),
    ofNat_eq_of_eq_toNat (b := b) (by omega), ofNat_eq_of_eq_toNat (b := c) (by omega),
    ofNat_eq_of_eq_toNat (b := d) (by omega)]
  rfl

theorem awaits_four (low high : Nat) (h : 0xF0 ≤ b.toNat ∧ b.toNat ≤ 0xF4) (hlow : 0x80 ≤ low)
    (hhigh : high ≤ 0xBF) (hfirst : b.toNat = 0xF0 → 0x90 ≤ low)
    (hlast : b.toNat = 0xF4 → high ≤ 0x8F) :
    Awaits 2 low high (b.toNat - 0xF0) [b] := by
  intro c hl hh d hl' hh' e hl'' hh''
  unfold encodeChar
  rw [toNat_ofNat (by right; omega)]
  simp only
  rw [if_neg (by omega), if_neg (by omega), if_neg (by omega),
    ofNat_eq_of_eq_toNat (b := b) (by omega), ofNat_eq_of_eq_toNat (b := c) (by omega),
    ofNat_eq_of_eq_toNat (b := d) (by omega), ofNat_eq_of_eq_toNat (b := e) (by omega)]
  rfl

end

/-- What a byte can make of the bytes `l` of a character before it. -/
inductive Stepped (l : Octets) (b : UInt8) : List Piece × State → Prop where
  | char {c : Char} (h : encodeChar c = l ++ [b]) : Stepped l b ([.char c], .start)
  | inside {q : State} (h : Follows (l ++ [b]) q) : Stepped l b ([], q)
  | invalid (n : Nat) (r : List Piece) (q : State) : Stepped l b (.invalid n :: r, q)

theorem stepped_first (b : UInt8) : Stepped [] b (first b.toNat) := by
  unfold first
  split
  · next h =>
    refine .char ?_
    unfold encodeChar
    rw [toNat_ofNat (by left; omega)]
    simp only [if_pos h, UInt8.ofNat_toNat, List.nil_append]
  split
  · exact .invalid 1 [] .start
  split
  · exact .inside (awaits_two (by omega))
  split
  · next h =>
    have hawaits := awaits_three (b := b) 0xA0 0xBF (by omega) (by omega) (by omega) (by omega) (by omega)
    rw [h] at hawaits
    exact .inside hawaits
  split
  · next h =>
    have hawaits := awaits_three (b := b) 0x80 0x9F (by omega) (by omega) (by omega) (by omega) (by omega)
    rw [h] at hawaits
    exact .inside hawaits
  split
  · exact .inside (awaits_three 0x80 0xBF (by omega) (by omega) (by omega) (by omega) (by omega))
  split
  · next h =>
    have hawaits := awaits_four (b := b) 0x90 0xBF (by omega) (by omega) (by omega) (by omega) (by omega)
    rw [h] at hawaits
    exact .inside hawaits
  split
  · exact .inside (awaits_four 0x80 0xBF (by omega) (by omega) (by omega) (by omega) (by omega))
  split
  · next h =>
    have hawaits := awaits_four (b := b) 0x80 0x8F (by omega) (by omega) (by omega) (by omega) (by omega)
    rw [h] at hawaits
    exact .inside hawaits
  · exact .invalid 1 [] .start

theorem stepped_step {l : Octets} {q : State} (hq : Follows l q) (b : UInt8) :
    Stepped l b (step q b.toNat) := by
  cases q with
  | start =>
    cases hq
    exact stepped_first b
  | inside seen later low high value =>
    simp only [step]
    split
    · next h =>
      cases later with
      | zero => exact .char (hq b h.1 h.2)
      | succ later => exact .inside (hq b h.1 h.2)
    · exact .invalid seen _ _

/-- If all pieces of an input are characters, the input is how they are written. -/
theorem append_eq_of_pieces {l : Octets} {q : State} (hq : Follows l q) {bytes : Octets}
    {cs : List Char} (h : pieces q bytes = cs.map .char) : l ++ bytes = cs.flatMap encodeChar := by
  induction bytes generalizing l q cs with
  | nil =>
    cases q with
    | start =>
      cases hq
      cases cs with
      | nil => rfl
      | cons c r => cases h
    | inside seen later low high value => cases cs <;> cases h
  | cons b r ih =>
    rw [pieces] at h
    have hstep := stepped_step hq b
    generalize step q b.toNat = s at hstep h
    cases hstep with
    | char hc =>
      cases cs with
      | nil => cases h
      | cons c cs =>
        simp only [List.singleton_append, List.map_cons, List.cons.injEq, Piece.char.injEq] at h
        obtain ⟨rfl, hrest⟩ := h
        have htail : [] ++ r = cs.flatMap encodeChar := ih (q := .start) rfl hrest
        rw [List.flatMap_cons, ← htail, hc, List.append_assoc]
        rfl
    | inside hq' =>
      rw [List.nil_append] at h
      rw [← ih hq' h, List.append_assoc, List.singleton_append]
    | invalid n r q => cases cs <;> cases h

theorem chars_eq_ok {index : Nat} {ps : List Piece} {cs : List Char} (h : chars index ps = .ok cs) :
    ps = cs.map .char := by
  induction ps generalizing index cs with
  | nil =>
    cases h
    rfl
  | cons p r ih =>
    cases p with
    | char c =>
      rw [chars] at h
      cases hr : chars (index + c.utf8Size) r with
      | error e =>
        rw [hr] at h
        cases h
      | ok cs' =>
        rw [hr] at h
        cases h
        rw [ih hr, List.map_cons]
    | invalid n => cases h
    | unfinished n => cases h

theorem decode_eq_ok_iff {bytes : Octets} {s : String} : decode bytes = .ok s ↔ encode s = bytes := by
  constructor
  · intro h
    unfold decode at h
    cases hc : chars 0 (pieces .start bytes) with
    | error e =>
      rw [hc] at h
      cases h
    | ok cs =>
      rw [hc] at h
      cases h
      have hbytes := append_eq_of_pieces (l := []) (q := .start) rfl (chars_eq_ok hc)
      rw [encode, String.toList_ofList, ← hbytes, List.nil_append]
  · rintro rfl
    exact decode_encode s

end TaskGrid.Utf8
