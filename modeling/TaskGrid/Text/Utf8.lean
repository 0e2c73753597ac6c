/-!
UTF-8, read by a machine that takes one byte at a time and cuts the input into pieces: characters,
and the longest parts that begin no character. Main statement: `decode_encode`, by way of
`pieces_encodeChar`.
-/

namespace TaskGrid

/-- Raw data: method arguments, result contents, wire messages. -/
abbrev Octets := List UInt8

namespace Utf8

/-- Where the machine stands between two bytes. Inside a character `seen` bytes of it are read and give the bits
`value`; the next byte lies in `low`–`high`, and `later` more follow it. -/
inductive State where
  | start
  | inside (seen later low high value : Nat)
  deriving DecidableEq, Repr

/-- A part of the input. Bytes that begin no character are invalid, as many as can belong together. -/
inductive Piece where
  | char (c : Char)
  | invalid (length : Nat)
  | unfinished (length : Nat)
  deriving DecidableEq, Repr

def first (b : Nat) : List Piece × State :=
  if b < 0x80 then ([.char (Char.ofNat b)], .start)
  else if b < 0xC2 then ([.invalid 1], .start)
  else if b < 0xE0 then ([], .inside 1 0 0x80 0xBF (b - 0xC0))
  else if b = 0xE0 then ([], .inside 1 1 0xA0 0xBF 0)
  else if b = 0xED then ([], .inside 1 1 0x80 0x9F 13)
  else if b < 0xF0 then ([], .inside 1 1 0x80 0xBF (b - 0xE0))
  else if b = 0xF0 then ([], .inside 1 2 0x90 0xBF 0)
  else if b < 0xF4 then ([], .inside 1 2 0x80 0xBF (b - 0xF0))
  else if b = 0xF4 then ([], .inside 1 2 0x80 0x8F 4)
  else ([.invalid 1], .start)

/-- One byte: the pieces it ends, and where the machine stands after it. A byte that cannot go on
with a character ends the part before it and is read afresh. -/
def step : State → Nat → List Piece × State
  | .start, b => first b
  | .inside seen later low high value, b =>
    if low ≤ b ∧ b ≤ high then
      match later with
      | 0 => ([.char (Char.ofNat (value * 64 + b % 64))], .start)
      | later + 1 => ([], .inside (seen + 1) later 0x80 0xBF (value * 64 + b % 64))
    else (.invalid seen :: (first b).1, (first b).2)

def pieces : State → Octets → List Piece
  | .start, [] => []
  | .inside seen _ _ _ _, [] => [.unfinished seen]
  | q, b :: r => (step q b.toNat).1 ++ pieces (step q b.toNat).2 r

/-- Where and how an input fails to be UTF-8: `length` is absent if it ends inside a character. -/
structure Flaw where
  index : Nat
  length : Option Nat
  deriving DecidableEq, Repr

def Flaw.message (f : Flaw) : String :=
  match f.length with
  | some n => s!"invalid utf-8 sequence of {n} bytes from index {f.index}"
  | none => s!"incomplete utf-8 byte sequence from index {f.index}"

/-- The characters of pieces that start at byte `index`, up to the first flaw. -/
def chars (index : Nat) : List Piece → Except Flaw (List Char)
  | [] => .ok []
  | .char c :: r => (chars (index + c.utf8Size) r).map (c :: ·)
  | .invalid n :: _ => .error ⟨index, some n⟩
  | .unfinished _ :: _ => .error ⟨index, none⟩

def decode (bytes : Octets) : Except Flaw String :=
  (chars 0 (pieces .start bytes)).map String.ofList

/-- Reads a text, writing U+FFFD for every part that is no character. -/
def decodeLossy (bytes : Octets) : String :=
  String.ofList ((pieces .start bytes).map fun
    | .char c => c
    | .invalid _ | .unfinished _ => Char.ofNat 0xFFFD)

def encodeChar (c : Char) : Octets :=
  let n := c.toNat
  if n < 0x80 then [UInt8.ofNat n]
  else if n < 0x800 then [UInt8.ofNat (0xC0 + n / 64), UInt8.ofNat (0x80 + n % 64)]
  else if n < 0x10000 then
    [UInt8.ofNat (0xE0 + n / 4096), UInt8.ofNat (0x80 + n / 64 % 64), UInt8.ofNat (0x80 + n % 64)]
  else [UInt8.ofNat (0xF0 + n / 262144), UInt8.ofNat (0x80 + n / 4096 % 64),
    UInt8.ofNat (0x80 + n / 64 % 64), UInt8.ofNat (0x80 + n % 64)]

def encode (s : String) : Octets := s.toList.flatMap encodeChar

theorem toNat_valid (c : Char) : c.toNat < 0xD800 ∨ (0xDFFF < c.toNat ∧ c.toNat < 0x110000) := by
  have h : c.val.toNat.isValidChar := c.valid
  exact h

theorem ofNat_eq_of_toNat {c : Char} {n : Nat} (h : n = c.toNat) : Char.ofNat n = c := by
  rw [h, Char.ofNat_toNat]

/-- The bytes of a character are read as that character, whatever follows. -/
theorem pieces_encodeChar (c : Char) (rest : Octets) :
    pieces .start (encodeChar c ++ rest) = .char c :: pieces .start rest := by
  have hv := toNat_valid c
  unfold encodeChar
  simp only
  split
  · next h =>
    have e : (UInt8.ofNat c.toNat).toNat = c.toNat := by simp; omega
    simp [pieces, step, first, e, h, Char.ofNat_toNat]
  split
  · next h1 h2 =>
    have e1 : (UInt8.ofNat (0xC0 + c.toNat / 64)).toNat = 0xC0 + c.toNat / 64 := by simp; omega
    have e2 : (UInt8.ofNat (0x80 + c.toNat % 64)).toNat = 0x80 + c.toNat % 64 := by simp; omega
    have f : first (0xC0 + c.toNat / 64) = ([], .inside 1 0 0x80 0xBF (c.toNat / 64)) := by
      unfold first
      rw [if_neg (by omega), if_neg (by omega), if_pos (by omega)]
      simp
    simp only [List.cons_append, List.nil_append, pieces, step, e1, e2, f]
    rw [if_pos (by omega)]
    simp only [List.cons_append, List.nil_append]
    rw [ofNat_eq_of_toNat (c := c) (by omega)]
  split
  · next h1 h2 h3 =>
    have e1 : (UInt8.ofNat (0xE0 + c.toNat / 4096)).toNat = 0xE0 + c.toNat / 4096 := by simp; omega
    have e2 : (UInt8.ofNat (0x80 + c.toNat / 64 % 64)).toNat = 0x80 + c.toNat / 64 % 64 := by
      simp; omega
    have e3 : (UInt8.ofNat (0x80 + c.toNat % 64)).toNat = 0x80 + c.toNat % 64 := by simp; omega
    obtain ⟨lo, hi, f, hlo⟩ : ∃ lo hi, first (0xE0 + c.toNat / 4096) =
        ([], .inside 1 1 lo hi (c.toNat / 4096)) ∧
        lo ≤ 0x80 + c.toNat / 64 % 64 ∧ 0x80 + c.toNat / 64 % 64 ≤ hi := by
      unfold first
      rw [if_neg (by omega), if_neg (by omega), if_neg (by omega)]
      split
      · exact ⟨0xA0, 0xBF, by simp; omega, by omega⟩
      split
      · exact ⟨0x80, 0x9F, by simp; omega, by omega⟩
      · exact ⟨0x80, 0xBF, by rw [if_pos (by omega)]; simp, by omega⟩
    simp only [List.cons_append, List.nil_append, pieces, step, e1, e2, e3, f]
    rw [if_pos hlo]
    simp only [List.nil_append]
    rw [if_pos (by omega)]
    simp only [List.cons_append, List.nil_append]
    rw [ofNat_eq_of_toNat (c := c) (by omega)]
  · next h1 h2 h3 =>
    have e1 : (UInt8.ofNat (0xF0 + c.toNat / 262144)).toNat = 0xF0 + c.toNat / 262144 := by
      simp; omega
    have e2 : (UInt8.ofNat (0x80 + c.toNat / 4096 % 64)).toNat = 0x80 + c.toNat / 4096 % 64 := by
      simp; omega
    have e3 : (UInt8.ofNat (0x80 + c.toNat / 64 % 64)).toNat = 0x80 + c.toNat / 64 % 64 := by
      simp; omega
    have e4 : (UInt8.ofNat (0x80 + c.toNat % 64)).toNat = 0x80 + c.toNat % 64 := by simp; omega
    obtain ⟨lo, hi, f, hlo⟩ : ∃ lo hi, first (0xF0 + c.toNat / 262144) =
        ([], .inside 1 2 lo hi (c.toNat / 262144)) ∧
        lo ≤ 0x80 + c.toNat / 4096 % 64 ∧ 0x80 + c.toNat / 4096 % 64 ≤ hi := by
      unfold first
      rw [if_neg (by omega), if_neg (by omega), if_neg (by omega), if_neg (by omega),
        if_neg (by omega), if_neg (by omega)]
      split
      · exact ⟨0x90, 0xBF, by simp; omega, by omega⟩
      split
      · exact ⟨0x80, 0xBF, by simp, by omega⟩
      · exact ⟨0x80, 0x8F, by rw [if_pos (by omega)]; simp; omega, by omega⟩
    simp only [List.cons_append, List.nil_append, pieces, step, e1, e2, e3, e4, f]
    rw [if_pos hlo]
    simp only [List.nil_append]
    rw [if_pos (by omega)]
    simp only [List.nil_append]
    rw [if_pos (by omega)]
    simp only [List.cons_append, List.nil_append]
    rw [ofNat_eq_of_toNat (c := c) (by omega)]

theorem pieces_encode (cs : List Char) :
    pieces .start (cs.flatMap encodeChar) = cs.map .char := by
  induction cs with
  | nil => rfl
  | cons c r ih => rw [List.flatMap_cons, pieces_encodeChar, ih, List.map_cons]

theorem chars_map_char (index : Nat) (cs : List Char) : chars index (cs.map .char) = .ok cs := by
  induction cs generalizing index with
  | nil => rfl
  | cons c r ih => simp [chars, ih, Except.map]

@[simp] theorem decode_encode (s : String) : decode (encode s) = .ok s := by
  simp [decode, encode, pieces_encode, chars_map_char, Except.map]

end Utf8
end TaskGrid
