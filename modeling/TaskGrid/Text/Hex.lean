import TaskGrid.Text.Utf8

/-!
Naturals in hexadecimal digits of a fixed number, written in lower case and read in either case.
Main statement: `read?_write`. Powers are `Nat.pow` here and in other definitions, so that a statement
means the same whether or not an algebra library's power is in scope.
-/

namespace TaskGrid.Hex

def digit (n : Nat) : UInt8 := UInt8.ofNat (if n < 10 then 0x30 + n else 0x57 + n)

def value? (b : UInt8) : Option Nat :=
  let n := b.toNat
  if 0x30 ≤ n ∧ n < 0x3A then some (n - 0x30)
  else if 0x41 ≤ n ∧ n < 0x47 then some (n - 0x37)
  else if 0x61 ≤ n ∧ n < 0x67 then some (n - 0x57)
  else none

def write : Nat → Nat → Octets
  | 0, _ => []
  | width + 1, n => write width (n / 16) ++ [digit (n % 16)]

/-- The number that digits stand for, after those of `n`. -/
def readFrom (n : Nat) : Octets → Option Nat
  | [] => some n
  | b :: r => (value? b).bind fun d => readFrom (16 * n + d) r

def read? (digits : Octets) : Option Nat := readFrom 0 digits

def textOf (bytes : Octets) : String :=
  String.ofList (bytes.flatMap fun b => (write 2 b.toNat).map fun d => Char.ofNat d.toNat)

/-- The digit of a character; characters that are none count as zero. -/
def digitOf (c : Char) : Nat := (value? (UInt8.ofNat (if c.toNat < 128 then c.toNat else 0))).getD 0

def readPairs : List Char → Octets
  | a :: b :: r => UInt8.ofNat (16 * digitOf a + digitOf b) :: readPairs r
  | _ => []

def octetsOf (s : String) : Octets := readPairs s.toList

@[simp] theorem length_write (width n : Nat) : (write width n).length = width := by
  induction width generalizing n with
  | zero => rfl
  | succ w ih => simp [write, ih]

theorem value?_digit_of_lt : ∀ n < 16, value? (digit n) = some n := by decide

theorem readFrom_append (n : Nat) (a b : Octets) :
    readFrom n (a ++ b) = (readFrom n a).bind fun m => readFrom m b := by
  induction a generalizing n with
  | nil => rfl
  | cons x r ih =>
    simp only [List.cons_append, readFrom]
    cases value? x with
    | none => rfl
    | some d => simp [ih]

theorem readFrom_write (m width n : Nat) (h : n < Nat.pow 16 width) :
    readFrom m (write width n) = some (m * Nat.pow 16 width + n) := by
  induction width generalizing n with
  | zero => simp at h; simp [write, readFrom, h]
  | succ w ih =>
    have hp : Nat.pow 16 (w + 1) = Nat.pow 16 w * 16 := Nat.pow_succ 16 w
    rw [hp] at h ⊢
    rw [write, readFrom_append, ih (n / 16) (by omega)]
    have hd := value?_digit_of_lt (n % 16) (Nat.mod_lt _ (by decide))
    simp only [Option.bind_some, readFrom, hd]
    rw [← Nat.mul_assoc]
    congr 1
    omega

theorem read?_write (width n : Nat) (h : n < Nat.pow 16 width) : read? (write width n) = some n := by
  simp [read?, readFrom_write 0 width n h]

end TaskGrid.Hex
