/-!
Binary floating-point numbers of 64 bits as exact values, with arithmetic that rounds the exact
result to the nearest of them, a tie going to the even significand.
-/

namespace TaskGrid

/-- The finite number `± significand * 2 ^ exponent`. Numbers made by rounding have a significand
below `2 ^ 53` and the least exponent that allows, but not below -1074. -/
structure Binary64 where
  negative : Bool
  significand : Nat
  exponent : Int
  deriving DecidableEq, Repr

namespace Binary64

/-- The quotient rounded to a natural number, a half going to the even one. -/
def divToEven (n d : Nat) : Nat :=
  let q := n / d
  let r := n % d
  if d < 2 * r ∨ (2 * r = d ∧ q % 2 = 1) then q + 1 else q

def scaled (n d : Nat) (shift : Int) : Nat × Nat :=
  (n * Nat.pow 2 shift.toNat, d * Nat.pow 2 (-shift).toNat)

/-- The exponent at which the quotient `n / d` has 53 bits, or the least one. -/
def quotientExponent (n d : Nat) : Int :=
  let guess : Int := (n.log2 : Int) - (d.log2 : Int) - 52
  let (a, b) := scaled n d (-guess)
  max (if a < b * Nat.pow 2 52 then guess - 1 else guess) (-1074)

/-- The nearest number to `± n / d`; none if it lies beyond the largest one. -/
def ofQuotient? (negative : Bool) (n d : Nat) : Option Binary64 :=
  if n = 0 then some ⟨negative, 0, -1074⟩
  else
    let e := quotientExponent n d
    let (a, b) := scaled n d (-e)
    let m := divToEven a b
    let (m, e) := if m = Nat.pow 2 53 then (Nat.pow 2 52, e + 1) else (m, e)
    if 971 < e then none else some ⟨negative, m, e⟩

def quotient (x : Binary64) : Nat × Nat := scaled x.significand 1 x.exponent

def ofNat? (n : Nat) : Option Binary64 := ofQuotient? false n 1

def mul? (x y : Binary64) : Option Binary64 :=
  let (a, b) := x.quotient
  let (c, d) := y.quotient
  ofQuotient? (x.negative != y.negative) (a * c) (b * d)

def div? (x y : Binary64) : Option Binary64 :=
  let (a, b) := x.quotient
  let (c, d) := y.quotient
  ofQuotient? (x.negative != y.negative) (a * d) (b * c)

def addMagnitudes? (x y : Binary64) : Option Binary64 :=
  let (a, b) := x.quotient
  let (c, d) := y.quotient
  ofQuotient? false (a * d + c * b) (b * d)

def isZero (x : Binary64) : Bool := x.significand == 0

def withSign (x : Binary64) (negative : Bool) : Binary64 := { x with negative }

end Binary64
end TaskGrid
