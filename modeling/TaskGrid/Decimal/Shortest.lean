import TaskGrid.Decimal.Binary64

/-!
The shortest decimal text of a binary number: the fewest digits that still round to it, the nearest
of those, and a layout that says when a power of ten is written.
-/

namespace TaskGrid.Decimal

structure Scientific where
  digits : Nat
  power : Int
  deriving DecidableEq, Repr

def sides (digits : Nat) (power : Int) (n d : Nat) : Nat × Nat :=
  (digits * Nat.pow 10 power.toNat * d, n * Nat.pow 10 (-power).toNat)

/-- The magnitudes that round to a number: from `low` to `high`, both over `denominator`, with the ends
included if the significand is even. -/
structure Interval where
  low : Nat
  high : Nat
  denominator : Nat
  closed : Bool
  deriving Repr

def interval (x : Binary64) : Interval :=
  let m := x.significand
  let narrow := m == Nat.pow 2 52 && x.exponent != -1074
  let (a, b) := Binary64.scaled (4 * m - if narrow then 1 else 2) 4 x.exponent
  let (c, _) := Binary64.scaled (4 * m + 2) 4 x.exponent
  ⟨a, c, b, m % 2 == 0⟩

def Interval.holds (i : Interval) (digits : Nat) (power : Int) : Bool :=
  let (a, low) := sides digits power i.low i.denominator
  let (_, high) := sides digits power i.high i.denominator
  if i.closed then low ≤ a && a ≤ high else low < a && a < high

def magnitude (n d : Nat) : Int :=
  if d ≤ n then ((Nat.toDigits 10 (n / d)).length : Int)
  else 1 - ((Nat.toDigits 10 (d / n)).length : Int)

/-- The multiple of `10 ^ power` in the interval of a number that is nearest to it, a tie going to
the even one; only the two multiples beside the number can be. -/
def onGrid? (x : Binary64) (power : Int) : Option Scientific :=
  let i := interval x
  let (n, d) := x.quotient
  let (unit, value) := sides 1 power n d
  let below := value / unit
  let rest := value % unit
  let upFirst := unit < 2 * rest || (2 * rest == unit && below % 2 == 1)
  let near := if upFirst then below + 1 else below
  let far := if upFirst then below else below + 1
  if i.holds near power then some ⟨near, power⟩
  else if i.holds far power then some ⟨far, power⟩
  else none

/-- The decimal of fewest digits that rounds to a number. Seventeen digits always suffice. -/
def shortest (x : Binary64) : Scientific :=
  if x.isZero then ⟨0, 0⟩
  else
    let (n, d) := x.quotient
    let top := magnitude n d
    ((List.range 18).findSome? fun k : Nat => onGrid? x (top - k)).getD ⟨n, 0⟩

/-- How numbers are written: the exponents of the first digit that need no power of ten, and what stands before the
magnitude of an exponent. -/
structure Layout where
  leastPlain : Int
  greatestPlain : Int
  positiveMark : String
  negativeMark : String
  deriving Repr

/-- Digits with a point after the first `places` of them, padded by zeros on either side, and with
at least one digit on each side of the point. -/
def withPoint (ds : List Char) (places : Int) : String :=
  if places ≤ 0 then
    String.ofList (['0', '.'] ++ List.replicate (-places).toNat '0' ++ ds)
  else if ds.length ≤ places.toNat then
    String.ofList (ds ++ List.replicate (places.toNat - ds.length) '0' ++ ['.', '0'])
  else String.ofList (ds.take places.toNat ++ ['.'] ++ ds.drop places.toNat)

def Layout.render (l : Layout) (s : Scientific) : String :=
  let ds := Nat.toDigits 10 s.digits
  let e : Int := s.power + ds.length - 1
  if s.digits = 0 then "0.0"
  else if l.leastPlain ≤ e && e ≤ l.greatestPlain then withPoint ds (e + 1)
  else
    let body := match ds with
      | [c] => String.ofList [c]
      | ds => String.ofList (ds.take 1 ++ ['.'] ++ ds.drop 1)
    if 0 ≤ e then body ++ l.positiveMark ++ toString e.toNat
    else body ++ l.negativeMark ++ toString (-e).toNat

def Layout.text (l : Layout) (x : Binary64) : String :=
  (if x.negative then "-" else "") ++ l.render (shortest x)

end TaskGrid.Decimal
