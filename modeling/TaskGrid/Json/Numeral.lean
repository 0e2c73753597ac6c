import TaskGrid.Json.Value
import TaskGrid.Text.Numeral

/-!
The value of a JSON number. The digits give a significand of at most 64 bits and a power of ten,
further digits being dropped; a number with a point, an exponent or too many digits is the significand
scaled by that power in binary floating point.
-/

namespace TaskGrid.Json

structure NumeralParts where
  negative : Bool
  whole : List Char
  fraction : Option (List Char)
  exponent : Option (Bool × List Char)
  deriving Repr

/-- A significand of at most 64 bits that stands for itself times a power of ten. -/
structure Significand where
  value : Nat
  power : Int
  deriving Repr

def maxInteger : Nat := UInt64.size - 1

/-- Takes up the digits before the point. From the first one that does not fit they count as zeros;
`exact` tells whether all fitted. -/
def takeWhole (value : Nat) : List Char → Significand × Bool
  | [] => (⟨value, 0⟩, true)
  | c :: r =>
    let next := 10 * value + (c.toNat - 48)
    if next ≤ maxInteger then takeWhole next r else (⟨value, (r.length : Int) + 1⟩, false)

def takeFraction (s : Significand) : List Char → Significand
  | [] => s
  | c :: r =>
    let next := 10 * s.value + (c.toNat - 48)
    if next ≤ maxInteger then takeFraction ⟨next, s.power - 1⟩ r else s

def tenPower? (power : Nat) : Option Binary64 := Binary64.ofNat? (Nat.pow 10 power)

/-- Divides by a power of ten, in steps of at most `10 ^ 308`, each of them rounded. -/
def scaleDown (x : Binary64) (power : Nat) : Option Binary64 :=
  if _h : 308 < power then
    if x.isZero then some x
    else ((tenPower? 308).bind x.div?).bind fun y => scaleDown y (power - 308)
  else (tenPower? power).bind x.div?
termination_by power
decreasing_by omega

def Significand.toReal? (s : Significand) : Option Binary64 :=
  (Binary64.ofNat? s.value).bind fun x =>
    if s.power < 0 then scaleDown x (-s.power).toNat
    else if x.isZero then some x
    else if 308 < s.power then none
    else (tenPower? s.power.toNat).bind x.mul?

/-- The largest exponent a number may spell; a larger one makes it zero or too large. -/
def maxExponent : Nat := Nat.pow 2 31 - 1

def NumeralParts.value? (p : NumeralParts) : Option Number :=
  let (whole, exact) := takeWhole 0 p.whole
  let s := takeFraction whole (p.fraction.getD [])
  let real := fun (s : Significand) => s.toReal?.map fun x => Number.real (x.withSign p.negative)
  match p.exponent with
  | some (down, digits) =>
    let e := (Numeral.readFrom 0 digits).getD 0
    if maxExponent < e then
      if s.value = 0 || down then real ⟨0, 0⟩ else none
    else real ⟨s.value, if down then s.power - e else s.power + e⟩
  | none =>
    if p.fraction.isSome || !exact then real s
    else if !p.negative then some (.integer s.value)
    else if s.value = 0 || Nat.pow 2 63 < s.value then real s
    else some (.integer (-(s.value : Int)))

end TaskGrid.Json
