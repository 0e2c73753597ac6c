import TaskGrid.Decimal.Binary64

/-!
Spans of time in seconds and nanoseconds, and their values in binary floating-point seconds.
-/

namespace TaskGrid

/-- A span of time of less than `2 ^ 64` seconds. -/
structure Duration where
  seconds : UInt64
  nanos : Nat
  nanos_lt : nanos < 1000000000
  deriving DecidableEq, Repr

namespace Duration

def nanosPerSecond : Nat := 1000000000

def total (d : Duration) : Nat := d.seconds.toNat * nanosPerSecond + d.nanos

/-- The span of a number of nanoseconds, its seconds counted modulo `2 ^ 64`. -/
def ofNanos (n : Nat) : Duration :=
  ⟨UInt64.ofNat (n / nanosPerSecond), n % nanosPerSecond, Nat.mod_lt _ (by decide)⟩

def ofSeconds (n : Nat) : Duration := ofNanos (n * nanosPerSecond)

def zero : Duration := ofNanos 0

instance : Inhabited Duration := ⟨zero⟩

/-- The span nearest to a number of seconds, a half going to the even number of nanoseconds; none for
negative numbers and for those of `2 ^ 64` seconds and more. -/
def ofReal? (x : Binary64) : Option Duration :=
  let (n, d) := x.quotient
  let nanos := Binary64.divToEven (n * nanosPerSecond) d
  if (x.negative && !x.isZero) || UInt64.size * nanosPerSecond ≤ nanos then none else some (ofNanos nanos)

/-- The number of seconds: the rounded seconds and the rounded fraction, their sum rounded. -/
def toReal? (d : Duration) : Option Binary64 := do
  let seconds ← Binary64.ofNat? d.seconds.toNat
  let fraction ← (← Binary64.ofNat? d.nanos).div? (← Binary64.ofNat? nanosPerSecond)
  seconds.addMagnitudes? fraction

theorem total_ofNanos (n : Nat) (h : n < UInt64.size * nanosPerSecond) : (ofNanos n).total = n := by
  have : n / nanosPerSecond < UInt64.size := by
    rw [Nat.div_lt_iff_lt_mul (by decide)]; exact h
  simp only [total, ofNanos, UInt64.toNat_ofNat', Nat.mod_eq_of_lt this]
  rw [Nat.mul_comm]
  exact Nat.div_add_mod n nanosPerSecond

end Duration
end TaskGrid
