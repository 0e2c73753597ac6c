import Mathlib.Algebra.Group.Nat.Defs
import TaskGrid.TaskOptions.Message

/-! What is left of task options that went into a message and came back. The seconds of a duration wrap around on
their way there, and on their way back they are cut off at zero. -/
namespace TaskGrid

namespace Duration

/-- The seconds of the duration fit into a message. -/
def Fits (d : Duration) : Prop := d.seconds.toNat < 2 ^ 63

instance : DecidablePred Fits := fun d => inferInstanceAs (Decidable (d.seconds.toNat < 2 ^ 63))

/-- The duration without its seconds if these do not fit into a message. -/
def clipped (d : Duration) : Duration := if d.Fits then d else { d with seconds := 0 }

/-- Seconds beyond the limit become negative, and count as none. -/
theorem toNat_toInt_seconds (d : Duration) :
    d.seconds.toInt64.toInt.toNat = if d.Fits then d.seconds.toNat else 0 := by
  have hlt := d.seconds.toNat_lt
  have hbits : d.seconds.toInt64.toInt = d.seconds.toBitVec.toInt := rfl
  have hnat : d.seconds.toBitVec.toNat = d.seconds.toNat := rfl
  rw [hbits, BitVec.toInt_eq_toNat_cond, hnat]
  by_cases h : d.Fits
  · have hlow : 2 * d.seconds.toNat < 2 ^ 64 := by
      rw [Fits] at h
      omega
    rw [if_pos h, if_pos hlow, Int.toNat_natCast]
  · have hhigh : ¬ 2 * d.seconds.toNat < 2 ^ 64 := by
      rw [Fits] at h
      omega
    rw [if_neg h, if_neg hhigh]
    omega

theorem toNat_toInt_nanos (d : Duration) : (Int32.ofNat d.nanos).toInt.toNat = d.nanos := by
  have hlt := d.nanos_lt
  rw [Int32.toInt_ofNat_of_lt (by omega), Int.toNat_natCast]

theorem ofNanos_parts {seconds nanos : Nat} (h : nanos < 1000000000) :
    ofNanos (seconds * nanosPerSecond + nanos) = ⟨UInt64.ofNat seconds, nanos, h⟩ := by
  have hdiv : (seconds * nanosPerSecond + nanos) / nanosPerSecond = seconds := by
    rw [nanosPerSecond]
    omega
  have hmod : (seconds * nanosPerSecond + nanos) % nanosPerSecond = nanos := by
    rw [nanosPerSecond]
    omega
  simp only [ofNanos, hdiv, hmod]

theorem ofMessage_toMessage (d : Duration) : ofMessage d.toMessage = d.clipped := by
  rw [toMessage, ofMessage, toNat_toInt_seconds, toNat_toInt_nanos, ofNanos_parts d.nanos_lt, clipped]
  by_cases h : d.Fits
  · rw [if_pos h, if_pos h, UInt64.ofNat_toNat]
  · rw [if_neg h, if_neg h]
    rfl

theorem clipped_eq_iff (d : Duration) : d.clipped = d ↔ d.Fits := by
  by_cases h : d.Fits
  · rw [clipped, if_pos h]
    exact iff_of_true rfl h
  · rw [clipped, if_neg h]
    refine iff_of_false (fun heq => h ?_) h
    have hzero : d.seconds = 0 := (congrArg seconds heq).symm
    rw [Fits, hzero]
    decide

end Duration

namespace TaskOptions

/-- Task options that went through a message have all they had, but for the seconds of a greatest duration of
`2 ^ 63` seconds and more, of which none are left. So they are equal to what they were exactly if these fit. -/
theorem ofMessage_toMessage_eq_iff (o : TaskOptions) :
    ofMessage o.toMessage = { o with maxDuration := o.maxDuration.clipped } ∧
      (ofMessage o.toMessage = o ↔ o.maxDuration.seconds.toNat < 2 ^ 63) := by
  have hback : ofMessage o.toMessage = { o with maxDuration := o.maxDuration.clipped } := by
    rw [← Duration.ofMessage_toMessage]
    rfl
  refine ⟨hback, ?_⟩
  rw [hback]
  constructor
  · intro h
    exact o.maxDuration.clipped_eq_iff.mp (congrArg maxDuration h)
  · intro h
    rw [o.maxDuration.clipped_eq_iff.mpr h]

/-- Of the longest duration less than a second is left. -/
theorem longest_duration_lost :
    (ofMessage (toMessage { maxDuration := ⟨UInt64.ofNat (2 ^ 64 - 1), 999999999, by decide⟩ })).maxDuration =
      ⟨0, 999999999, by decide⟩ := by
  decide +kernel

end TaskOptions
end TaskGrid
