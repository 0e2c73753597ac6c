import TaskGrid.TaskOptions.Message

/-! Task options that are read from a message, whoever wrote it. The greatest duration is the sum of two spans, one of
seconds and one of nanoseconds. The seconds were a signed word and go into an unsigned one, so they have room for all
that the nanoseconds carry. -/
namespace TaskGrid

open Wire

/-- The greater of two words, whatever their width, is the greater number. -/
theorem map_maxOfLe {α : Type} [LE α] [DecidableLE α] {f : α → Int} (hf : ∀ {x y}, x ≤ y ↔ f x ≤ f y)
    (x y : α) : f (maxOfLe.max x y) = max (f x) (f y) := by
  rw [Int.max_def]
  exact (apply_ite f (x ≤ y) y x).trans (ite_congr (propext hf) (fun _ => rfl) fun _ => rfl)

/-- A word that is a number cut off at zero stays this number without its sign. -/
theorem toNat_toUInt64 {x : Int64} {i : Int} (h : x.toInt = max i 0) : x.toUInt64.toNat = i.toNat := by
  have hbits : x.toInt = x.toBitVec.toInt := rfl
  have hnat : x.toUInt64.toNat = x.toBitVec.toNat := rfl
  have hlt := x.toBitVec.isLt
  rw [hbits, BitVec.toInt_eq_toNat_cond] at h
  split at h <;> omega

namespace Duration

/-- The sum of two spans in words, of 64 bits for the seconds and of 32 for the nanoseconds: none if an addition is out
of range, be it that of the seconds, of the nanoseconds or of the second that is carried. -/
def add? (d e : Duration) : Option Duration :=
  if d.seconds.toNat + e.seconds.toNat < UInt64.size ∧ d.nanos + e.nanos < UInt32.size then
    if h : d.nanos + e.nanos < 1000000000 then some ⟨d.seconds + e.seconds, d.nanos + e.nanos, h⟩
    else if (d.seconds + e.seconds).toNat + 1 < UInt64.size then
      some ⟨d.seconds + e.seconds + 1, d.nanos + e.nanos - 1000000000, by
        have := d.nanos_lt
        have := e.nanos_lt
        omega⟩
    else none
  else none

def ofSecondsWord (n : UInt64) : Duration := ⟨n, 0, by decide⟩

def ofNanosWord (n : UInt64) : Duration :=
  ⟨n / 1000000000, (n % 1000000000).toNat, by
    rw [UInt64.toNat_mod]
    exact Nat.mod_lt _ (by decide)⟩

/-- The parts of a message as spans of their own, added up; a negative part counts as zero. -/
def ofParts? : Message.duration.Value → Option Duration
  | (seconds, nanos, ()) =>
    (ofSecondsWord (Int64.toUInt64 (max (seconds : Int64) 0))).add?
      (ofNanosWord (Int64.toUInt64 (Int32.toInt64 (max (nanos : Int32) 0))))

variable {d e f : Duration}

theorem total_lt (d : Duration) : d.total < UInt64.size * nanosPerSecond := by
  have hseconds : d.seconds.toNat < UInt64.size := d.seconds.toNat_lt
  have hnanos := d.nanos_lt
  rw [total, nanosPerSecond]
  omega

theorem eq_of_total_eq (h : d.total = e.total) : d = e := by
  have hd := d.nanos_lt
  have he := e.nanos_lt
  rw [total, total, nanosPerSecond] at h
  have hseconds : d.seconds.toNat = e.seconds.toNat := by omega
  have hnanos : d.nanos = e.nanos := by omega
  cases d
  cases e
  cases UInt64.toNat_inj.mp hseconds
  cases hnanos
  rfl

/-- The sum is exact, and it is there unless it is too long for a span. -/
theorem add?_spec (d e : Duration) :
    (∃ f, d.add? e = some f ∧ f.total = d.total + e.total) ∨
      (d.add? e = none ∧ UInt64.size * nanosPerSecond ≤ d.total + e.total) := by
  have hd := d.nanos_lt
  have he := e.nanos_lt
  have hsize : UInt64.size = 2 ^ 64 := rfl
  -- the nanoseconds alone are always in range, so that only the seconds can be too many
  have hwords : d.nanos + e.nanos < UInt32.size := by
    rw [show UInt32.size = 2 ^ 32 from rfl]
    omega
  unfold add?
  split
  · next hsum =>
    have hseconds : (d.seconds + e.seconds).toNat = d.seconds.toNat + e.seconds.toNat := by
      rw [UInt64.toNat_add]
      exact Nat.mod_eq_of_lt hsum.1
    split
    · refine .inl ⟨_, rfl, ?_⟩
      simp only [total, hseconds, nanosPerSecond]
      omega
    · split
      · next hcarry =>
        have hcarried : (d.seconds + e.seconds + 1).toNat = d.seconds.toNat + e.seconds.toNat + 1 := by
          rw [UInt64.toNat_add, hseconds]
          exact Nat.mod_eq_of_lt (hseconds ▸ hcarry)
        refine .inl ⟨_, rfl, ?_⟩
        simp only [total, hcarried, nanosPerSecond]
        omega
      · refine .inr ⟨rfl, ?_⟩
        simp only [total, nanosPerSecond]
        omega
  · next hsum =>
    have hseconds : UInt64.size ≤ d.seconds.toNat + e.seconds.toNat :=
      Nat.le_of_not_lt fun h => hsum ⟨h, hwords⟩
    refine .inr ⟨rfl, ?_⟩
    simp only [total, nanosPerSecond]
    omega

theorem add?_eq_some_iff : d.add? e = some f ↔ f.total = d.total + e.total := by
  rcases add?_spec d e with ⟨g, hg, htotal⟩ | ⟨hnone, hle⟩
  · rw [hg, Option.some.injEq, ← htotal]
    exact ⟨fun h => h ▸ rfl, fun h => (eq_of_total_eq h).symm⟩
  · have hlt := f.total_lt
    rw [hnone]
    refine iff_of_false (by simp) ?_
    omega

/-- The longest span has no room for one more nanosecond. -/
example : (⟨UInt64.ofNat (2 ^ 64 - 1), 999999999, by decide⟩ : Duration).add? (ofNanosWord 1) = none := by
  decide +kernel

theorem total_ofSecondsWord (n : UInt64) : (ofSecondsWord n).total = n.toNat * nanosPerSecond :=
  Nat.add_zero _

theorem total_ofNanosWord (n : UInt64) : (ofNanosWord n).total = n.toNat := by
  have hseconds : (n / 1000000000).toNat = n.toNat / 1000000000 := UInt64.toNat_div ..
  have hnanos : (n % 1000000000).toNat = n.toNat % 1000000000 := UInt64.toNat_mod ..
  simp only [total, ofNanosWord, hseconds, hnanos, nanosPerSecond]
  omega

theorem total_ofMessage (seconds : Int64) (nanos : Int32) :
    (ofMessage (seconds, nanos, ())).total = seconds.toInt.toNat * nanosPerSecond + nanos.toInt.toNat := by
  have hseconds := seconds.toInt_lt
  have hnanos := nanos.toInt_lt
  refine total_ofNanos _ ?_
  rw [show UInt64.size = 2 ^ 64 from rfl, nanosPerSecond]
  omega

/-- The parts of a message can always be added up, and their sum is what is read. -/
theorem ofParts?_eq (m : Message.duration.Value) : ofParts? m = some (ofMessage m) := by
  obtain ⟨seconds, nanos, ⟨⟩⟩ := m
  have hseconds : (max (seconds : Int64) 0).toInt = max (Int64.toInt seconds) 0 :=
    map_maxOfLe Int64.le_iff_toInt_le ..
  have hnanos : (Int32.toInt64 (max (nanos : Int32) 0)).toInt = max (Int32.toInt nanos) 0 :=
    (Int32.toInt_toInt64 _).trans (map_maxOfLe Int32.le_iff_toInt_le ..)
  rw [ofParts?, add?_eq_some_iff, total_ofSecondsWord, total_ofNanosWord, toNat_toUInt64 hseconds,
    toNat_toUInt64 hnanos]
  exact total_ofMessage seconds nanos

/-- The greatest parts come to more seconds than a signed word can count. -/
example : ofParts? (Int64.maxValue, Int32.maxValue, ()) = some ⟨9223372036854775809, 147483647, by decide⟩ := by
  decide +kernel

end Duration

namespace TaskOptions

/-- Whatever a message says, its parts of a greatest duration add up, without an addition out of range, to a duration
worth the seconds and the nanoseconds that are not negative, or to none where there are no parts. The options have this
duration, and all else as the message has it. -/
theorem ofMessage_exact (extra : Table String String) (parts : Option Message.duration.Value)
    (maxRetries priority : Int32) (partition name version space service engine : String) :
    ∃ longest : Duration,
      parts.elim (some Duration.zero) Duration.ofParts? = some longest ∧
      longest.nanos < 1000000000 ∧
      (longest.total : Int) = parts.elim 0 (fun (seconds, nanos, ()) =>
        max (Int64.toInt seconds) 0 * 1000000000 + max (Int32.toInt nanos) 0) ∧
      ofMessage (extra, parts, maxRetries, priority, partition, name, version, space, service, engine, ()) =
        { applicationName := name
          applicationVersion := version
          applicationNamespace := space
          applicationService := service
          partition := partition
          engineType := engine
          priority := priority
          maxRetries := maxRetries
          maxDuration := longest
          extra := extra } := by
  refine ⟨(parts.map Duration.ofMessage).getD Duration.zero, ?_, Duration.nanos_lt _, ?_, rfl⟩
  · cases parts with
    | none => rfl
    | some m => exact Duration.ofParts?_eq m
  · cases parts with
    | none => rfl
    | some m =>
      obtain ⟨seconds, nanos, ⟨⟩⟩ := m
      have htotal := Duration.total_ofMessage seconds nanos
      simp only [Option.map, Option.getD, Option.elim, htotal, Duration.nanosPerSecond]
      omega

end TaskOptions
end TaskGrid
