import TaskGrid.Proofs.Text.Numeral
import TaskGrid.Settings.Views

/-! Which values are counts. Main statement: `count_eq_ok_iff`, which says it without the reader. -/
namespace TaskGrid.Settings

/-- A value that spells a number: its digits, perhaps after a plus sign, and blanks around them. -/
def Spells (value : String) (n : Nat) : Prop :=
  ∃ before sign digits after, value.toList = before ++ (sign ++ digits) ++ after ∧
    (∀ c ∈ before, Text.isBlank c = true) ∧ (∀ c ∈ after, Text.isBlank c = true) ∧
    (sign = [] ∨ sign = ['+']) ∧ Numeral.IsDigits digits ∧ Numeral.number digits = n

/-- What stands under a key, as a count. -/
inductive Counts (s : Settings) (key : String) (default : Nat) : Nat → Prop where
  | unset (h : s.get? key = none) : Counts s key default default
  | empty (h : s.get? key = some "") : Counts s key default default
  | spelled {value : String} {n : Nat} (h : s.get? key = some value) (hspells : Spells value n)
    (hmax : n ≤ maxCount) : Counts s key default n

theorem isBlank_of_isDigit {c : Char} (h : c.isDigit = true) : Text.isBlank c = false := by
  unfold Char.isDigit at h
  rw [Bool.and_eq_true, decide_eq_true_eq, decide_eq_true_eq] at h
  have hlow : 48 ≤ c.toNat := UInt32.le_iff_toNat_le.mp h.1
  have hhigh : c.toNat ≤ 57 := UInt32.le_iff_toNat_le.mp h.2
  simp only [Text.isBlank, Bool.or_eq_false_iff, Bool.and_eq_false_iff, beq_eq_false_iff_ne,
    decide_eq_false_iff_not]
  omega

theorem isBlank_of_mem_numeral {sign digits : List Char} (hsign : sign = [] ∨ sign = ['+'])
    (hdigits : Numeral.IsDigits digits) : ∀ c ∈ sign ++ digits, Text.isBlank c = false := by
  intro c hc
  rcases List.mem_append.mp hc with hc | hc
  · rcases hsign with rfl | rfl
    · cases hc
    · rw [List.mem_singleton.mp hc]
      decide
  · exact isBlank_of_isDigit (hdigits.2 c hc)

theorem countOf?_eq_some_iff {value : String} {n : Nat} :
    countOf? value = some n ↔ Spells value n ∧ n ≤ maxCount := by
  unfold countOf?
  rw [Option.filter_eq_some_iff, decide_eq_true_eq, Numeral.readUnsigned?_eq_some_iff]
  apply and_congr_left
  rintro -
  constructor
  · rintro ⟨sign, digits, htrim, hsign, hdigits, hn⟩
    have hcore := isBlank_of_mem_numeral hsign hdigits
    obtain ⟨before, after, hvalue, hbefore, hafter⟩ := (Text.trimChars_eq_iff hcore).mp htrim
    exact ⟨before, sign, digits, after, hvalue, hbefore, hafter, hsign, hdigits, hn⟩
  · rintro ⟨before, sign, digits, after, hvalue, hbefore, hafter, hsign, hdigits, hn⟩
    have hcore := isBlank_of_mem_numeral hsign hdigits
    have htrim := (Text.trimChars_eq_iff hcore).mpr ⟨before, after, hvalue, hbefore, hafter⟩
    exact ⟨sign, digits, htrim, hsign, hdigits, hn⟩

theorem not_spells_empty (n : Nat) : ¬ Spells "" n := by
  rintro ⟨before, sign, digits, after, hvalue, -, -, -, hdigits, -⟩
  have hnil := List.append_eq_nil_iff.mp hvalue.symm
  exact hdigits.1 (List.append_eq_nil_iff.mp (List.append_eq_nil_iff.mp hnil.1).2).2

variable {s : Settings} {key : String} {default n : Nat}

theorem count_eq_ok_iff : s.count key default = .ok n ↔ s.Counts key default n := by
  constructor
  · intro h
    unfold count at h
    split at h
    · next hunset =>
      cases h
      exact .unset hunset
    · next value hvalue =>
      split at h
      · next hempty =>
        cases h
        exact .empty (hempty ▸ hvalue)
      · split at h
        · next m hm =>
          cases h
          obtain ⟨hspells, hmax⟩ := countOf?_eq_some_iff.mp hm
          exact .spelled hvalue hspells hmax
        · cases h
  · intro h
    unfold count
    cases h with
    | unset h => rw [h]
    | empty h =>
      rw [h]
      rfl
    | @spelled value n h hspells hmax =>
      have hne : value ≠ "" := by
        rintro rfl
        exact not_spells_empty n hspells
      rw [h]
      simp only [if_neg hne, countOf?_eq_some_iff.mpr ⟨hspells, hmax⟩]

/-- A value that is no count is named in the error. -/
theorem count_eq_error {flaw : Flaw} (h : s.count key default = .error flaw) :
    ∃ value, s.get? key = some value ∧ flaw = .notACount key value := by
  unfold count at h
  split at h
  · cases h
  · next value hvalue =>
    split at h
    · cases h
    · split at h
      · cases h
      · cases h
        exact ⟨value, hvalue, rfl⟩

theorem Counts.unique {n' : Nat} (h : s.Counts key default n) (h' : s.Counts key default n') : n = n' :=
  Except.ok.inj ((count_eq_ok_iff.mpr h).symm.trans (count_eq_ok_iff.mpr h'))

/-- A count that cannot be read is an error in the settings. -/
theorem count_spec (s : Settings) (key : String) (default : Nat) :
    (∃ n, s.count key default = .ok n ∧ s.Counts key default n) ∨
      (∃ flaw details, s.count key default = .error flaw ∧ flaw.toGrid = .invalidSettings details) ∧
        ∀ n, ¬ s.Counts key default n := by
  cases hcount : s.count key default with
  | ok n => exact .inl ⟨n, rfl, count_eq_ok_iff.mp hcount⟩
  | error flaw =>
    right
    obtain ⟨value, -, rfl⟩ := count_eq_error hcount
    refine ⟨⟨_, _, rfl, rfl⟩, fun n hn => ?_⟩
    cases hcount.symm.trans (count_eq_ok_iff.mpr hn)

end TaskGrid.Settings
